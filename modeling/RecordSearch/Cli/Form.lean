import RecordSearch.Url.Basic

/-!
The forms of commands: which options and operands they take, and how a list of arguments is told
apart by them.

An argument that begins with a hyphen is an option unless two hyphens stand before it.  Every option
but the one for help, and at the top the one for the version, takes a value and is given once at
most.
-/

namespace RecordSearch.Cli

inductive ValueKind where
  | text
  /-- Not empty. -/
  | path
  | url
  deriving DecidableEq, Repr

def ValueKind.admits : ValueKind → String → Bool
  | text, _ => true
  | path, s => !s.isEmpty
  | url, s => (Url.parse s).toOption.isSome

structure OptionForm where
  long : String
  short : Option Char := none
  valueName : String
  kind : ValueKind
  meaning : String := ""
  default : Option String := none
  deriving Repr

structure OperandForm where
  name : String
  kind : ValueKind := .text
  deriving Repr

structure CommandForm where
  name : String
  meaning : String
  options : List OptionForm := []
  operands : List OperandForm := []
  deriving Repr

structure Arguments where
  options : List (String × String) := []
  operands : List String := []
  deriving DecidableEq, Repr

def Arguments.option? (a : Arguments) (long : String) : Option String := a.options.lookup long

inductive Stop where
  | help
  | version
  | misuse
  deriving DecidableEq, Repr

/-- The head of a list of arguments. -/
inductive Piece where
  | option (form : OptionForm) (value : String) (rest : List String)
  | operand (value : String) (rest : List String)
  /-- All that follows is operands. -/
  | separator (rest : List String)
  | none

namespace Piece

/-- The value of an option in the next argument, which must not look like an option itself. -/
def detached (form : OptionForm) : List String → Except Stop Piece
  | [] => .error .misuse
  | value :: rest =>
    match value.toList with
    | '-' :: _ :: _ => .error .misuse
    | _ => .ok (option form value rest)

/-- An option of one letter, whose value may follow at once or behind an equals sign. -/
def ofShort (options : List OptionForm) (hasVersion : Bool) (letter : Char) (more : List Char)
    (rest : List String) : Except Stop Piece :=
  if letter = 'h' then .error .help
  else if letter = 'V' && hasVersion then .error .version
  else
    match options.find? fun form => form.short = some letter, more with
    | Option.none, _ => .error .misuse
    | some form, [] => detached form rest
    | some form, '=' :: value => .ok (option form (String.ofList value) rest)
    | some form, value => .ok (option form (String.ofList value) rest)

/-- An option of a word, whose value may follow behind an equals sign. -/
def ofLong (options : List OptionForm) (hasVersion : Bool) (word : List Char)
    (rest : List String) : Except Stop Piece :=
  let name := String.ofList (word.takeWhile (· != '='))
  match word.dropWhile (· != '=') with
  | [] =>
    if name = "help" then .error .help
    else if name = "version" && hasVersion then .error .version
    else
      match options.find? fun form => form.long = name with
      | Option.none => .error .misuse
      | some form => detached form rest
  | _ :: value =>
    match options.find? fun form => form.long = name with
    | Option.none => .error .misuse
    | some form => .ok (option form (String.ofList value) rest)

/-- The head of a list of arguments. -/
def next (options : List OptionForm) (hasVersion : Bool) : List String → Except Stop Piece
  | [] => .ok none
  | arg :: rest =>
    match arg.toList with
    | ['-', '-'] => .ok (separator rest)
    | '-' :: '-' :: word => ofLong options hasVersion word rest
    | '-' :: letter :: more => ofShort options hasVersion letter more rest
    | _ => .ok (operand arg rest)

end Piece

namespace Arguments

def addOption (a : Arguments) (form : OptionForm) (value : String) : Except Stop Arguments :=
  if (a.option? form.long).isSome || !form.kind.admits value then .error .misuse
  else .ok { a with options := a.options ++ [(form.long, value)] }

def addOperand (forms : List OperandForm) (a : Arguments) (value : String) :
    Except Stop Arguments :=
  match forms[a.operands.length]? with
  | some form =>
    if form.kind.admits value then .ok { a with operands := a.operands ++ [value] }
    else .error .misuse
  | none => .error .misuse

def addOperands (forms : List OperandForm) : Arguments → List String → Except Stop Arguments
  | a, [] => .ok a
  | a, value :: rest =>
    match a.addOperand forms value with
    | .error stop => .error stop
    | .ok a => addOperands forms a rest

/-- Tells the arguments of a command apart; no more arguments than `fuel` are read. -/
def readFrom (form : CommandForm) : Nat → Arguments → List String → Except Stop Arguments
  | 0, a, _ => .ok a
  | fuel + 1, a, args =>
    match Piece.next form.options false args with
    | .error stop => .error stop
    | .ok .none => .ok a
    | .ok (.separator rest) => addOperands form.operands a rest
    | .ok (.option option value rest) =>
      match a.addOption option value with
      | .error stop => .error stop
      | .ok a => readFrom form fuel a rest
    | .ok (.operand value rest) =>
      match a.addOperand form.operands value with
      | .error stop => .error stop
      | .ok a => readFrom form fuel a rest

def read (form : CommandForm) (args : List String) : Except Stop Arguments :=
  match readFrom form (args.length + 1) {} args with
  | .error stop => .error stop
  | .ok a => if a.operands.length = form.operands.length then .ok a else .error .misuse

/-- The options before the name of a command, the name, and the arguments behind it. -/
def readHead (options : List OptionForm) :
    Nat → Arguments → List String → Except Stop (Arguments × String × List String)
  | 0, _, _ => .error .misuse
  | fuel + 1, a, args =>
    match Piece.next options true args with
    | .error stop => .error stop
    | .ok .none => .error .misuse
    | .ok (.separator _) => .error .misuse
    | .ok (.option option value rest) =>
      match a.addOption option value with
      | .error stop => .error stop
      | .ok a => readHead options fuel a rest
    | .ok (.operand name rest) => .ok (a, name, rest)

end Arguments

end RecordSearch.Cli
