import RecordSearch.Text.Letter

/-!
Data documents: trees of scalars, lists and records, and how values are read from them.

A scalar of JSON shows its type.  A plain scalar of YAML is text that takes the type it is asked
for.
-/

namespace RecordSearch

open RecordSearch.Text

inductive Tree where
  | null
  | bool (b : Bool)
  | int (n : Int)
  /-- A number that is no integer, as it is written. -/
  | real (s : String)
  | text (s : String)
  /-- A scalar without quotes, as it is written. -/
  | plain (s : String)
  /-- A scalar that has no value. -/
  | broken
  | list (items : List Tree)
  /-- A key may be something else than a text. -/
  | record (entries : List (Option String × Tree))
  deriving Repr, Inhabited

namespace Tree

def tagged (name : String) (t : Tree) : Tree := record [(some name, t)]

def named (entries : List (String × Tree)) : Tree :=
  record (entries.map fun e => (some e.1, e.2))

def nat (n : Nat) : Tree := int n

/-- The digits of a number in a base up to sixteen. -/
def digits? (base : Nat) (s : List Char) : Option Nat :=
  if s.isEmpty then none
  else s.foldl (fun sum c => do
    let sum ← sum
    let d ←
      if isAsciiDigit c then some (c.toNat - 0x30)
      else if 'a' ≤ asciiLower c && asciiLower c ≤ 'f' then some ((asciiLower c).toNat - 0x57)
      else none
    if d < base then some (sum * base + d) else none) (some 0)

/-- A number without a sign: hexadecimal, octal, binary, or decimal without a leading zero. -/
def natural? : List Char → Option Nat
  | '0' :: 'x' :: rest => digits? 16 rest
  | '0' :: 'o' :: rest => digits? 8 rest
  | '0' :: 'b' :: rest => digits? 2 rest
  | ['0'] => some 0
  | '0' :: _ => none
  | s => digits? 10 s

def plainNat? (s : String) : Option Nat :=
  match s.toList with
  | '+' :: rest => natural? rest
  | s => natural? s

def plainInt? (s : String) : Option Int :=
  match s.toList with
  | '-' :: rest => (natural? rest).map fun n => -(n : Int)
  | _ => (plainNat? s).map fun n => (n : Int)

def plainBool? : String → Option Bool
  | "true" => some true
  | "True" => some true
  | "TRUE" => some true
  | "false" => some false
  | "False" => some false
  | "FALSE" => some false
  | _ => none

def isPlainNull (s : String) : Bool := ["", "~", "null", "Null", "NULL"].contains s

def isPlainReal (s : String) : Bool :=
  let unsigned :=
    match s.toList with
    | '-' :: rest => rest
    | '+' :: rest => rest
    | s => s
  let whole := unsigned.takeWhile isAsciiDigit
  let afterWhole := unsigned.dropWhile isAsciiDigit
  let fraction :=
    match afterWhole with
    | '.' :: rest => rest.takeWhile isAsciiDigit
    | _ => []
  let afterFraction :=
    match afterWhole with
    | '.' :: rest => rest.dropWhile isAsciiDigit
    | rest => rest
  let ended :=
    match afterFraction with
    | [] => true
    | c :: rest =>
      let rest :=
        match rest with
        | '-' :: rest => rest
        | '+' :: rest => rest
        | rest => rest
      (c == 'e' || c == 'E') && !rest.isEmpty && rest.all isAsciiDigit
  let padded := 1 < whole.length && whole.head? == some '0' && afterWhole.isEmpty
  ((!whole.isEmpty || !fraction.isEmpty) && ended && !padded) ||
    [".inf", ".Inf", ".INF"].any (fun name => name.toList == unsigned) ||
    [".nan", ".NaN", ".NAN"].contains s

/-- A scalar with the type that it shows. -/
def typed : Tree → Tree
  | plain s =>
    if isPlainNull s then null
    else
      match plainBool? s with
      | some b => bool b
      | none =>
        match plainInt? s with
        | some n => int n
        | none => if isPlainReal s then real s else text s
  | t => t

def asText? : Tree → Option String
  | text s => some s
  | plain s => some s
  | _ => none

def asBool? : Tree → Option Bool
  | bool b => some b
  | plain s => plainBool? s
  | _ => none

def asNat? (limit : Nat) (t : Tree) : Option Nat :=
  let n :=
    match t with
    | int n => if 0 ≤ n then some n.toNat else none
    | plain s => plainNat? s
    | _ => none
  n.filter (· < limit)

def asOption? {α : Type} (read : Tree → Option α) : Tree → Option (Option α)
  | null => some none
  | plain s => if isPlainNull s then some none else (read (plain s)).map some
  | t => (read t).map some

/-- A list of values; a plain scalar that is empty is an empty list. -/
def asList? {α : Type} (read : Tree → Option α) : Tree → Option (List α)
  | list items => items.mapM read
  | plain "" => some []
  | _ => none

structure Members where
  entries : List (String × Tree)
  /-- Whether the members were told apart by their places. -/
  positional : Bool

/-- Members by their names, or by their places in a list where `places` allows it. Unknown names
are passed over; a known name must not occur twice. A plain scalar that is empty has no members. -/
def members? (places : Bool) (names : List String) : Tree → Option Members
  | record entries => do
    let keyed ← entries.mapM fun e => e.1.map fun key => (key, e.2)
    let known := keyed.filter fun e => names.contains e.1
    if (known.map Prod.fst).eraseDups.length = known.length then some ⟨known, false⟩ else none
  | list items =>
    if places && items.length ≤ names.length then some ⟨names.zip items, true⟩ else none
  | plain "" => some ⟨[], false⟩
  | _ => none

namespace Members

variable {α : Type}

def required (m : Members) (name : String) (read : Tree → Option α) : Option α :=
  (m.entries.lookup name).bind read

def withDefault (m : Members) (name : String) (default : α) (read : Tree → Option α) : Option α :=
  match m.entries.lookup name with
  | some t => read t
  | none => some default

/-- A member that may be missing where members have names. -/
def optional (m : Members) (name : String) (read : Tree → Option α) : Option (Option α) :=
  match m.entries.lookup name with
  | some t => t.asOption? read
  | none => if m.positional then none else some none

end Members

/-- The alternative that a document names, with what it says of it. -/
def alternative? : Tree → Option (String × Tree)
  | text s => some (s, null)
  | plain s => some (s, null)
  | record [(some key, t)] => some (key, t)
  | _ => none

def bareAlternative? (t : Tree) : Option String :=
  match t.alternative? with
  | some (name, null) => some name
  | _ => none

/-- The name of an alternative that nothing is said of. Only where members may be told apart by
their places may the name also be the key of a record. -/
def choice? (places : Bool) (t : Tree) : Option String :=
  if places then t.bareAlternative? else t.asText?

end Tree

end RecordSearch
