import RecordSearch.Cli.Command

/-!
The texts that explain the commands.
-/

namespace RecordSearch.Cli.Help

def padded (width : Nat) (s : String) : String :=
  s ++ String.ofList (List.replicate (width - s.length) ' ')

def rightAligned (width : Nat) (s : String) : String :=
  String.ofList (List.replicate (width - s.length) ' ') ++ s

/-- Lines of two columns, the first as wide as its longest text and two spaces. -/
def table (rows : List (String × String)) : List String :=
  let width := (rows.map fun row => row.1.length).foldl max 0
  rows.map fun row => "  " ++ padded (width + 2) row.1 ++ row.2

def optionName (short : Option Char) (rest : String) : String :=
  (match short with
    | some c => "-" ++ String.singleton c ++ ", "
    | none => "    ") ++ "--" ++ rest

def optionRow (form : OptionForm) : String × String :=
  let default : String :=
    match form.default with
    | some value => "[default: " ++ value ++ "]"
    | none => ""
  (optionName form.short (form.long ++ " <" ++ form.valueName ++ ">"),
    if form.meaning.isEmpty then default
    else if default.isEmpty then form.meaning
    else form.meaning ++ " " ++ default)

def helpRow : String × String := (optionName (some 'h') "help", "Print help")

def versionRow : String × String := (optionName (some 'V') "version", "Print version")

def titled (title : String) (rows : List (String × String)) : List String :=
  if rows.isEmpty then [] else ["", title ++ ":"] ++ table rows

def text (lines : List String) : String := String.join (lines.map (· ++ "\n"))

def ofCommand (form : CommandForm) : String :=
  let usage := ["Usage:", programName, form.name] ++
    (if form.options.isEmpty then [] else ["[OPTIONS]"]) ++
    form.operands.map fun o => "<" ++ o.name ++ ">"
  text ([form.meaning, "", " ".intercalate usage] ++
    titled "Arguments" (form.operands.map fun o => ("<" ++ o.name ++ ">", "")) ++
    titled "Options" (form.options.map optionRow ++ [helpRow]))

def ofProgram : String :=
  text ([programMeaning, "", "Usage: " ++ programName ++ " [OPTIONS] <COMMAND>"] ++
    titled "Commands" ((Command.forms ++ [Command.helpForm]).map fun f => (f.name, f.meaning)) ++
    titled "Options" (headOptions.map optionRow ++ [helpRow, versionRow]))

def version : String := programName ++ " " ++ programVersion ++ "\n"

end RecordSearch.Cli.Help
