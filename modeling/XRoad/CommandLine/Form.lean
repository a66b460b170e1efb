/-!
# Forms of commands

The options and operands that a command takes, the help that tells about them, and how arguments are
read against them, from left to right.
-/

namespace XRoad.CommandLine

inductive ValueKind where
  | text
  /-- The name of a file or directory, which is not empty. -/
  | path
  | choice (words : List String)

def ValueKind.accepts : ValueKind → String → Bool
  | .text, _ => true
  | .path, value => value != ""
  | .choice words, value => value ∈ words

structure OptionForm where
  name : String
  /-- What its value is called in the help; a flag has no value. -/
  placeholder : Option String
  kind : ValueKind := .text
  help : String

structure OperandForm where
  placeholder : String
  kind : ValueKind := .text
  help : String := ""

structure Form where
  about : String
  /-- The operands, all of which are required. -/
  operands : List OperandForm := []
  options : List OptionForm := []
  /-- The commands, one of which follows the options, with what they are about. -/
  commands : List (String × String) := []
  versioned : Bool := false

namespace Form

/-! ### Help -/

def columns (rows : List (String × String)) : List String :=
  let width := (rows.map (·.1.length)).foldl max 0
  rows.map fun r => "  " ++ r.1 ++ String.ofList (List.replicate (width - r.1.length) ' ') ++ "  " ++ r.2

def optionRow (o : OptionForm) : String × String :=
  ("    --" ++ o.name ++ (o.placeholder.map fun p => " <" ++ p ++ ">").getD "", o.help)

def operandText (o : OperandForm) : String :=
  "<" ++ o.placeholder ++ ">"

def usage (call : String) (f : Form) : String :=
  " ".intercalate ([call, "[OPTIONS]"] ++ f.operands.map operandText ++
    if f.commands.isEmpty then [] else ["<COMMAND>"])

def helpPart (title : String) (rows : List (String × String)) : List String :=
  if rows.isEmpty then [] else "" :: (title ++ ":") :: columns rows

def help (call : String) (f : Form) : String :=
  let version := if f.versioned then [("-V, --version", "Print version")] else []
  let parts := [f.about, "", "Usage: " ++ f.usage call] ++
    helpPart "Commands" f.commands ++
    helpPart "Arguments" (f.operands.map fun o => (operandText o, o.help)) ++
    helpPart "Options" (f.options.map optionRow ++ [("-h, --help", "Print help")] ++ version)
  "\n".intercalate parts ++ "\n"

end Form

/-! ### Arguments -/

inductive Stop where
  | help
  | version
  | wrong (reason : String)
  deriving DecidableEq

structure Given where
  options : List (String × String) := []
  operands : List String := []

namespace Given

def option? (g : Given) (name : String) : Option String :=
  g.options.lookup name

def operand (g : Given) (n : Nat) : String :=
  g.operands.getD n ""

/-- Adds an option, which may be given once. -/
def addOption (g : Given) (o : OptionForm) (value : String) : Except Stop Given :=
  if (g.option? o.name).isSome then .error (.wrong ("--" ++ o.name ++ " is given twice"))
  else if o.kind.accepts value then .ok { g with options := g.options ++ [(o.name, value)] }
  else .error (.wrong ("unexpected value of --" ++ o.name))

def addOperand (f : Form) (g : Given) (value : String) : Except Stop Given :=
  match f.operands[g.operands.length]? with
  | none => .error (.wrong ("unexpected argument " ++ value))
  | some o =>
    if o.kind.accepts value then .ok { g with operands := g.operands ++ [value] }
    else .error (.wrong ("unexpected value of " ++ o.placeholder))

end Given

/-- A word that begins with a hyphen is no value, unless it is all of it. -/
def isHyphened (arg : String) : Bool :=
  match arg.toList with
  | '-' :: _ :: _ => true
  | _ => false

def splitOption (cs : List Char) : String × Option String :=
  let name := cs.takeWhile (· ≠ '=')
  (String.ofList name,
    if name.length < cs.length then some (String.ofList (cs.drop (name.length + 1))) else none)

def commonOption (f : Form) (name : String) : Stop :=
  if name = "help" ∨ name = "h" then .help
  else if f.versioned ∧ (name = "version" ∨ name = "V") then .version
  else .wrong ("unexpected option " ++ name)

/-- Reads an option by its long name; one that waits for its value comes back. -/
def readOption (f : Form) (g : Given) (cs : List Char) : Except Stop (Option OptionForm × Given) := do
  let (name, attached) := splitOption cs
  match f.options.find? (·.name == name), attached with
  | none, none => .error (commonOption f name)
  | none, some _ => .error (.wrong ("unexpected option " ++ name))
  | some o, none => if o.placeholder.isSome then .ok (some o, g) else .ok (none, ← g.addOption o "")
  | some o, some value =>
    if o.placeholder.isSome then .ok (none, ← g.addOption o value)
    else .error (.wrong ("unexpected value of --" ++ name))

/-- Reads arguments up to their end, or up to the name of a command if the form has commands. An
option may wait for its value. -/
def readArguments (f : Form) :
    (waiting : Option OptionForm) → Given → List String → Except Stop (Given × List String)
  | none, g, [] => .ok (g, [])
  | some o, _, [] => .error (.wrong ("--" ++ o.name ++ " has no value"))
  | some o, g, arg :: rest => do
    if isHyphened arg then .error (.wrong ("--" ++ o.name ++ " has no value"))
    else readArguments f none (← g.addOption o arg) rest
  | none, g, arg :: rest => do
    match arg.toList with
    | ['-', '-'] => .ok (← rest.foldlM (Given.addOperand f) g, [])
    | '-' :: '-' :: cs =>
      let (waiting, g) ← readOption f g cs
      readArguments f waiting g rest
    | '-' :: c :: _ => .error (commonOption f (String.singleton c))
    | _ =>
      if f.commands.isEmpty then readArguments f none (← g.addOperand f arg) rest
      else .ok (g, arg :: rest)

def Form.read (f : Form) (args : List String) : Except Stop Given := do
  let (g, _) ← readArguments f none {} args
  match f.operands[g.operands.length]? with
  | some o => .error (.wrong (o.placeholder ++ " is missing"))
  | none => .ok g

end XRoad.CommandLine
