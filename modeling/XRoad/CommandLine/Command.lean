import XRoad.CommandLine.Form

/-!
# Commands

What the program can be asked for.
-/

namespace XRoad.CommandLine

inductive IdentifierKind where
  | client
  | service
  | server
  deriving DecidableEq

def IdentifierKind.name : IdentifierKind → String
  | .client => "Client"
  | .service => "Service"
  | .server => "Server"

def IdentifierKind.ofWord (word : String) : IdentifierKind :=
  if word = "client" then .client else if word = "server" then .server else .service

inductive Command where
  | request (service : String) (payload id : Option String)
  | response (file : String) (nsUri : Option String) (wrapped : Bool)
  | clients (file : String)
  | centralServices (file : String)
  | methods (file : String)
  | metrics (file : String)
  | identifier (kind : IdentifierKind) (text : String)
  deriving DecidableEq

structure Invocation where
  /-- The directory of the configuration, empty if none is asked for. -/
  directory : String := ""
  logLevel : Option String := none
  command : Command

/-! ### Their forms -/

def configOption : OptionForm where
  name := "config"
  placeholder := some "CONFIG"
  kind := .path
  help := "Répertoire de configuration (contient config.yaml)"

def logLevelOption : OptionForm where
  name := "log-level"
  placeholder := some "LOG_LEVEL"
  help := "Niveau de log (trace, debug, info, warn, error)"

def fileOperand : OperandForm where
  placeholder := "FILE"
  kind := .path

def fileForm (about : String) : Form where
  about := about
  operands := [fileOperand]
  options := [configOption, logLevelOption]

def requestForm : Form where
  about := "Build a request envelope for a configured service"
  operands := [{ placeholder := "SERVICE", help := "Configured service name" }]
  options := [configOption,
    { name := "payload", placeholder := some "PAYLOAD", kind := .path
      help := "XML file whose root children become the request payload" },
    { name := "id", placeholder := some "ID", help := "Message id (random UUID by default)" },
    logLevelOption]

def responseForm : Form where
  about := "Read a response envelope and print it as JSON"
  operands := [fileOperand]
  options := [configOption,
    { name := "namespace", placeholder := some "NAMESPACE"
      help := "Expected namespace of the response element" },
    logLevelOption,
    { name := "wrappers", placeholder := none
      help := "Payload is wrapped in request/response elements" }]

def identifierForm : Form where
  about := "Parse an identifier string"
  operands := [{ placeholder := "ID" }]
  options := [configOption,
    { name := "kind", placeholder := some "KIND", kind := .choice ["client", "service", "server"]
      help := "[default: service] [possible values: client, service, server]" },
    logLevelOption]

/-- The commands by name: what each takes, and what it makes of that. -/
def commandTable : List (String × Form × (Given → Command)) := [
  ("request", requestForm, fun g => .request (g.operand 0) (g.option? "payload") (g.option? "id")),
  ("response", responseForm,
    fun g => .response (g.operand 0) (g.option? "namespace") (g.option? "wrappers").isSome),
  ("list-clients", fileForm "Read a clientList document", fun g => .clients (g.operand 0)),
  ("list-central-services", fileForm "Read a centralServiceList document",
    fun g => .centralServices (g.operand 0)),
  ("list-methods", fileForm "Read a listMethods or allowedMethods response",
    fun g => .methods (g.operand 0)),
  ("metrics", fileForm "Read a getSecurityServerMetrics response, print package versions",
    fun g => .metrics (g.operand 0)),
  ("parse-id", identifierForm,
    fun g => .identifier (.ofWord ((g.option? "kind").getD "")) (g.operand 0))]

def programName : String := "xrdtool"

def versionText : String := programName ++ " 0.1.0\n"

def programForm : Form where
  about := "X-Road SOAP message codec tool"
  options := [configOption, logLevelOption]
  commands := commandTable.map (fun e => (e.1, e.2.1.about)) ++
    [("help", "Print this message or the help of the given subcommand(s)")]
  versioned := true

/-! ### Reading arguments -/

inductive Refusal where
  | shown (text : String)
  | wrong (reason : String)
  deriving DecidableEq

def refuse (call : String) (f : Form) : Stop → Refusal
  | .help => .shown (f.help call)
  | .version => .shown versionText
  | .wrong reason => .wrong reason

def helpOf : List String → Refusal
  | [] => .shown (programForm.help programName)
  | [name] =>
    match commandTable.lookup name with
    | some (form, _) => .shown (form.help (programName ++ " " ++ name))
    | none => .wrong ("unknown command " ++ name)
  | _ => .wrong "only one command has a help"

/-- What the arguments ask for. Options of all commands may stand before or behind the name of the
command, where the latter count. -/
def Invocation.ofArguments (args : List String) : Except Refusal Invocation := do
  let (outer, rest) ← (readArguments programForm none {} args).mapError (refuse programName programForm)
  match rest with
  | [] => .error (.wrong "a command is missing")
  | name :: rest =>
    match commandTable.lookup name with
    | some (form, build) =>
      let g ← (form.read rest).mapError (refuse (programName ++ " " ++ name) form)
      .ok {
        directory := (g.option? "config" <|> outer.option? "config").getD ""
        logLevel := g.option? "log-level" <|> outer.option? "log-level"
        command := build g }
    | none => .error (if name = "help" then helpOf rest else .wrong ("unknown command " ++ name))

end XRoad.CommandLine
