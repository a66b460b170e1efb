import XRoad.Config.Directory
import XRoad.Config.Store
import XRoad.Identifier.Notation
import XRoad.Protocol
import XRoad.Text.Blank
import XRoad.Yaml.Printer

/-!
# Configurations

The settings of a client: who it is, which services it calls and how messages are written. They are
built from defaults, a file over them, and variables over both.
-/

namespace XRoad

open Yaml (Value)

structure Config where
  directory : String
  data : Value

namespace Config

inductive Error where
  | lookup (cause : LookupError)
  /-- Something on the path of a new value is no mapping. -/
  | noMapping
  | noClient
  | noService (name : String)
  | invalidClient (id : String)
  | invalidService (id : String)
  | invalidSecurityServer (id : String)
  deriving DecidableEq

def Error.message : Error → String
  | .lookup cause => cause.message
  | .noMapping => "Current node is not a map"
  | .noClient => "client is not configured"
  | .noService name => "Service '" ++ name ++ "' is not configured"
  | .invalidClient id => "Invalid client identifier '" ++ id ++ "'"
  | .invalidService id => "Invalid service identifier '" ++ id ++ "'"
  | .invalidSecurityServer id => "Invalid security server identifier '" ++ id ++ "'"

/-! ### Where settings come from -/

def defaults : Value :=
  .mapping [
    (.text "client", .text ""),
    (.text "security_server", .text ""),
    (.text "user_id", .text ""),
    (.text "protocol_version", .text "4.0"),
    (.text "codec", .mapping [
      (.text "processing_wrappers", .bool false),
      (.text "add_namespace_to_request", .bool true)]),
    (.text "logger", .mapping [(.text "min_level", .text "INFO")]),
    (.text "services", .mapping [])]

def merged : Option Value → Value
  | some document => lowerKeys (merge defaults (lowerKeys document))
  | none => lowerKeys defaults

/-- The value of a variable: what its text writes, else the text itself. -/
def variableValue (text : String) : Value :=
  match Yaml.parseText text with
  | .ok v => v
  | .error _ => .text text

def load (directory : String) (file : Option (List UInt8)) (environment : List (String × String)) :
    Except Yaml.Error Config := do
  let document ← file.mapM Yaml.parse
  .ok { directory, data := overrideAll variableValue environment (merged document) }

def path (c : Config) : String :=
  within c.directory fileName

/-- What is written into the file, unless a value has no document. -/
def content? (c : Config) : Option String :=
  Yaml.write? c.data

/-! ### Settings -/

def get (c : Config) (path : List String) : Except Error Value :=
  match lookup path c.data with
  | .ok v => .ok v
  | .error cause => .error (.lookup cause)

def set (c : Config) (path : List String) (v : Value) : Except Error Config :=
  match set? v path c.data with
  | some data => .ok { c with data }
  | none => .error .noMapping

/-- A text that is not blank, without the white space around it, or a number as text. -/
def text? (c : Config) (path : List String) : Option String :=
  match c.get path with
  | .ok (.text s) => if Text.isBlank s then none else some (Text.trim s)
  | .ok (.number n) => some n.text
  | _ => none

def flag (c : Config) (path : List String) (fallback : Bool) : Bool :=
  match c.get path with
  | .ok (.bool b) => b
  | _ => fallback

def client (c : Config) : Except Error Consumer :=
  match c.text? ["client"] with
  | none => .error .noClient
  | some id =>
    match Consumer.ofText? id with
    | some consumer => .ok consumer
    | none => .error (.invalidClient id)

def servicePrefix? (c : Config) (name : String) : Option String :=
  match c.get ["services", name, "namespace_prefix"] with
  | .ok (.text s) => some s
  | _ => none

def service (c : Config) (name : String) : Except Error Producer :=
  match c.text? ["services", name, "id"] with
  | none => .error (.noService name)
  | some id =>
    match Service.ofText? id with
    | some s =>
      .ok { s with
        bodyPrefix := c.servicePrefix? name
        bodyUri := c.text? ["services", name, "namespace_url"] }
    | none => .error (.invalidService id)

/-- The name that a key is, under tags perhaps. -/
def keyName? : Value → Option String
  | .text s => some s
  | .tagged _ v => keyName? v
  | _ => none

def serviceNames (c : Config) : List String :=
  match c.get ["services"] with
  | .ok (.mapping es) => es.filterMap fun e => keyName? e.1
  | _ => []

def securityServer (c : Config) : Except Error (Option SecurityServer) :=
  match c.text? ["security_server"] with
  | none => .ok none
  | some id =>
    match SecurityServer.ofText? id with
    | some s => .ok (some s)
    | none => .error (.invalidSecurityServer id)

def protocolVersion (c : Config) : String :=
  (c.text? ["protocol_version"]).getD Protocol.version

def userId (c : Config) : Option String :=
  c.text? ["user_id"]

def wrappedPath : List String := ["codec", "processing_wrappers"]

def qualifyRequestPath : List String := ["codec", "add_namespace_to_request"]

def logLevelPath : List String := ["logger", "min_level"]

/-- The content of messages stands in elements of its own. -/
def wrapped (c : Config) : Bool :=
  c.flag wrappedPath false

/-- The content of requests takes the namespace of the body. -/
def qualifyRequest (c : Config) : Bool :=
  c.flag qualifyRequestPath true

def logLevel (c : Config) : String :=
  (c.text? logLevelPath).getD "INFO"

end Config

end XRoad
