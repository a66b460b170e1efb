import XRoad.CommandLine.Command
import XRoad.Config.Basic
import XRoad.Digest.Request
import XRoad.Report
import XRoad.Request.Printer
import XRoad.Response.MetaService

/-!
# Running commands

What a command prints, or why it fails, given what surrounds the program: its files, its variables
and random bytes.
-/

namespace XRoad.CommandLine

open Xml (Element)

inductive Failure where
  | file (name : String)
  /-- A file that has to be text is not. -/
  | encoding (name : String)
  | yaml (cause : Yaml.Error)
  | config (cause : Config.Error)
  | payload (cause : Xml.Error)
  | read (cause : ReadError)
  | write (cause : WriteError)
  | identifier (kind : IdentifierKind) (text : String)
  deriving DecidableEq

def Failure.message : Failure → String
  | .file name => "Unable to read " ++ name
  | .encoding name => "Not a text: " ++ name
  | .yaml _ => "The configuration is no YAML document"
  | .config cause => cause.message
  | .payload _ => "Invalid payload document"
  | .read cause => cause.message
  | .write cause => cause.message
  | .identifier kind text => "Invalid " ++ kind.name ++ " identifier '" ++ text ++ "'"

/-! ### Reports -/

def requestFor (c : Config) (service id : String) (payload : Option (List UInt8)) :
    Except Failure String := do
  let consumer ← c.client.mapError .config
  let producer ← (c.service service).mapError .config
  let securityServer ← c.securityServer.mapError .config
  let data ← (payload.mapM Element.parse).mapError .payload
  let r : Request Element := {
    consumer, producer, id, userId := c.userId, protocolVersion := c.protocolVersion, securityServer
    data, wrapped := c.wrapped, qualifyRequest := c.qualifyRequest }
  let m ← (RequestWriter.children.write r).mapError .write
  .ok m.toXml

def documentText : ContentReader String :=
  fun e _ => .ok e.toXml

def responseReport (bytes : List UInt8) (nsUri : Option String) (wrapped : Bool) :
    Except ReadError Json := do
  let reader : ResponseReader String String := { request := some documentText, response := documentText }
  let r ← reader.parse nsUri wrapped bytes
  .ok (r.json .text .text)

def methodsReport (bytes : List UInt8) : Except ReadError Json := do
  let r ← methodList.parse none false bytes
  .ok (r.json (fun _ => .null) fun ss => .list (ss.map Service.json))

def metricsReport (bytes : List UInt8) : Except ReadError Json := do
  let r ← XRoad.metrics.parse none false bytes
  .ok (tableJson (versionsOf r))

def clientsReport (bytes : List UInt8) : Except ReadError Json := do
  .ok (.list ((← parseClients bytes).map Consumer.json))

def centralServicesReport (bytes : List UInt8) : Except ReadError Json := do
  .ok (.list ((← parseCentralServices bytes).map Service.json))

def identifierReport (kind : IdentifierKind) (text : String) : Except Failure Json :=
  let report (canonical : String) (t : ObjectType) : Json :=
    .object [("canonical", .text canonical), ("object_type", .text t.name)]
  let json? := match kind with
    | .client => (Consumer.ofText? text).map fun c => report c.text c.objectType
    | .service => (Service.ofText? text).map fun s => report s.text s.objectType
    | .server => (SecurityServer.ofText? text).map fun s => report s.text s.objectType
  match json? with
  | some json => .ok json
  | none => .error (.identifier kind text)

/-! ### The program -/

structure Host (m : Type → Type) where
  contents : String → m (Option (List UInt8))
  isThere : String → m Bool
  environment : m (List (String × String))
  randomBytes : m (List UInt8)

/-- The variables in the form in which a process is given them: each as its name, an equals sign and
its value, with a zero byte behind it. What is no text is left out. -/
def environmentOf (bytes : List UInt8) : List (String × String) :=
  (bytes.splitOn 0).filterMap fun entry =>
    match entry.span (· != 0x3D) with
    | (name, _ :: value) => do return (← Text.ofBytes? name, ← Text.ofBytes? value)
    | _ => none

inductive Outcome where
  | shown (text : String)
  | failed (cause : Failure)
  | refused (reason : String)
  deriving DecidableEq

def Outcome.status : Outcome → Nat
  | .shown _ => 0
  | .failed _ => 1
  | .refused _ => 2

def Outcome.ofReport : Except Failure String → Outcome
  | .ok text => .shown (text ++ "\n")
  | .error cause => .failed cause

variable {m : Type → Type} [Monad m]

def Host.loadConfig (h : Host m) (asked : String) : m (Except Yaml.Error Config) := do
  let environment ← h.environment
  let home := (environment.lookup "HOME").filter (· ≠ "")
  let s : Config.Surroundings := {
    directoryVariable := environment.lookup Config.directoryVariable
    isHere := ← h.isThere Config.directoryName
    home
    isHome := ← match home with
      | some home => h.isThere (Config.within home Config.directoryName)
      | none => pure false }
  let directory := s.directory asked
  let file ← h.contents (Config.within directory Config.fileName)
  return Config.load directory file environment

def Host.report (h : Host m) (name : String) (f : List UInt8 → Except ReadError Json) :
    m (Except Failure String) := do
  match ← h.contents name with
  | none => return .error (.file name)
  | some bytes => return ((f bytes).mapError .read).map Json.pretty

def Host.reportText (h : Host m) (name : String) (f : List UInt8 → Except ReadError Json) :
    m (Except Failure String) := do
  match (← h.contents name).map Text.ofBytes? with
  | some none => return .error (.encoding name)
  | _ => h.report name f

def Host.request (h : Host m) (asked service : String) (payload id : Option String) :
    m (Except Failure String) := do
  match ← h.loadConfig asked with
  | .error cause => return .error (.yaml cause)
  | .ok c =>
    let random ← h.randomBytes
    let id := id.getD (Digest.uuid random)
    match payload with
    | none => return requestFor c service id none
    | some name =>
      match ← h.contents name with
      | none => return .error (.file name)
      | some bytes => return requestFor c service id (some bytes)

def Host.perform (h : Host m) (i : Invocation) : m (Except Failure String) :=
  match i.command with
  | .request service payload id => h.request i.directory service payload id
  | .response file nsUri wrapped => h.report file (responseReport · nsUri wrapped)
  | .clients file => h.reportText file clientsReport
  | .centralServices file => h.reportText file centralServicesReport
  | .methods file => h.report file methodsReport
  | .metrics file => h.report file metricsReport
  | .identifier kind text => return (identifierReport kind text).map Json.pretty

def Host.run (h : Host m) (args : List String) : m Outcome :=
  match Invocation.ofArguments args with
  | .error (.shown text) => return .shown text
  | .error (.wrong reason) => return .refused reason
  | .ok i => do return .ofReport (← h.perform i)

end XRoad.CommandLine
