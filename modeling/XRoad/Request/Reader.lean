import XRoad.Request.Basic

/-!
# Reading requests

The header comes first; it must name a consumer, a service and an identifier. The body is read into
a request whose header has been read, so that a body that cannot be read still has a request to
answer to.
-/

namespace XRoad

open Xml (Element only?)

/-- The namespace that an element must be in; none and `"*"` accept any. -/
def expectedUri? (expected : Option String) : Option String :=
  expected.filter (· ≠ "*")

abbrev ContentReader (α : Type) := Element → Soap.Message → Except String α

def ContentReader.element : ContentReader Element :=
  fun e _ => .ok e

def ContentReader.read {α : Type} (reader : ContentReader α) (e : Element) (m : Soap.Message) :
    Except ReadError α :=
  match reader e m with
  | .ok a => .ok a
  | .error reason => .error (.payload reason)

/-- The content of an element, none if it is empty. -/
def ContentReader.readChildren {α : Type} (reader : ContentReader α) (e : Element)
    (m : Soap.Message) : Except ReadError (Option α) :=
  if e.children.isEmpty then .ok none else (reader.read e m).map some

def requireHeader {α : Type} (name : String) : Option α → Except ReadError α
  | some a => .ok a
  | none => .error (.missingHeaderElement name)

namespace Request

variable {α : Type}

/-- The request of a header; the identifier must not be blank. -/
def ofHeader (h : Header) (m : Soap.Message) : Except ReadError (Request α) := do
  let consumer ← requireHeader "client" h.consumer
  let service ← requireHeader "service" h.service
  let id ← requireHeader "id" (h.id.filter (!Text.isBlank ·))
  .ok {
    consumer
    producer := .ofService service
    id
    userId := h.userId
    issue := h.issue
    protocolVersion := h.protocolVersion.getD Protocol.version
    securityServer := h.securityServer
    securityToken := h.securityToken
    securityTokenType := h.securityTokenType
    received := some m }

def readHeader (m : Soap.Message) : Except ReadError (Request α) :=
  match m.header.filter (·.hasChildElements) with
  | none => .error .missingHeader
  | some e => do ofHeader (← Header.read e) m

def bodyRoots (m : Soap.Message) (nsUri : Option String) (name : String) : List Element :=
  m.body.childElements.filter (·.tag.isNamed nsUri name)

/-- Why the body of a request has no element of its service: it is in another namespace, or it is
not there once. -/
def bodyError (m : Soap.Message) (nsUri : Option String) (name : String) : ReadError :=
  match nsUri, only? (bodyRoots m none name) with
  | some _, some other => .wrongNamespace other.tag.uri
  | _, _ => .missingRequestBody

def bodyRoot (m : Soap.Message) (nsUri : Option String) (name : String) :
    Except ReadError Element :=
  match only? (bodyRoots m nsUri name) with
  | some e => .ok e
  | none => .error (bodyError m nsUri name)

def contentOf? (wrapped : Bool) (wrapper : String) (e : Element) : Option Element :=
  if wrapped then e.child? wrapper else some e

structure Body (α : Type) where
  data : Option α
  root : Xml.QName

def bodyOf (reader : ContentReader α) (expected : Option String) (wrapped : Bool) (p : Producer)
    (m : Soap.Message) : Except ReadError (Body α) := do
  let rpc ← bodyRoot m (expectedUri? expected) p.serviceCode.text
  let data ← match contentOf? wrapped "request" rpc with
    | none => .ok none
    | some e => reader.readChildren e m
  .ok { data, root := rpc.tag.toQName }

/-- Reads the body into a request whose header was read. The message is taken out of the request
for as long as it is read. The producer takes the namespace that the body was found in. -/
def loadBody (reader : ContentReader α) (expected : Option String) :
    StateM (Request α) (Except ReadError Unit) := do
  let r ← get
  set { r with received := none }
  match r.received with
  | none => return .error .missingRequestBody
  | some m =>
    let result := bodyOf reader expected r.wrapped r.producer m
    modify fun r => { r with received := some m }
    match result with
    | .error cause => return .error cause
    | .ok body =>
      modify fun r => { r with data := body.data, producer := r.producer.observed body.root }
      return .ok ()

def readBody (reader : ContentReader α) (expected : Option String) (r : Request α) :
    Except ReadError (Request α) :=
  match ((loadBody reader expected).run r).run with
  | (.ok (), r) => .ok r
  | (.error cause, _) => .error cause

def read (reader : ContentReader α) (expected : Option String) (wrapped : Bool)
    (m : Soap.Message) : Except ReadError (Request α) := do
  let r ← readHeader m
  readBody reader expected { r with wrapped }

def parse (reader : ContentReader α) (expected : Option String) (wrapped : Bool)
    (bytes : List UInt8) : Except ReadError (Request α) :=
  match Soap.Message.parse bytes with
  | .error cause => .error (.xml cause)
  | .ok m => read reader expected wrapped m

end Request

end XRoad
