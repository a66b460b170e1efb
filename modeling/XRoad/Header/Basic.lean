import XRoad.Header.Identifier
import XRoad.Soap.Message

/-!
# Message headers

What the header of a message says. Writing leaves out what is missing or empty. Reading takes an
element into account only when it is the only one of its name.
-/

namespace XRoad

open Xml (Element only?)

structure Header where
  consumer : Option Consumer := none
  service : Option Service := none
  securityServer : Option SecurityServer := none
  id : Option String := none
  userId : Option String := none
  issue : Option String := none
  protocolVersion : Option String := none
  requestHash : Option String := none
  requestHashAlgorithm : Option String := none
  securityToken : Option String := none
  securityTokenType : Option String := none
  deriving DecidableEq

namespace Header

/-! ### Writing -/

def nonEmpty? (text : Option String) : Option String :=
  text.filter (· ≠ "")

theorem nonEmpty?_eq_some_iff {text : Option String} {t : String} :
    nonEmpty? text = some t ↔ text = some t ∧ t ≠ "" := by
  rw [nonEmpty?, Option.filter_eq_some_iff, decide_eq_true_iff]

def textElement (name text : String) : Element :=
  Protocol.header.textElement name text

def tokenElement (type : Option String) (token : String) : Element :=
  let empty := Protocol.securityToken.element "securityToken"
  let typed := match nonEmpty? type with
    | some type => Protocol.securityToken.setAttribute "tokenType" type empty
    | none => empty
  typed.pushText token

/-- The elements of a header in their order. A request hash is not among them. -/
def elements (h : Header) (consumer : Consumer) (service : Service) (id : String) : List Element :=
  [consumer.element, service.element] ++
    h.securityServer.toList.map SecurityServer.element ++
    (nonEmpty? h.userId).toList.map (textElement "userId") ++
    [textElement "id" id] ++
    (nonEmpty? h.issue).toList.map (textElement "issue") ++
    (nonEmpty? h.securityToken).toList.map (tokenElement h.securityTokenType) ++
    h.protocolVersion.toList.map (textElement "protocolVersion")

def bindings (h : Header) : List Xml.Binding :=
  (nonEmpty? h.securityToken).toList.map (fun _ => Protocol.securityToken) ++
    [Protocol.identifiers, Protocol.header]

def requireMember {α : Type} (name : String) : Option α → ExceptT WriteError (StateM Soap.Message) α
  | some a => pure a
  | none => throw (.missing name)

/-- Writes a header into a message. Consumer, service and identifier must be there. -/
def writeInto (h : Header) : ExceptT WriteError (StateM Soap.Message) Unit := do
  let consumer ← requireMember "Consumer" h.consumer
  let service ← requireMember "Producer" h.service
  let id ← requireMember "Message id" h.id
  modify fun m => h.bindings.foldl Soap.Message.declare m
  modify fun m => m.pushHeader ((h.elements consumer service id).map (·.node))

def writeTo (h : Header) (m : Soap.Message) : Except WriteError Soap.Message :=
  match (h.writeInto.run.run m).run with
  | (.ok (), m) => .ok m
  | (.error cause, _) => .error cause

theorem writeInto_run (h : Header) (m : Soap.Message) :
    (h.writeInto.run.run m).run =
      match h.consumer, h.service, h.id with
      | none, _, _ => (.error (.missing "Consumer"), m)
      | _, none, _ => (.error (.missing "Producer"), m)
      | _, _, none => (.error (.missing "Message id"), m)
      | some consumer, some service, some id =>
        (.ok (), (h.bindings.foldl Soap.Message.declare m).pushHeader
          ((h.elements consumer service id).map (·.node))) := by
  rcases h with ⟨_ | consumer, _ | service, server, _ | id⟩ <;> rfl

theorem writeTo_eq (h : Header) (m : Soap.Message) :
    h.writeTo m =
      match h.consumer, h.service, h.id with
      | none, _, _ => .error (.missing "Consumer")
      | _, none, _ => .error (.missing "Producer")
      | _, _, none => .error (.missing "Message id")
      | some consumer, some service, some id =>
        .ok ((h.bindings.foldl Soap.Message.declare m).pushHeader
          ((h.elements consumer service id).map (·.node))) := by
  rcases h with ⟨_ | consumer, _ | service, server, _ | id⟩ <;> rfl

/-! ### Reading -/

def unique? (e : Element) (b : Xml.Binding) (name : String) : Option Element :=
  only? (e.find (some b.nsUri) name)

def textOf? (e : Element) (name : String) : Option String :=
  (unique? e Protocol.header name).map (·.textContent)

def readTexts (e : Element) : Header :=
  let hash := unique? e Protocol.header "requestHash"
  let token := unique? e Protocol.securityToken "securityToken"
  { id := textOf? e "id"
    userId := textOf? e "userId"
    issue := textOf? e "issue"
    protocolVersion := textOf? e "protocolVersion"
    requestHash := hash.map (·.textContent)
    requestHashAlgorithm := hash.bind (·.tag.attribute? "algorithmId")
    securityToken := token.map (·.textContent)
    securityTokenType := token.bind fun t =>
      t.tag.attribute? "tokenType" <|> t.tag.attributeIn? Protocol.securityToken.nsUri "tokenType" }

/-- Reads the identifier of a name, if the header has it. One that cannot be read is an error, or is
left out when reading is not strict. -/
def identifier {α : Type} (strict : Bool) (e : Element) (name : String)
    (read : Element → Except ReadError α) : Except ReadError (Option α) :=
  match unique? e Protocol.header name with
  | none => .ok none
  | some found =>
    match read found with
    | .ok a => .ok (some a)
    | .error cause => if strict then .error cause else .ok none

def readIn (strict : Bool) (e : Element) : Except ReadError Header := do
  let consumer ← identifier strict e "client" Consumer.ofElement
  let service ← identifier strict e "service" Service.ofElement
  let securityServer ← identifier strict e "securityServer" SecurityServer.ofElement
  .ok { readTexts e with consumer, service, securityServer }

/-- Reads a header; an identifier that cannot be read is an error. -/
def read (e : Element) : Except ReadError Header :=
  readIn true e

/-- Reads a header without the identifiers that cannot be read. -/
def readLenient (e : Element) : Header :=
  match readIn false e with
  | .ok h => h
  | .error _ => {}

end Header

end XRoad
