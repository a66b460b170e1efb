import XRoad.Protocol
import XRoad.Xml.Error
import XRoad.Xml.Printer
import XRoad.Xml.Reader

/-!
# SOAP messages

The tag of an envelope with a header, which may be missing, and a body. What belongs to the header
and to the body is told apart once, when a message is read; pushing content never changes it.
-/

namespace XRoad.Soap

open Xml (Element Node Tag)

structure Message where
  envelope : Tag
  header : Option Element
  body : Element
  envelope_name : envelope.name = "Envelope"
  header_name : ∀ h, header = some h → h.tag.name = "Header"
  body_name : body.tag.name = "Body"

namespace Message

instance : DecidableEq Message := fun m n =>
  decidable_of_iff (m.envelope = n.envelope ∧ m.header = n.header ∧ m.body = n.body)
    ⟨fun h => by cases m; cases n; simp_all, fun h => h ▸ ⟨rfl, rfl, rfl⟩⟩

def empty : Message where
  envelope := Protocol.soap.declare (Protocol.soap.element "Envelope").tag
  header := some (Protocol.soap.element "Header")
  body := Protocol.soap.element "Body"
  envelope_name := rfl
  header_name h e := by rw [← Option.some.inj e]; rfl
  body_name := rfl

/-- The body among the children of an envelope: the first of that name. -/
def bodyOf? (es : List Element) : Option Element :=
  es.find? (·.tag.name == "Body")

/-- The header among the children of an envelope: the first of that name before the body. -/
def headerOf? (es : List Element) : Option Element :=
  (es.takeWhile (·.tag.name != "Body")).find? (·.tag.name == "Header")

/-- The message in an envelope. Other children of the envelope are left out. -/
def ofElement (e : Element) : Except Xml.Error Message :=
  if named : e.tag.name = "Envelope" then
    match found : bodyOf? e.childElements with
    | none => .error .missingBody
    | some body => .ok {
        envelope := e.tag
        header := headerOf? e.childElements
        body := body
        envelope_name := named
        header_name := fun h found => by simpa using List.find?_some found
        body_name := by simpa using List.find?_some found }
  else .error .missingEnvelope

def parse (bytes : List UInt8) : Except Xml.Error Message := do
  ofElement (← Element.parse bytes)

def toElement (m : Message) : Element where
  tag := m.envelope
  children := (m.header.toList ++ [m.body]).map (·.node)

def toXml (m : Message) : String :=
  m.toElement.toXml

def toBytes (m : Message) : List UInt8 :=
  m.toElement.toBytes

/-- The header; a missing one is made in the namespace of the envelope. -/
def headerOrNew (m : Message) : Element :=
  m.header.getD
    (.within "Header" (m.envelope.nsPrefix.getD "") (m.envelope.nsUri.getD Protocol.soap.nsUri))

theorem headerOrNew_name (m : Message) : m.headerOrNew.tag.name = "Header" := by
  rw [headerOrNew]
  cases found : m.header with
  | none => rfl
  | some h => exact m.header_name h found

/-- Adds nodes to the header, which is made if it is missing. -/
def pushHeader (m : Message) (ns : List Node) : Message :=
  { m with
    header := some (m.headerOrNew.push ns)
    header_name := fun h e => by rw [← Option.some.inj e]; exact m.headerOrNew_name }

def removeHeader (m : Message) : Message :=
  { m with header := none, header_name := nofun }

def changeBody (m : Message) (f : List Node → List Node) : Message :=
  { m with body := { m.body with children := f m.body.children } }

def pushBody (m : Message) (ns : List Node) : Message :=
  m.changeBody (· ++ ns)

def withoutBody (m : Message) : Message :=
  m.changeBody fun _ => []

def declare (m : Message) (b : Xml.Binding) : Message :=
  { m with envelope := b.declare m.envelope }

end Message

/-- A source of empty messages that counts them. -/
structure Factory where
  created : Nat := 0

def Factory.create (f : Factory) : Message × Factory :=
  (.empty, { created := f.created + 1 })

end XRoad.Soap
