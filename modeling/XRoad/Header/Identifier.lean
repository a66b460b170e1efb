import XRoad.Identifier.Service
import XRoad.Error
import XRoad.Protocol
import XRoad.Xml.Leaves

/-!
# Identifiers as elements

An identifier is an element with its object type as an attribute and an element for each part. When
it is read, its parts are its leaf values, and the parts that are there stand in for a missing type.
-/

namespace XRoad

open Xml (Element)

/-! ### Writing -/

def objectTypeName : String := "objectType"

def identifierElement (name : String) (type : ObjectType) (parts : List (String × Code)) : Element :=
  (Protocol.identifiers.setAttribute objectTypeName type.name (Protocol.header.element name)).push
    (parts.map fun p => (Protocol.identifiers.textElement p.1 p.2.text).node)

def Member.namedParts (m : Member) : List (String × Code) :=
  [(Part.xRoadInstance, m.xRoadInstance), (Part.memberClass, m.memberClass),
    (Part.memberCode, m.memberCode)]

def Consumer.element (c : Consumer) : Element :=
  identifierElement "client" c.objectType
    (c.toMember.namedParts ++ c.subsystem.toList.map (Part.subsystemCode, ·))

def Service.element (s : Service) : Element :=
  identifierElement "service" s.objectType
    ([(Part.xRoadInstance, s.xRoadInstance)] ++ s.memberClass.toList.map (Part.memberClass, ·) ++
      s.memberCode.toList.map (Part.memberCode, ·) ++ s.subsystem.toList.map (Part.subsystemCode, ·) ++
      [(Part.serviceCode, s.serviceCode)] ++ s.version.toList.map (Part.serviceVersion, ·))

def SecurityServer.element (s : SecurityServer) : Element :=
  identifierElement "securityServer" s.objectType
    (s.toMember.namedParts ++ [(Part.serverCode, s.serverCode)])

/-! ### Reading -/

def inElement {α : Type} (e : Element) : Except IdentifierError α → Except ReadError α
  | .ok a => .ok a
  | .error cause => .error (.invalidIdentifier e.tag.name cause)

/-- The text of the type attribute, with or without a namespace. -/
def typeText? (e : Element) : Option String :=
  e.tag.attributeIn? Protocol.identifiers.nsUri objectTypeName <|> e.tag.attribute? objectTypeName

def ObjectType.ofElement (e : Element) : Except ReadError (Option ObjectType) :=
  match typeText? e with
  | none => .ok none
  | some text => inElement e ((ObjectType.ofText text).map some)

/-- The leaf value of a part, `""` for none. -/
def partText (fields : Table String) (part : String) : String :=
  (fields.get? part).getD ""

def Consumer.ofParts (type : ObjectType) (fields : Table String) : Except IdentifierError Consumer :=
  let text := partText fields
  match type with
  | .member => Consumer.member (text Part.xRoadInstance) (text Part.memberClass) (text Part.memberCode)
  | .subsystem =>
    Consumer.ofSubsystem (text Part.xRoadInstance) (text Part.memberClass) (text Part.memberCode)
      (text Part.subsystemCode)
  | other => .error (.unknownObjectType other.name)

/-- Without a type, a consumer is a subsystem when it has a code for one. -/
def Consumer.ofElement (e : Element) : Except ReadError Consumer := do
  let fields := e.table
  let inferred := if partText fields Part.subsystemCode = "" then ObjectType.member else .subsystem
  let type ← ObjectType.ofElement e
  inElement e (Consumer.ofParts (type.getD inferred) fields)

def Service.ofParts (type : ObjectType) (fields : Table String) : Except IdentifierError Service :=
  let text := partText fields
  match type with
  | .service => do
    let s ← Service.owned (text Part.xRoadInstance) (text Part.memberClass) (text Part.memberCode)
      (text Part.serviceCode)
    .ok ((s.setSubsystem (fields.get? Part.subsystemCode)).setVersion
      (fields.get? Part.serviceVersion))
  | .centralService => Service.central (text Part.xRoadInstance) (text Part.serviceCode)
  | other => .error (.unknownObjectType other.name)

/-- Without a type, a service is a central one when it has no member class. -/
def Service.ofElement (e : Element) : Except ReadError Service := do
  let fields := e.table
  let inferred :=
    if (fields.get? Part.memberClass).isSome then ObjectType.service else .centralService
  let type ← ObjectType.ofElement e
  inElement e (Service.ofParts (type.getD inferred) fields)

/-- The type of a security server is not looked at. -/
def SecurityServer.ofElement (e : Element) : Except ReadError SecurityServer :=
  let text := partText e.table
  inElement e (SecurityServer.build (text Part.xRoadInstance) (text Part.memberClass)
    (text Part.memberCode) (text Part.serverCode))

end XRoad
