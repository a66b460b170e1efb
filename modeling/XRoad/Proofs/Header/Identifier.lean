import XRoad.Header.Identifier
import XRoad.Proofs.Soap.Message
import XRoad.Proofs.Xml.Leaves

/-!
# Identifiers over the wire

An identifier with trimmed codes is read back from its element. A central service is read back when
it has no subsystem and no version.
-/

namespace XRoad

open Xml (Element Node Tag Scope)

/-! ### Codes -/

namespace Code

/-- Without blank characters around it. -/
def IsTrimmed (c : Code) : Prop :=
  Text.trim c.text = c.text

instance (c : Code) : Decidable c.IsTrimmed :=
  inferInstanceAs (Decidable (_ = _))

variable {c : Code}

theorem required_text (part : String) (c : Code) : required part c.text = .ok c := by
  rw [required, of?_text]

end Code

theorem ObjectType.ofText_name (type : ObjectType) : ofText type.name = .ok type := by
  cases type <;> rfl

/-! ### Elements of identifiers -/

section
variable (name : String) (type : ObjectType) {parts : List (String × Code)} (scope : Scope)

def partElement (part : String × Code) : Element :=
  Protocol.identifiers.textElement part.1 part.2.text

def identifierTag (name : String) (type : ObjectType) : Tag :=
  (Protocol.identifiers.setAttribute objectTypeName type.name (Protocol.header.element name)).tag

theorem identifierElement_eq (parts : List (String × Code)) :
    identifierElement name type parts =
      { tag := identifierTag name type, children := (parts.map partElement).map (·.node) } := by
  rw [List.map_map]
  rfl

theorem partElement_reread (part : String × Code) :
    (partElement part).reread scope =
      { tag := (Protocol.identifiers.element part.1).tag.declared scope
        children := [.text part.2.text] } := by
  have read := Element.reread_text scope (Protocol.identifiers.element part.1).tag part.2.text
  rwa [if_neg part.2.ne_empty] at read

theorem leaves_identifierElement (trimmed : ∀ p ∈ parts, p.2.IsTrimmed) :
    ((identifierElement name type parts).reread scope).leaves =
      parts.map fun p => (p.1, p.2.text) := by
  rw [identifierElement_eq]
  exact Element.leaves_reread_texts scope (identifierTag name type)
    (fun p : String × Code => (Protocol.identifiers.element p.1).tag) (fun p => p.2.text) trimmed

theorem get?_identifierElement (trimmed : ∀ p ∈ parts, p.2.IsTrimmed) (part : String) :
    ((identifierElement name type parts).reread scope).table.get? part =
      (parts.map fun p => (p.1, p.2.text)).reverse.lookup part := by
  rw [Element.table, leaves_identifierElement name type scope trimmed, Table.get?_ofList]

theorem tag_identifierElement (parts : List (String × Code)) :
    ((identifierElement name type parts).reread scope).tag =
      (identifierTag name type).declared scope := by
  rw [identifierElement_eq, Element.reread_tag]

theorem objectType_identifierElement (parts : List (String × Code)) :
    ObjectType.ofElement ((identifierElement name type parts).reread scope) = .ok (some type) := by
  have text : typeText? ((identifierElement name type parts).reread scope) = some type.name := by
    rw [typeText?, tag_identifierElement]
    rfl
  rw [ObjectType.ofElement, text]
  simp only [ObjectType.ofText_name]
  rfl

end

/-! ### Consumers -/

namespace Consumer

/-- The codes of a consumer under the names of their elements. -/
def namedParts (c : Consumer) : List (String × Code) :=
  c.toMember.namedParts ++ c.subsystem.toList.map (Part.subsystemCode, ·)

theorem namedParts_codes (c : Consumer) : c.namedParts.map (·.2) = c.parts := by
  rw [namedParts, parts, List.map_append, List.map_map]
  exact congrArg _ (List.map_id _)

theorem ofParts_namedParts {c : Consumer} {fields : Table String}
    (found : ∀ part, fields.get? part =
      (c.namedParts.map fun p => (p.1, p.2.text)).reverse.lookup part) :
    ofParts c.objectType fields = .ok c := by
  obtain ⟨member, subsystem⟩ := c
  cases subsystem with
  | none =>
    simp [ofParts, objectType, partText, found, namedParts, Member.namedParts, lookup_cons_if,
      Consumer.member, Member.build, Code.required_text, ok_bind, Part.xRoadInstance,
      Part.memberClass, Part.memberCode]
  | some subsystem =>
    simp [ofParts, objectType, partText, found, namedParts, Member.namedParts, lookup_cons_if,
      ofSubsystem, Member.build, Code.required_text, ok_bind, Part.xRoadInstance,
      Part.memberClass, Part.memberCode, Part.subsystemCode]

theorem ofElement_reread {c : Consumer} (trimmed : ∀ p ∈ c.parts, p.IsTrimmed) (scope : Scope) :
    ofElement (c.element.reread scope) = .ok c := by
  have codes : ∀ p ∈ c.namedParts, p.2.IsTrimmed := fun p m =>
    trimmed p.2 (c.namedParts_codes ▸ List.mem_map_of_mem m)
  have read := ofParts_namedParts (c := c) fun part =>
    get?_identifierElement "client" c.objectType scope codes part
  have type := objectType_identifierElement "client" c.objectType scope c.namedParts
  change ofElement ((identifierElement "client" c.objectType c.namedParts).reread scope) = _
  rw [ofElement, type, ok_bind, Option.getD_some, read]
  rfl

end Consumer

/-! ### Services -/

namespace Service

def namedParts (s : Service) : List (String × Code) :=
  [(Part.xRoadInstance, s.xRoadInstance)] ++ s.memberClass.toList.map (Part.memberClass, ·) ++
    s.memberCode.toList.map (Part.memberCode, ·) ++ s.subsystem.toList.map (Part.subsystemCode, ·) ++
    [(Part.serviceCode, s.serviceCode)] ++ s.version.toList.map (Part.serviceVersion, ·)

theorem namedParts_codes (s : Service) : s.namedParts.map (·.2) = s.parts := by
  have codes (part : String) (o : Option Code) :
      (o.toList.map (part, ·)).map (·.2) = o.toList := by
    rw [List.map_map]
    exact List.map_id _
  simp only [namedParts, parts, List.map_append, codes, List.map_singleton]

/-- A central service is read without its subsystem and its version. -/
def readBack (s : Service) : Service :=
  if s.owner.isSome then s else { s with subsystem := none, version := none }

theorem readBack_serviceCode (s : Service) : s.readBack.serviceCode = s.serviceCode := by
  rw [readBack]
  split <;> rfl

theorem readBack_eq_self {s : Service}
    (central : s.owner = none → s.subsystem = none ∧ s.version = none) : s.readBack = s := by
  obtain ⟨i, owner, subsystem, code, version⟩ := s
  cases owner with
  | none =>
    obtain ⟨rfl, rfl⟩ := central rfl
    rfl
  | some owner => rfl

theorem ofParts_namedParts {s : Service} {fields : Table String}
    (found : ∀ part, fields.get? part =
      (s.namedParts.map fun p => (p.1, p.2.text)).reverse.lookup part) :
    ofParts s.objectType fields = .ok s.readBack := by
  obtain ⟨i, owner, subsystem, code, version⟩ := s
  cases owner with
  | none =>
    cases subsystem <;> cases version <;>
      simp [ofParts, objectType, partText, found, namedParts, memberClass, memberCode, lookup_cons_if,
        central, readBack, Code.required_text, ok_bind, Part.xRoadInstance, Part.subsystemCode,
        Part.serviceCode, Part.serviceVersion]
  | some owner =>
    cases subsystem <;> cases version <;>
      simp [ofParts, objectType, partText, found, namedParts, memberClass, memberCode, lookup_cons_if,
        owned, Member.build, setSubsystem, setVersion, readBack, Code.required_text, Code.of?_text,
        ok_bind, Part.xRoadInstance, Part.memberClass, Part.memberCode, Part.subsystemCode,
        Part.serviceCode, Part.serviceVersion]

theorem ofElement_reread {s : Service} (trimmed : ∀ p ∈ s.parts, p.IsTrimmed) (scope : Scope) :
    ofElement (s.element.reread scope) = .ok s.readBack := by
  have codes : ∀ p ∈ s.namedParts, p.2.IsTrimmed := fun p m =>
    trimmed p.2 (s.namedParts_codes ▸ List.mem_map_of_mem m)
  have read := ofParts_namedParts (s := s) fun part =>
    get?_identifierElement "service" s.objectType scope codes part
  have type := objectType_identifierElement "service" s.objectType scope s.namedParts
  change ofElement ((identifierElement "service" s.objectType s.namedParts).reread scope) = _
  rw [ofElement, type, ok_bind, Option.getD_some, read]
  rfl

end Service

/-! ### Security servers -/

namespace SecurityServer

def namedParts (s : SecurityServer) : List (String × Code) :=
  s.toMember.namedParts ++ [(Part.serverCode, s.serverCode)]

theorem namedParts_codes (s : SecurityServer) : s.namedParts.map (·.2) = s.parts :=
  rfl

theorem build_namedParts {s : SecurityServer} {fields : Table String}
    (found : ∀ part, fields.get? part =
      (s.namedParts.map fun p => (p.1, p.2.text)).reverse.lookup part) :
    build (partText fields Part.xRoadInstance) (partText fields Part.memberClass)
      (partText fields Part.memberCode) (partText fields Part.serverCode) = .ok s := by
  obtain ⟨member, code⟩ := s
  simp [build, partText, found, namedParts, Member.namedParts, lookup_cons_if, Member.build,
    Code.required_text, ok_bind, Part.xRoadInstance, Part.memberClass, Part.memberCode,
    Part.serverCode]

theorem ofElement_reread {s : SecurityServer} (trimmed : ∀ p ∈ s.parts, p.IsTrimmed)
    (scope : Scope) : ofElement (s.element.reread scope) = .ok s := by
  have codes : ∀ p ∈ s.namedParts, p.2.IsTrimmed := fun p m =>
    trimmed p.2 (s.namedParts_codes ▸ List.mem_map_of_mem m)
  have read := build_namedParts (s := s) fun part =>
    get?_identifierElement "securityServer" s.objectType scope codes part
  change ofElement ((identifierElement "securityServer" s.objectType s.namedParts).reread scope) = _
  rw [ofElement, read]
  rfl

end SecurityServer

end XRoad
