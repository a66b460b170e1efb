import XRoad.Proofs.Xml.Reread
import XRoad.Soap.Message

/-!
# Messages over the wire

A message that is written and read keeps its envelope, its header and its body apart, each as an
element is read. Main statements: `Message.parse_of_legible` and `Message.parse_toBytes`.
-/

namespace XRoad.Soap

open Xml (Element Node Scope)

namespace Message

def scope (m : Message) : Scope :=
  [m.envelope.writtenDeclarations []]

/-- The message after it was written and read. -/
def reread (m : Message) : Message where
  envelope := m.envelope.declared []
  header := m.header.map (Element.reread m.scope)
  body := m.body.reread m.scope
  envelope_name := m.envelope_name
  header_name := by
    intro h read
    obtain ⟨h', found, rfl⟩ := Option.map_eq_some_iff.1 read
    rw [Element.reread_tag]
    exact m.header_name h' found
  body_name := by
    rw [Element.reread_tag]
    exact m.body_name

theorem ext {m n : Message} (envelope : m.envelope = n.envelope) (header : m.header = n.header)
    (body : m.body = n.body) : m = n := by
  cases m
  cases n
  subst envelope header body
  rfl

theorem header_pushHeader (m : Message) (ns : List Node) :
    (m.pushHeader ns).header = some (m.headerOrNew.push ns) :=
  rfl

theorem headerOrNew_eq {m : Message} {h : Element} (found : m.header = some h) :
    m.headerOrNew = h := by
  rw [headerOrNew, found, Option.getD_some]

def parts (m : Message) : List Element :=
  m.header.toList ++ [m.body]

theorem bodyOf?_parts (m : Message) : bodyOf? m.parts = some m.body := by
  have absent : m.header.toList.find? (·.tag.name == "Body") = none := by
    rw [List.find?_eq_none]
    intro h found
    rw [m.header_name h (Option.mem_toList.1 found)]
    decide
  rw [bodyOf?, parts, List.find?_append, absent, Option.none_or, List.find?_singleton,
    if_pos (by simp [m.body_name])]

theorem headerOf?_parts (m : Message) : headerOf? m.parts = m.header := by
  have bodyStops : [m.body].takeWhile (·.tag.name != "Body") = [] := by
    rw [List.takeWhile_cons, if_neg (by simp [m.body_name])]
  rw [headerOf?, parts]
  cases found : m.header with
  | none =>
    rw [Option.toList_none, List.nil_append, bodyStops]
    rfl
  | some h =>
    have name := m.header_name h found
    rw [Option.toList_some, List.singleton_append, List.takeWhile_cons, if_pos (by simp [name]),
      bodyStops, List.find?_singleton, if_pos (by simp [name])]

theorem ofElement_toElement (m : Message) : ofElement m.toElement = .ok m := by
  have children : m.toElement.childElements = m.parts :=
    Element.childElements_elements m.envelope m.parts
  have body : bodyOf? m.toElement.childElements = some m.body := by
    rw [children, bodyOf?_parts]
  have header : headerOf? m.toElement.childElements = m.header := by
    rw [children, headerOf?_parts]
  unfold ofElement
  rw [dif_pos (show m.toElement.tag.name = "Envelope" from m.envelope_name)]
  split
  · next missing =>
    rw [body] at missing
    cases missing
  · next found isBody =>
    obtain rfl := Option.some.inj (body.symm.trans isBody)
    exact congrArg Except.ok (ext rfl header rfl)

theorem reread_toElement (m : Message) : m.toElement.reread [] = m.reread.toElement := by
  have header : m.header.toList.map (Element.reread m.scope) = m.reread.header.toList := by
    change _ = (m.header.map (Element.reread m.scope)).toList
    cases m.header <;> rfl
  rw [toElement, Element.reread_elements, toElement, List.map_append, List.map_singleton, ← header]
  rfl

theorem hasWritableTags {m : Message} (envelope : m.envelope.IsWritable)
    (header : ∀ h ∈ m.header, h.node.HasWritableTags) (body : m.body.node.HasWritableTags) :
    m.toElement.node.HasWritableTags := by
  refine .element envelope fun n member => ?_
  obtain ⟨e, me, rfl⟩ := List.mem_map.1 member
  rcases List.mem_append.1 me with inHeader | isBody
  · exact header e (Option.mem_toList.1 inHeader)
  · rw [List.mem_singleton.1 isBody]
    exact body

theorem scope_clean {m : Message} (envelope : m.envelope.IsWritable) : m.scope.IsClean :=
  envelope.clean_cons (by simp [Scope.IsClean])

theorem isLegible {m : Message} (envelope : m.envelope.IsWritable)
    (header : ∀ h ∈ m.header, h.node.IsLegible m.scope) (body : m.body.node.IsLegible m.scope) :
    m.toElement.node.IsLegible [] := by
  refine .element (envelope.legible (by simp [Scope.IsClean]) _) fun n member => ?_
  obtain ⟨e, me, rfl⟩ := List.mem_map.1 member
  rcases List.mem_append.1 me with inHeader | isBody
  · exact header e (Option.mem_toList.1 inHeader)
  · rw [List.mem_singleton.1 isBody]
    exact body

/-- A message whose tags can be made out is read back part by part. -/
theorem parse_of_legible {m : Message} (legible : m.toElement.node.IsLegible []) :
    parse m.toBytes = .ok m.reread := by
  rw [parse, toBytes, Element.parse_of_legible legible, ok_bind, reread_toElement,
    ofElement_toElement]

theorem parse_toBytes {m : Message} (writable : m.toElement.node.HasWritableTags) :
    parse m.toBytes = .ok m.reread :=
  parse_of_legible (writable.legible (by simp [Scope.IsClean]))

end Message

end XRoad.Soap
