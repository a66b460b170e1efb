import XRoad.Fault.Element
import XRoad.Proofs.Table
import XRoad.Proofs.Xml.Binding
import XRoad.Proofs.Xml.Leaves
import XRoad.Proofs.Xml.Namespace

/-!
# The parts of faults

Every part of a fault is found by its name where it was written. A SOAP fault comes back from the
wire as it was, but for blanks around its texts; an error of a service is read where it stands.
-/

namespace XRoad

open Xml (Element Node Tag Scope)

/-! ### Finding parts by name -/

/-- An element that may be missing is found by its name, in any case. -/
theorem find?_optional {γ : Type} {write : γ → Element} {name : String}
    (named : ∀ c, (write c).tag.name = name) (part : Option γ) (other : String) :
    (part.toList.map write).find? (fun e => Text.sameLetters e.tag.name other) =
      if Text.sameLetters name other then part.map write else none := by
  cases part with
  | none => simp
  | some c =>
    rw [Option.toList_some, List.map_singleton, List.find?_singleton, named c]
    rfl

theorem find?_optionalText (name : String) (text : Option String) (other : String) :
    (optionalText name text).find? (fun e => Text.sameLetters e.tag.name other) =
      if Text.sameLetters name other then text.map (Element.withText name) else none := by
  have named (s : String) : (Element.withText name s).tag.name = name := rfl
  exact find?_optional named text other

namespace Fault

section
variable {es : List Element} {name : String} {part : Option Element} {text : Option String}
  (t : Tag) (scope : Scope)

theorem childAnyCase?_reread (found : es.find? (fun e => Text.sameLetters e.tag.name name) = part) :
    childAnyCase? (Element.reread scope { tag := t, children := es.map (·.node) }) name =
      part.map (Element.reread (t.writtenDeclarations scope :: scope)) := by
  rw [childAnyCase?, Element.childElements_reread, List.find?_map, ← found]
  refine congrArg (Option.map _) (congrArg (List.find? · es) (funext fun e => ?_))
  rw [Function.comp_apply, Element.reread_tag]
  rfl

variable (found : es.find? (fun e => Text.sameLetters e.tag.name name) =
  text.map (Element.withText name))
include found

theorem textAnyCase?_elements :
    textAnyCase? { tag := t, children := es.map (·.node) } name = text.map Text.trim := by
  rw [textAnyCase?, childAnyCase?, Element.childElements_elements, found, Option.map_map]
  refine congrArg (Option.map · text) (funext fun s => congrArg Text.trim ?_)
  exact String.append_empty

theorem textAnyCase?_reread :
    textAnyCase? (Element.reread scope { tag := t, children := es.map (·.node) }) name =
      text.map Text.trim := by
  rw [textAnyCase?, childAnyCase?_reread t scope found, Option.map_map, Option.map_map]
  refine congrArg (Option.map · text) (funext fun s => congrArg Text.trim ?_)
  exact Element.textContent_reread _ (.named name) s

end

/-! ### Errors of a service -/

theorem ofAnswer?_kind {e : Element} {f : Fault} (found : ofAnswer? e = some f) :
    f.kind = .nonTechnical := by
  unfold ofAnswer? at found
  split at found
  · cases found
  · rw [← Option.some.inj found]
    rfl

theorem ofAnswer?_answerNodes {f : Fault} (present : f.code.isSome ∨ f.text.isSome) (t : Tag) :
    ofAnswer? { tag := t, children := f.answerNodes } =
      some (.nonTechnical (f.code.map Text.trim) (f.text.map Text.trim)) := by
  have code : textAnyCase? { tag := t, children := f.answerNodes } "faultcode" =
      f.code.map Text.trim := by
    apply textAnyCase?_elements
    rw [List.find?_append, find?_optionalText, find?_optionalText]
    simp +decide
  have text : textAnyCase? { tag := t, children := f.answerNodes } "faultstring" =
      f.text.map Text.trim := by
    apply textAnyCase?_elements
    rw [List.find?_append, find?_optionalText, find?_optionalText]
    simp +decide
  unfold ofAnswer?
  rw [code, text]
  split
  · next noCode noText =>
    rw [Option.map_eq_none_iff] at noCode noText
    simp [noCode, noText] at present
  · rfl

/-! ### SOAP faults over the wire -/

/-- The only element in a body is read as its fault when no other element is named like it. -/
theorem ofBody?_of_alone {reader : DetailReader} {body e : Element} {f : Fault}
    (alone : body.childElements = [e]) (named : e.tag.name = "Fault") :
    ofBody? reader body = some f ↔
      ofElement reader e = f ∧ ∀ x ∈ e.descendants, x.tag.name ≠ "Fault" := by
  have here : e.tag.isNamed none "Fault" := by
    simp [Xml.QName.isNamed, named]
  have below : e.find none "Fault" = [] ↔ ∀ x ∈ e.descendants, x.tag.name ≠ "Fault" := by
    unfold Element.find
    rw [List.filter_eq_nil_iff]
    simp [Xml.QName.isNamed]
  unfold ofBody?
  rw [Element.find_of_alone alone, List.filter_singleton, here, Option.map_eq_some_iff]
  simp only [cond_true, List.singleton_append, Xml.only?_cons_eq_some_iff, below]
  constructor
  · rintro ⟨x, ⟨rfl, noneBelow⟩, read⟩
    exact ⟨read, noneBelow⟩
  · rintro ⟨read, noneBelow⟩
    exact ⟨e, ⟨rfl, noneBelow⟩, read⟩

def tableDetail : DetailReader :=
  fun e => some (.table e.table)

end Fault

namespace FaultDetail

/-- A text, or a table of trimmed texts under plain names that are not that of a fault. -/
def IsPlain : FaultDetail → Prop
  | .text _ => True
  | .table t => t.entries ≠ [] ∧
      ∀ p ∈ t.entries, Xml.IsPlainName p.1 ∧ p.1 ≠ "Fault" ∧ Text.trim p.2 = p.2
  | .node _ => False

instance : (d : FaultDetail) → Decidable d.IsPlain
  | .text _ => isTrue trivial
  | .table t => inferInstanceAs (Decidable (t.entries ≠ [] ∧ ∀ p ∈ t.entries, _ ∧ _))
  | .node _ => isFalse id

def element (d : FaultDetail) : Element :=
  FaultDetail.write d (.named "detail")

theorem element_name (d : FaultDetail) : d.element.tag.name = "detail" := by
  cases d <;> rfl

theorem element_table (t : Table String) : (table t).element =
    { tag := .named "detail"
      children := (t.entries.map fun p => Element.mk (.named p.1) [.text p.2]).map (·.node) } := by
  rw [List.map_map]
  exact congrArg (Element.mk (.named "detail")) (List.nil_append _)

theorem readDetail_reread {d : FaultDetail} (plain : d.IsPlain) (scope : Scope) :
    Fault.readDetail Fault.tableDetail (d.element.reread scope) = some d := by
  cases d with
  | text s =>
    have content : ((FaultDetail.text s).element.reread scope).textContent = s :=
      Element.textContent_reread scope (.named "detail") s
    have childless : ¬ ((FaultDetail.text s).element.reread scope).hasChildElements := by
      have read := Element.reread_text scope (.named "detail") s
      change ((FaultDetail.text s).element.reread scope) = _ at read
      rw [read]
      unfold Element.hasChildElements
      split <;> simp [Node.isElement, Node.element?]
    rw [Fault.readDetail, if_neg childless, content]
  | table t =>
    obtain ⟨nonempty, entries⟩ := plain
    have leaves : ((FaultDetail.table t).element.reread scope).leaves = t.entries := by
      have read := Element.leaves_reread_texts scope (.named "detail")
        (fun p : String × String => .named p.1) (fun p => p.2) fun p m => (entries p m).2.2
      rw [element_table, read]
      exact List.map_id _
    have children : ((FaultDetail.table t).element.reread scope).hasChildElements := by
      obtain ⟨p, rest, more⟩ := List.exists_cons_of_ne_nil nonempty
      rw [element_table, Element.reread_elements, more]
      rfl
    rw [Fault.readDetail, if_pos children, Fault.tableDetail, Element.table, leaves, Table.ofList_entries]
  | node e => exact absurd plain id

end FaultDetail

namespace Fault

def parts (f : Fault) : List Element :=
  optionalText "faultcode" f.code ++ optionalText "faultstring" f.text ++
    optionalText "faultactor" f.actor ++ f.detail.toList.map FaultDetail.element

theorem element_parts (f : Fault) : f.element FaultDetail.write =
    { tag := (Protocol.soap.element "Fault").tag, children := f.parts.map (·.node) } :=
  rfl

variable {f : Fault} (scope : Scope)

theorem find?_parts (f : Fault) (name : String) :
    f.parts.find? (fun e => Text.sameLetters e.tag.name name) =
      (((if Text.sameLetters "faultcode" name then f.code.map (Element.withText "faultcode")
          else none).or
        (if Text.sameLetters "faultstring" name then f.text.map (Element.withText "faultstring")
          else none)).or
        (if Text.sameLetters "faultactor" name then f.actor.map (Element.withText "faultactor")
          else none)).or
        (if Text.sameLetters "detail" name then f.detail.map FaultDetail.element else none) := by
  rw [parts, List.find?_append, List.find?_append, List.find?_append, find?_optionalText,
    find?_optionalText, find?_optionalText, find?_optional FaultDetail.element_name]

/-- A SOAP fault is read as it was written, its texts without the blanks around them. -/
theorem ofElement_reread (standard : f.kind = .standard) (plain : ∀ d ∈ f.detail, d.IsPlain) :
    ofElement tableDetail ((f.element FaultDetail.write).reread scope) =
      { f with
        code := f.code.map Text.trim
        text := f.text.map Text.trim
        actor := f.actor.map Text.trim } := by
  have read (name : String) {text : Option String}
      (found : f.parts.find? (fun e => Text.sameLetters e.tag.name name) =
        text.map (Element.withText name)) :
      textAnyCase? ((f.element FaultDetail.write).reread scope) name = text.map Text.trim :=
    textAnyCase?_reread _ scope found
  have code : f.parts.find? (fun e => Text.sameLetters e.tag.name "faultcode") =
      f.code.map (Element.withText "faultcode") := by
    rw [find?_parts]
    simp +decide
  have text : f.parts.find? (fun e => Text.sameLetters e.tag.name "faultstring") =
      f.text.map (Element.withText "faultstring") := by
    rw [find?_parts]
    simp +decide
  have actor : f.parts.find? (fun e => Text.sameLetters e.tag.name "faultactor") =
      f.actor.map (Element.withText "faultactor") := by
    rw [find?_parts]
    simp +decide
  have detail : (childAnyCase? ((f.element FaultDetail.write).reread scope) "detail").bind
      (readDetail tableDetail) = f.detail := by
    have found : f.parts.find? (fun e => Text.sameLetters e.tag.name "detail") =
        f.detail.map FaultDetail.element := by
      rw [find?_parts]
      simp +decide
    rw [element_parts, childAnyCase?_reread _ scope found]
    cases given : f.detail with
    | none => rfl
    | some d => exact d.readDetail_reread (plain d given) _
  obtain ⟨kind, c, t, a, d⟩ := f
  subst standard
  rw [ofElement, read _ code, read _ text, read _ actor, detail]
  rfl

/-! ### Writing SOAP faults -/

/-- Can be written, and has no element that is named like a fault. -/
structure IsPart (e : Element) : Prop where
  writable : e.node.HasWritableTags
  other : "Fault" ∉ e.names

theorem isPart_text {name : String} (plain : Xml.IsPlainName name) (other : name ≠ "Fault")
    (s : String) : IsPart (.withText name s) where
  writable := .withText (Tag.isWritable_named plain) s
  other := by
    intro m
    exact other (List.mem_singleton.1 m).symm

theorem isPart_detail {d : FaultDetail} (plain : d.IsPlain) : IsPart d.element := by
  have name : Xml.IsPlainName "detail" := by decide
  cases d with
  | text s => exact isPart_text name (by decide) s
  | table t =>
    have entries : ∀ e ∈ t.entries.map fun p => Element.withText p.1 p.2, IsPart e := by
      intro e m
      obtain ⟨p, mp, rfl⟩ := List.mem_map.1 m
      obtain ⟨plainName, other, -⟩ := plain.2 p mp
      exact isPart_text plainName other p.2
    rw [FaultDetail.element_table]
    constructor
    · refine .element (Tag.isWritable_named name) fun n m => ?_
      obtain ⟨e, me, rfl⟩ := List.mem_map.1 m
      exact (entries e me).writable
    · rw [Element.names_cons, Node.namesAll_elements, List.mem_cons, List.mem_flatMap]
      rintro (named | ⟨e, me, mn⟩)
      · have other : "Fault" ≠ "detail" := by decide
        exact other named
      · exact (entries e me).other mn
  | node e => exact absurd plain id

theorem isPart_of_mem (plain : ∀ d ∈ f.detail, d.IsPlain) : ∀ e ∈ f.parts, IsPart e := by
  intro e m
  simp only [parts, optionalText, List.mem_append, List.mem_map, Option.mem_toList] at m
  rcases m with ((⟨code, -, rfl⟩ | ⟨text, -, rfl⟩) | ⟨actor, -, rfl⟩) | ⟨d, given, rfl⟩
  · exact isPart_text (by decide) (by decide) code
  · exact isPart_text (by decide) (by decide) text
  · exact isPart_text (by decide) (by decide) actor
  · exact isPart_detail (plain d given)

theorem hasWritableTags_element (plain : ∀ d ∈ f.detail, d.IsPlain) :
    (f.element FaultDetail.write).node.HasWritableTags := by
  have tag : (Protocol.soap.element "Fault").tag.IsWritable := by decide
  rw [element_parts]
  refine .element tag fun n m => ?_
  obtain ⟨e, me, rfl⟩ := List.mem_map.1 m
  exact (isPart_of_mem plain e me).writable

theorem name_of_mem_reread (plain : ∀ d ∈ f.detail, d.IsPlain) :
    ∀ x ∈ ((f.element FaultDetail.write).reread scope).descendants, x.tag.name ≠ "Fault" := by
  intro x m named
  have kept : Node.namesAll ((f.element FaultDetail.write).reread scope).children =
      f.parts.flatMap Element.names := by
    have same := Element.names_reread scope (f.element FaultDetail.write)
    rw [Element.names_cons, Element.names_cons] at same
    rw [(List.cons.inj same).2, element_parts, Node.namesAll_elements]
  have here : "Fault" ∈ f.parts.flatMap Element.names := by
    rw [← kept, ← named]
    exact List.mem_map_of_mem m
  obtain ⟨e, me, mn⟩ := List.mem_flatMap.1 here
  exact (isPart_of_mem plain e me).other mn

end Fault

end XRoad
