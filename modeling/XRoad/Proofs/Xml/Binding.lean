import XRoad.Proofs.Xml.Reread
import XRoad.Xml.Binding

/-!
# Elements of a binding

Elements that are written under a prefix for a namespace: their tags can be written, and they are
found again by namespace and name.
-/

namespace XRoad.Xml

/-! ### Tags that can be written -/

/-- A prefix that tags can be written under, the empty one for the default namespace. -/
structure Binding.IsWritable (b : Binding) : Prop where
  nsPrefix : b.nsPrefix = "" ∨ IsPlainName b.nsPrefix
  notXml : b.nsPrefix ≠ "xml"
  nsUri : b.nsUri ≠ ""

instance (b : Binding) : Decidable b.IsWritable :=
  decidable_of_iff ((b.nsPrefix = "" ∨ IsPlainName b.nsPrefix) ∧ b.nsPrefix ≠ "xml" ∧ b.nsUri ≠ "")
    ⟨fun ⟨p, x, u⟩ => ⟨p, x, u⟩, fun ⟨p, x, u⟩ => ⟨p, x, u⟩⟩

theorem Tag.isWritable_of_bare {q : QName} (name : q.IsWritable) (uri : q.nsUri ≠ some "") :
    Tag.IsWritable { q with } where
  names := by
    intro r m
    rw [List.mem_singleton.1 m]
    exact name
  uri := uri
  unprefixed := nofun
  reserved := nofun
  declared := nofun
  consistent := by
    intro r m r' m' _ _
    rw [List.mem_singleton.1 m, List.mem_singleton.1 m']
  attributes_nodup := .nil
  declarations_nodup := .nil

theorem Tag.isWritable_named {name : String} (plain : IsPlainName name) :
    (Tag.named name).IsWritable :=
  isWritable_of_bare ⟨plain, nofun, nofun, nofun⟩ nofun

theorem Binding.IsWritable.element {b : Binding} (writable : b.IsWritable) {name : String}
    (plain : IsPlainName name) : (b.element name).tag.IsWritable := by
  refine Tag.isWritable_of_bare (q := QName.within name b.nsPrefix b.nsUri) ⟨plain, ?_, ?_, ?_⟩ ?_
  · intro p m
    rw [QName.within] at m
    split at m
    · cases m
    · next used =>
      cases m
      exact writable.nsPrefix.resolve_left used
  · exact fun _ => writable.nsUri
  · intro xml
    rw [QName.within] at xml
    split at xml
    · cases xml
    · exact absurd (Option.some.inj xml) writable.notXml
  · exact fun e => writable.nsUri (Option.some.inj e)

theorem Tag.IsWritable.setValue {q a : QName} {value : String}
    (writable : Tag.IsWritable { q with attributes := [{ a with value := value }] })
    (other : String) : Tag.IsWritable { q with attributes := [{ a with value := other }] } where
  names := writable.names
  uri := writable.uri
  unprefixed := by
    intro b m
    rw [List.mem_singleton.1 m]
    exact writable.unprefixed { a with value := value } (List.mem_singleton_self _)
  reserved := by
    intro b m
    rw [List.mem_singleton.1 m]
    exact writable.reserved { a with value := value } (List.mem_singleton_self _)
  declared := nofun
  consistent := writable.consistent
  attributes_nodup := writable.attributes_nodup
  declarations_nodup := .nil

/-! ### Elements of a text -/

namespace Binding

variable {b : Binding} {name : String}

theorem textElement_writable (writable : b.IsWritable) (plain : IsPlainName name) (text : String) :
    (b.textElement name text).node.HasWritableTags :=
  .withText (writable.element plain) text

end Binding

/-- A text comes back whole, the empty one as no child at all. -/
theorem Element.textContent_reread (scope : Scope) (t : Tag) (s : String) :
    (reread scope { tag := t, children := [.text s] }).textContent = s := by
  rw [reread_text, textContent]
  split
  · next empty =>
    rw [empty]
    rfl
  · exact String.append_empty

/-! ### Trees that can be written -/

namespace Element

theorem IsWritable.of_children {t : Tag} {cs : List Node} (tag : t.IsWritable)
    (compact : IsCompact { tag := t, children := cs })
    (children : ∀ e ∈ Node.elementsAll cs, e.tag.IsWritable ∧ e.IsCompact) :
    IsWritable { tag := t, children := cs } := by
  have elements : (Element.mk t cs).node.elements = Element.mk t cs :: Node.elementsAll cs :=
    Node.elements_node { tag := t, children := cs }
  constructor
  · intro e m
    rw [elements] at m
    rcases List.mem_cons.1 m with rfl | below
    · exact tag
    · exact (children e below).1
  · intro e m
    rw [elements] at m
    rcases List.mem_cons.1 m with rfl | below
    · exact compact
    · exact (children e below).2

theorem IsWritable.elements {e : Element} (writable : e.IsWritable) :
    ∀ x ∈ e.node.elements, x.tag.IsWritable ∧ x.IsCompact :=
  fun x m => ⟨writable.tags x m, writable.compact x m⟩

theorem IsWritable.retag {e : Element} (writable : e.IsWritable) {t : Tag} (tag : t.IsWritable) :
    IsWritable { tag := t, children := e.children } := by
  have here := Node.elements_node e
  obtain ⟨visible, separate, content⟩ := writable.compact e (by rw [here]; exact List.mem_cons_self)
  refine .of_children tag ⟨visible, separate, content⟩ fun x m => ?_
  refine writable.elements x ?_
  rw [here]
  exact List.mem_cons_of_mem _ m

theorem IsWritable.under {e : Element} (writable : e.IsWritable) {t : Tag} (tag : t.IsWritable) :
    IsWritable { tag := t, children := [e.node] } := by
  refine .of_children tag ⟨?_, .singleton _, ?_⟩ fun x m => ?_
  · intro n m
    rw [List.mem_singleton.1 m]
    exact nofun
  · intro _ n m
    rw [List.mem_singleton.1 m]
    rfl
  · rw [Node.elementsAll, Node.elementsAll, List.append_nil] at m
    exact writable.elements x m

theorem isWritable_empty {t : Tag} (tag : t.IsWritable) : IsWritable { tag := t } :=
  .of_children tag ⟨nofun, .nil, nofun⟩ nofun

end Element

theorem Binding.qualify_eq (b : Binding) (t : Tag) (cs : List Node) :
    b.qualify { tag := t, children := cs } =
      { tag := t.qualify b.nsUri b.nsPrefix
        children := Node.mapTagsAll (Tag.qualify b.nsUri b.nsPrefix) cs } :=
  rfl

theorem Tag.qualify_named (b : Binding) (name : String) :
    (Tag.named name).qualify b.nsUri b.nsPrefix = (b.element name).tag := by
  rw [Tag.qualify, nonEmpty?_some]
  rfl

theorem Tag.qualify_element (b : Binding) (name : String) :
    (b.element name).tag.qualify b.nsUri b.nsPrefix = (b.element name).tag := by
  rw [← qualify_named]
  rfl

namespace Element

variable (binding : Option Binding) (name : String)

theorem bound_eq : bound binding name = { tag := (bound binding name).tag } := by
  cases binding <;> rfl

theorem name_bound : (bound binding name).tag.name = name := by
  cases binding <;> rfl

variable {binding name} in
theorem isWritable_bound (writable : ∀ b ∈ binding, b.IsWritable) (plain : IsPlainName name) :
    (bound binding name).tag.IsWritable := by
  cases binding with
  | none => exact Tag.isWritable_named plain
  | some b => exact (writable b rfl).element plain

end Element

/-! ### Finding elements -/

namespace QName

variable {q : QName} {name : String}

theorem name_of_isNamed {nsUri : Option String} (named : q.isNamed nsUri name) : q.name = name := by
  unfold isNamed at named
  rw [Bool.and_eq_true, beq_iff_eq] at named
  exact named.1

theorem isNamed_none_iff : q.isNamed none name ↔ q.name = name := by
  simp [isNamed]

end QName

namespace Element

theorem node_injective : Function.Injective node := by
  rintro ⟨tag, children⟩ ⟨tag', children'⟩ same
  obtain ⟨rfl, rfl⟩ := Node.element.inj same
  rfl

theorem descendants_eq (e : Element) :
    e.descendants = e.childElements.flatMap fun c => c :: c.descendants := by
  unfold descendants childElements
  induction e.children with
  | nil => rfl
  | cons n ns ih =>
    rw [Node.elementsAll, ih]
    cases n with
    | text s => rw [Node.elements, List.filterMap_cons_none rfl, List.nil_append]
    | element t cs =>
      have here : (Node.element t cs).element? = some { tag := t, children := cs } := rfl
      rw [Node.elements, List.filterMap_cons_some here, List.flatMap_cons]

theorem descendants_elements (t : Tag) (es : List Element) :
    descendants { tag := t, children := es.map (·.node) } = es.flatMap fun e => e :: e.descendants := by
  rw [descendants_eq, childElements_elements]

theorem find_of_alone {e c : Element} (alone : e.childElements = [c]) (nsUri : Option String)
    (name : String) :
    e.find nsUri name = [c].filter (·.tag.isNamed nsUri name) ++ c.find nsUri name := by
  rw [find, descendants_eq, alone, List.flatMap_singleton, ← List.singleton_append,
    List.filter_append, find]

/-- Where no element further down is meant, the children of a name are found. -/
theorem find_elements {t : Tag} {es : List Element} {nsUri : Option String} {name : String}
    (below : ∀ e ∈ es, ∀ d ∈ e.descendants, d.tag.isNamed nsUri name = false) :
    find { tag := t, children := es.map (·.node) } nsUri name =
      es.filter (·.tag.isNamed nsUri name) := by
  rw [find, descendants_elements, List.filter_flatMap]
  induction es with
  | nil => rfl
  | cons e es ih =>
    have none_below : e.descendants.filter (·.tag.isNamed nsUri name) = [] :=
      List.filter_eq_nil_iff.2 fun d m => by simp [below e List.mem_cons_self d m]
    rw [List.flatMap_cons, ih fun e m => below e (List.mem_cons_of_mem _ m), List.filter_cons,
      List.filter_cons, none_below]
    split <;> rfl

end Element

/-- Elements that may be missing, under their namespaces and names. -/
abbrev Slots := List ((String × String) × Option Element)

namespace Slots

variable {slots : Slots}

def elements (slots : Slots) : List Element :=
  slots.filterMap Prod.snd

theorem elements_cons (key : String × String) (o : Option Element) (slots : Slots) :
    elements ((key, o) :: slots) = o.toList ++ elements slots := by
  cases o <;> rfl

/-- Each element is named as its slot is, and no two slots are named alike. -/
structure IsNamed (slots : Slots) : Prop where
  named : ∀ s ∈ slots, ∀ e ∈ s.2, e.tag.uri = s.1.1 ∧ e.tag.name = s.1.2
  nodup : (slots.map Prod.fst).Nodup

theorem IsNamed.tail {s : (String × String) × Option Element} (named : IsNamed (s :: slots)) :
    IsNamed slots :=
  ⟨fun s m => named.named s (List.mem_cons_of_mem _ m), (List.nodup_cons.1 named.nodup).2⟩

theorem isNamed_iff {e : Element} {key key' : String × String}
    (named : e.tag.uri = key.1 ∧ e.tag.name = key.2) :
    e.tag.isNamed (some key'.1) key'.2 = (key == key') := by
  rw [QName.isNamed, named.1, named.2, Bool.and_comm]
  rfl

theorem filter_eq_nil {key : String × String} (named : IsNamed slots)
    (absent : key ∉ slots.map Prod.fst) :
    slots.elements.filter (·.tag.isNamed (some key.1) key.2) = [] := by
  rw [List.filter_eq_nil_iff]
  intro e m
  obtain ⟨s, ms, hs⟩ := List.mem_filterMap.1 m
  rw [isNamed_iff (named.named s ms e hs), beq_iff_eq]
  rintro rfl
  exact absent (List.mem_map_of_mem ms)

theorem only?_filter (named : IsNamed slots) (key : String × String) :
    only? (slots.elements.filter (·.tag.isNamed (some key.1) key.2)) = (slots.lookup key).join := by
  induction slots with
  | nil => rfl
  | cons s slots ih =>
    obtain ⟨key', o⟩ := s
    have head := named.named (key', o) List.mem_cons_self
    rw [elements_cons, List.filter_append, List.lookup_cons]
    by_cases here : key = key'
    · subst here
      rw [filter_eq_nil named.tail (List.nodup_cons.1 named.nodup).1, List.append_nil]
      cases o with
      | none => simp [only?]
      | some e => simp [isNamed_iff (head e rfl), only?]
    · have skipped : o.toList.filter (·.tag.isNamed (some key.1) key.2) = [] := by
        rw [List.filter_eq_nil_iff]
        intro e m
        rw [isNamed_iff (head e (Option.mem_toList.1 m)), beq_iff_eq]
        exact Ne.symm here
      rw [skipped, List.nil_append, ih named.tail, beq_false_of_ne here]

end Slots

end XRoad.Xml
