import XRoad.Proofs.Xml.Scoped
import XRoad.Xml.Binding

/-!
# Written elements

How an element is written: a tree whose names are in namespaces that are bound around it is written
without any declaration (`Node.IsWithin.undeclared`), and what is written of an element is laid out
by its name, its attributes and what is written of its children (`Node.writeOwn_element`).
-/

namespace XRoad.Xml

/-! ### Trees in some namespaces -/

/-- The names of the tag are in these namespaces. -/
def Tag.UsesOnly (bs : List Binding) (t : Tag) : Prop :=
  ∀ use ∈ t.uses, ∃ b ∈ bs, use = (b.nsPrefix, b.nsUri)

/-- Nothing is declared in the node, and all its names are in these namespaces. -/
def Node.IsWithin (bs : List Binding) (n : Node) : Prop :=
  ∀ e ∈ n.elements, e.tag.declarations = [] ∧ e.tag.UsesOnly bs

theorem Scope.binds_nil_cons (scope : Scope) (p u : String) :
    binds ([] :: scope) p u = scope.binds p u :=
  rfl

theorem Binding.usesOnly_element {bs : List Binding} {b : Binding} (bound : b ∈ bs)
    (name : String) : (b.element name).tag.UsesOnly bs := by
  intro use m
  refine ⟨b, bound, (List.mem_singleton.1 m).trans ?_⟩
  change ((if b.nsPrefix = "" then none else some b.nsPrefix).getD "", b.nsUri) = _
  split
  · next empty => rw [empty, Option.getD_none]
  · rfl

namespace Node

variable {bs : List Binding} {scope : Scope}

theorem isWithin_text (s : String) : (Node.text s).IsWithin bs := by
  intro e m
  rw [elements] at m
  cases m

theorem isWithin_element {t : Tag} {cs : List Node} (bare : t.declarations = [])
    (uses : t.UsesOnly bs) (children : ∀ n ∈ cs, n.IsWithin bs) :
    (Node.element t cs).IsWithin bs := by
  rw [IsWithin, elements, elementsAll_eq, List.forall_mem_cons]
  refine ⟨⟨bare, uses⟩, fun e m => ?_⟩
  obtain ⟨n, mn, me⟩ := List.mem_flatMap.1 m
  exact children n mn e me

theorem isWithin_withText {t : Tag} (bare : t.declarations = []) (uses : t.UsesOnly bs)
    (text : String) : (Node.element t [.text text]).IsWithin bs := by
  refine isWithin_element bare uses fun n m => ?_
  rw [List.mem_singleton.1 m]
  exact isWithin_text text

/-- Where its namespaces are bound, a node is written without a declaration. -/
theorem IsWithin.undeclared {n : Node} (within : n.IsWithin bs)
    (bound : ∀ b ∈ bs, scope.binds b.nsPrefix b.nsUri) :
    n.Everywhere (fun scope e => e.tag.writtenDeclarations scope = []) scope ∧
      n.KeepsDeclarations scope := by
  induction n using Node.induction generalizing scope with
  | text s => exact ⟨everywhere_text s, everywhere_text s⟩
  | element t cs ih =>
    rw [IsWithin, elements, elementsAll_eq, List.forall_mem_cons] at within
    obtain ⟨⟨bare, uses⟩, below⟩ := within
    simp only at bare uses
    have written : t.writtenDeclarations scope = t.declarations := by
      rw [Tag.writtenDeclarations_eq]
      refine Declarations.bindAll_of_bound fun use m => .inr ?_
      obtain ⟨b, mb, rfl⟩ := uses use m
      rw [bare, Scope.binds_nil_cons]
      exact bound b mb
    -- The scope of the children has one more tag in it, which declares nothing.
    have around : ∀ b ∈ bs, Scope.binds (t.declarations :: scope) b.nsPrefix b.nsUri := by
      rw [bare]
      exact bound
    have inside (c : Node) (m : c ∈ cs) :=
      ih c m (fun e me => below e (List.mem_flatMap.2 ⟨c, m, me⟩)) around
    exact ⟨everywhere_element.2 ⟨written.trans bare, fun c m => (inside c m).1⟩,
      everywhere_element.2 ⟨written, fun c m => (inside c m).2⟩⟩

end Node

/-! ### Written elements -/

/-- An element as it is written; one without content has no end tag. -/
def markup (name : String) (attributes : List (String × String)) (content : List Char) :
    List Char :=
  '<' :: name.toList ++
    attributes.flatMap (fun a =>
      ' ' :: a.1.toList ++ "=\"".toList ++ escapeValue a.2.toList ++ ['"']) ++
    if content = [] then "/>".toList
    else '>' :: content ++ "</".toList ++ name.toList ++ ['>']

theorem escapeContent_eq_nil_iff (s : String) : escapeContent s.toList = [] ↔ s = "" := by
  rw [escapeContent, List.flatMap_eq_nil_iff, ← String.toList_eq_nil_iff]
  constructor
  · intro none
    rw [List.eq_nil_iff_forall_not_mem]
    intro c m
    have absent := none c m
    split at absent
    · cases absent
    · unfold escapeChar at absent
      split at absent <;> cases absent
  · intro empty c m
    rw [empty] at m
    exact absurd m List.not_mem_nil

namespace Node

theorem writeOwnAll_eq (ns : List Node) : writeOwnAll ns = ns.flatMap writeOwn := by
  induction ns with
  | nil => rw [writeOwnAll, List.flatMap_nil]
  | cons n ns ih => rw [writeOwnAll, ih, List.flatMap_cons]

theorem writeOwnAll_eq_nil_iff (ns : List Node) : writeOwnAll ns = [] ↔ ¬ ns.any isVisible := by
  -- A text that is not empty is written, and so is every element.
  rw [writeOwnAll_eq, List.flatMap_eq_nil_iff, List.any_eq_true, not_exists]
  refine forall_congr' fun n => ?_
  rw [not_and]
  refine imp_congr_right fun _ => ?_
  cases n with
  | text s => rw [writeOwn, escapeContent_eq_nil_iff, isVisible, bne_iff_ne, not_not]
  | element t cs =>
    refine iff_of_false ?_ (not_not_intro rfl)
    rw [writeOwn, Tag.write_eq]
    exact List.cons_ne_nil _ _

theorem writeOwn_element (t : Tag) (cs : List Node) :
    (Node.element t cs).writeOwn =
      markup t.written (t.pairs t.declarations) (cs.flatMap writeOwn) := by
  rw [writeOwn, Tag.write_eq, markup, ← writeOwnAll_eq]
  simp only [writeOwnAll_eq_nil_iff, ite_not]
  rfl

theorem writeOwn_text (t : Tag) (s : String) :
    (Node.element t [.text s]).writeOwn =
      markup t.written (t.pairs t.declarations) (escapeContent s.toList) := by
  rw [writeOwn_element, List.flatMap_singleton, writeOwn]

end Node

end XRoad.Xml
