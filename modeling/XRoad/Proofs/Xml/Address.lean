import Mathlib.Data.List.Lex
import XRoad.Proofs.Xml.Binding
import XRoad.Xml.Path

/-!
# Addresses

The address of an element below another one says which child element leads on, at each level. A
search lists every address once, and document order is the lexicographic order of addresses. Main
statements: `Element.map_addressed`, `Element.mem_addressed_iff` and `Element.sorted_addressed`.
-/

namespace XRoad.Xml

/-- What holds of an element when it holds of its child elements, holds of every element. -/
@[elab_as_elim]
theorem Element.induction {P : Element → Prop}
    (step : ∀ e : Element, (∀ c ∈ e.childElements, P c) → P e) (e : Element) : P e := by
  have all (n : Node) : ∀ e ∈ n.element?, P e := by
    induction n using Node.induction with
    | text s => exact nofun
    | element t cs ih =>
      rintro e ⟨⟩
      refine step _ fun c m => ?_
      obtain ⟨n, child, here⟩ := List.mem_filterMap.1 m
      exact ih n child c here
  exact all e.node e rfl

namespace Node

mutual

/-- The elements of a node, each with its address in the node. -/
def addressed : Node → List (List Nat × Element)
  | .text _ => []
  | .element tag children => ([], { tag, children }) :: addressedAll 0 children

/-- The elements of some nodes, where `n` is the number of the first element among them. -/
def addressedAll (n : Nat) : List Node → List (List Nat × Element)
  | [] => []
  | c :: rest =>
    (addressed c).map (fun p => (n :: p.1, p.2)) ++
      addressedAll (if c.isElement then n + 1 else n) rest

end

end Node

namespace Element

def atAddress? (e : Element) (address : List Nat) : Option Element :=
  e.at? (address.map .nth)

/-- The elements below this one with their addresses, in document order. -/
def addressed (e : Element) : List (List Nat × Element) :=
  Node.addressedAll 0 e.children

theorem addressed_eq (e : Element) :
    e.addressed = e.childElements.zipIdx.flatMap fun c =>
      ([c.2], c.1) :: c.1.addressed.map fun p => (c.2 :: p.1, p.2) := by
  have all (n : Nat) (ns : List Node) :
      Node.addressedAll n ns = ((ns.filterMap Node.element?).zipIdx n).flatMap fun c =>
        ([c.2], c.1) :: c.1.addressed.map fun p => (c.2 :: p.1, p.2) := by
    induction ns generalizing n with
    | nil => rw [Node.addressedAll, List.filterMap_nil, List.zipIdx_nil, List.flatMap_nil]
    | cons c rest ih =>
      rw [Node.addressedAll, ih]
      cases c with
      | text s => rfl
      | element t cs => rw [Node.addressed]; rfl
  exact all 0 e.children

variable {e : Element}

theorem map_addressed (e : Element) : e.addressed.map (·.2) = e.descendants := by
  induction e using Element.induction with
  | step e ih =>
    have below : ∀ c ∈ e.childElements.zipIdx,
        (([c.2], c.1) :: c.1.addressed.map fun p => (c.2 :: p.1, p.2)).map (·.2) =
          c.1 :: c.1.descendants := by
      intro c m
      rw [List.map_cons, List.map_map, ← ih c.1 (List.fst_mem_of_mem_zipIdx m)]
      rfl
    rw [addressed_eq, List.map_flatMap, List.flatMap_congr below, descendants_eq]
    conv_rhs => rw [← List.zipIdx_map_fst 0 e.childElements, List.flatMap_map]

theorem mem_addressed_iff {address : List Nat} {x : Element} :
    (address, x) ∈ e.addressed ↔ address ≠ [] ∧ e.atAddress? address = some x := by
  induction e using Element.induction generalizing address with
  | step e ih =>
    rw [addressed_eq, List.mem_flatMap]
    cases address with
    | nil => simp
    | cons i rest =>
      have next : e.atAddress? (i :: rest) = some x ↔
          ∃ c, e.childElements[i]? = some c ∧ c.atAddress? rest = some x :=
        Option.bind_eq_some_iff
      rw [next]
      constructor
      · rintro ⟨⟨c, j⟩, m, listed⟩
        have here := List.mem_zipIdx_iff_getElem?.1 m
        refine ⟨List.cons_ne_nil _ _, ?_⟩
        rcases List.mem_cons.1 listed with same | further
        · obtain ⟨address, rfl⟩ := Prod.mk.inj same
          obtain ⟨rfl, rfl⟩ := List.cons.inj address
          exact ⟨x, here, rfl⟩
        · obtain ⟨⟨q, y⟩, my, same⟩ := List.mem_map.1 further
          obtain ⟨address, rfl⟩ := Prod.mk.inj same
          obtain ⟨rfl, rfl⟩ := List.cons.inj address
          exact ⟨c, here, ((ih c (List.mem_of_getElem? here)).1 my).2⟩
      · rintro ⟨-, c, here, reached⟩
        refine ⟨(c, i), List.mem_zipIdx_iff_getElem?.2 here, ?_⟩
        cases rest with
        | nil =>
          obtain rfl : c = x := Option.some.inj reached
          exact List.mem_cons_self
        | cons j rest =>
          refine List.mem_cons_of_mem _ (List.mem_map.2 ⟨(j :: rest, x), ?_, rfl⟩)
          exact (ih c (List.mem_of_getElem? here)).2 ⟨List.cons_ne_nil _ _, reached⟩

theorem sorted_addressed (e : Element) : e.addressed.Pairwise fun a b => a.1 < b.1 := by
  induction e using Element.induction with
  | step e ih =>
    rw [addressed_eq, List.pairwise_flatMap]
    constructor
    · intro c m
      refine List.pairwise_cons.2 ⟨fun q mq => ?_, ?_⟩
      · obtain ⟨p, mp, rfl⟩ := List.mem_map.1 mq
        refine List.cons_lt_cons_iff.2 (.inr ⟨rfl, ?_⟩)
        obtain ⟨i, rest, address⟩ := List.exists_cons_of_ne_nil (mem_addressed_iff.1 mp).1
        rw [address]
        exact List.nil_lt_cons i rest
      · refine List.pairwise_map.2 ((ih c.1 (List.fst_mem_of_mem_zipIdx m)).imp fun before => ?_)
        exact List.cons_lt_cons_iff.2 (.inr ⟨rfl, before⟩)
    · have numbers : (e.childElements.zipIdx.map Prod.snd).Pairwise (· < ·) := by
        rw [List.zipIdx_map_snd]
        exact List.pairwise_lt_range' 1
      refine (List.pairwise_map.1 numbers).imp fun {c d} before a ma b mb => ?_
      -- All that is listed for a child element begins with the number of the child.
      have first {c : Element × Nat} {a : List Nat × Element}
          (m : a ∈ ([c.2], c.1) :: c.1.addressed.map fun p => (c.2 :: p.1, p.2)) :
          ∃ rest, a.1 = c.2 :: rest := by
        rcases List.mem_cons.1 m with rfl | m
        · exact ⟨[], rfl⟩
        · obtain ⟨p, -, rfl⟩ := List.mem_map.1 m
          exact ⟨p.1, rfl⟩
      obtain ⟨p, begins⟩ := first ma
      obtain ⟨q, ends⟩ := first mb
      rw [begins, ends]
      exact List.cons_lt_cons_iff.2 (.inl before)

end Element

end XRoad.Xml
