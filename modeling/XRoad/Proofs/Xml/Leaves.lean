import XRoad.Proofs.Text
import XRoad.Proofs.Xml.Reread
import XRoad.Xml.Leaves

/-!
# Leaves of what was written

An element that holds a trimmed text is a leaf of that text after it was written and read, also when
the text is empty. The values of leaves are trimmed.
-/

namespace XRoad.Xml

theorem Node.trimmed_of_mem_leaves {n : Node} {parent : String} {p : String × String}
    (m : p ∈ n.leaves parent) : Text.trim p.2 = p.2 := by
  induction n using Node.induction generalizing parent with
  | text s =>
    rw [leaves] at m
    split at m
    · cases m
    · rw [List.mem_singleton.1 m]
      exact Text.trim_trim s
  | element t cs ih =>
    rw [leaves] at m
    split at m
    · rw [List.mem_singleton.1 m]
      rfl
    · rw [leavesAll_eq, List.mem_flatMap] at m
      obtain ⟨c, child, m⟩ := m
      exact ih c child m

namespace Element

theorem trimmed_of_get?_table {e : Element} {key v : String} (found : e.table.get? key = some v) :
    Text.trim v = v := by
  have leaf : (key, v) ∈ e.leaves := Table.mem_of_get?_ofList found
  rw [leaves, Node.leavesAll_eq, List.mem_flatMap] at leaf
  obtain ⟨c, -, leaf⟩ := leaf
  exact Node.trimmed_of_mem_leaves (p := (key, v)) leaf

variable {ι : Type} {is : List ι} (scope : Scope) (t : Tag)

theorem leaves_reread_text {s : String} (trimmed : Text.trim s = s) (parent : String) :
    (reread scope { tag := t, children := [.text s] }).node.leaves parent = [(t.name, s)] := by
  rw [reread_text, node, Node.leaves]
  by_cases empty : s = ""
  · subst empty
    rfl
  · have visible : Text.isBlank s = false := Text.not_blank_of_trimmed trimmed empty
    simp only [empty, ↓reduceIte, List.isEmpty_cons, Bool.false_eq_true, Node.leavesAll,
      Node.leaves, visible, List.append_nil, trimmed]
    rfl

theorem leaves_reread_texts (tag : ι → Tag) (text : ι → String)
    (trimmed : ∀ i ∈ is, Text.trim (text i) = text i) :
    (reread scope
      { tag := t, children := (is.map fun i => Element.mk (tag i) [.text (text i)]).map (·.node) }).leaves =
      is.map fun i => ((tag i).name, text i) := by
  have leaf (i : ι) (m : i ∈ is) (inner : Scope) :
      (reread inner { tag := tag i, children := [.text (text i)] }).node.leaves t.name =
        [((tag i).name, text i)] :=
    leaves_reread_text inner (tag i) (trimmed i m) t.name
  rw [reread_elements, leaves, Node.leavesAll_eq, List.map_map, List.map_map, List.flatMap_map]
  refine (List.flatMap_congr fun i m => leaf i m _).trans ?_
  exact List.map_eq_flatMap.symm

end Element

end XRoad.Xml
