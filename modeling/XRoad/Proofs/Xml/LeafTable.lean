import Mathlib.Data.List.Basic
import XRoad.Proofs.Table
import XRoad.Xml.Leaves

/-!
# Tables of leaves

The tables of an element are made of one list: what the nodes below it give, in document order. Each
name has a place in the order in which it first comes, and its last value or all of them. Main
statement: `Element.tables_of_leafPairs`.
-/

namespace XRoad.Xml

namespace Node

mutual

/-- The node, then every node below it, in document order, each with the local name of its parent. -/
def under (parent : String) : Node → List (String × Node)
  | .text s => [(parent, .text s)]
  | .element tag children => (parent, .element tag children) :: underAll tag.name children

def underAll (parent : String) : List Node → List (String × Node)
  | [] => []
  | n :: rest => under parent n ++ underAll parent rest

end

/-- What a node by itself gives: its own name with an empty value if it is an element without
children, the name of its parent with the trimmed text if it is a text that is not blank. -/
def leaf? : String × Node → Option (String × String)
  | (parent, .text s) => if Text.isBlank s then none else some (parent, Text.trim s)
  | (_, .element tag children) => if children = [] then some (tag.name, "") else none

theorem underAll_eq (parent : String) (ns : List Node) : underAll parent ns = ns.flatMap (under parent) := by
  induction ns with
  | nil => rw [underAll, List.flatMap_nil]
  | cons n rest ih => rw [underAll, ih, List.flatMap_cons]

theorem filterMap_underAll {ns : List Node}
    (each : ∀ n ∈ ns, ∀ parent, (n.under parent).filterMap leaf? = n.leaves parent) (parent : String) :
    (underAll parent ns).filterMap leaf? = leavesAll parent ns := by
  rw [underAll_eq, leavesAll_eq, List.filterMap_flatMap]
  exact List.flatMap_congr fun n m => each n m parent

theorem filterMap_under (n : Node) (parent : String) :
    (n.under parent).filterMap leaf? = n.leaves parent := by
  induction n using Node.induction generalizing parent with
  | text s =>
    rw [under, leaves]
    by_cases blank : Text.isBlank s
    · simp [leaf?, blank]
    · simp [leaf?, blank]
  | element t cs ih =>
    rw [under, leaves, List.filterMap_cons, leaf?, filterMap_underAll ih]
    cases cs with
    | nil => rfl
    | cons c cs => rfl

end Node

namespace Element

/-- What all nodes below the element give, in document order. -/
def leafPairs (e : Element) : List (String × String) :=
  (Node.underAll e.tag.name e.children).filterMap Node.leaf?

theorem leaves_eq (e : Element) : e.leaves = e.leafPairs :=
  (Node.filterMap_underAll (fun n _ => n.filterMap_under) e.tag.name).symm

/-- All three tables agree with the pairs of the leaves. With all values, and with the last one, the
names have the order in which they first come; in upper case, so have their upper-case forms, each
with the last value of all names that have this form. -/
theorem tables_of_leafPairs (e : Element) :
    e.groups.entries = (e.leafPairs.map Prod.fst).eraseDups.map (fun name =>
        (name, Table.valuesOf e.leafPairs name)) ∧
      e.table.entries.map (fun p => (p.1, some p.2)) =
        (e.leafPairs.map Prod.fst).eraseDups.map (fun name =>
          (name, (Table.valuesOf e.leafPairs name).getLast?)) ∧
      e.upperTable.entries.map (fun p => (p.1, some p.2)) =
        (e.leafPairs.map fun p => Text.upper p.1).eraseDups.map fun key =>
          (key, ((e.leafPairs.filter fun p => Text.upper p.1 == key).map Prod.snd).getLast?) := by
  rw [← leaves_eq]
  refine ⟨Table.entries_groups e.leaves, Table.entries_ofList e.leaves, ?_⟩
  rw [upperTable, Table.entries_ofList, List.map_map]
  refine List.map_congr_left fun key _ => ?_
  rw [Table.valuesOf, List.filter_map, List.map_map]
  rfl

end Element

end XRoad.Xml
