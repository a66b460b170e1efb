import XRoad.Table
import XRoad.Text.Blank
import XRoad.Text.Case
import XRoad.Xml.Query

/-!
# Leaf values

A tree as a table of its leaves: an element without children gives its name with an empty value,
and a text that is not blank gives the name of its parent with the trimmed text.
-/

namespace XRoad.Xml

namespace Node

mutual

/-- The leaves of a node under an element of this name, in document order. -/
def leaves (parent : String) : Node → List (String × String)
  | .text s => if Text.isBlank s then [] else [(parent, Text.trim s)]
  | .element tag children =>
    if children.isEmpty then [(tag.name, "")] else leavesAll tag.name children

def leavesAll (parent : String) : List Node → List (String × String)
  | [] => []
  | n :: rest => leaves parent n ++ leavesAll parent rest

end

theorem leavesAll_eq (parent : String) (ns : List Node) :
    leavesAll parent ns = ns.flatMap (leaves parent) := by
  induction ns with
  | nil => rfl
  | cons n rest ih => rw [leavesAll, ih, List.flatMap_cons]

end Node

namespace Element

def leaves (e : Element) : List (String × String) :=
  Node.leavesAll e.tag.name e.children

def table (e : Element) : Table String :=
  Table.ofList e.leaves

def upperTable (e : Element) : Table String :=
  Table.ofList (e.leaves.map fun p => (Text.upper p.1, p.2))

def groups (e : Element) : Table (List String) :=
  Table.groups e.leaves

end Element

end XRoad.Xml
