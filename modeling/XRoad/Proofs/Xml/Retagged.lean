import XRoad.Proofs.Xml.Binding
import XRoad.Proofs.Xml.Namespace
import XRoad.Xml.Leaves

/-!
# Trees that differ in their tags

A tree whose tags are changed keeps its texts and its order, and so the values of its leaves as long
as the local names stay. `Node.Retagged` says of two trees that they differ in their tags alone.
-/

namespace XRoad.Xml

/-- The same node but for its tags, which are related one by one. -/
inductive Node.Retagged (R : Tag → Tag → Prop) : Node → Node → Prop
  | text (s : String) : Retagged R (.text s) (.text s)
  | element {t t' : Tag} {cs cs' : List Node} :
    R t t' → List.Forall₂ (Retagged R) cs cs' → Retagged R (.element t cs) (.element t' cs')

def Element.Retagged (R : Tag → Tag → Prop) (e e' : Element) : Prop :=
  e.node.Retagged R e'.node

/-! ### Tags in a namespace -/

namespace Tag

def IsIn (b : Binding) (t : Tag) : Prop :=
  t.nsPrefix = (if b.nsPrefix = "" then none else some b.nsPrefix) ∧ t.nsUri = some b.nsUri

/-- The second tag is the first one in the namespace. -/
def MovesTo (b : Binding) (t t' : Tag) : Prop :=
  t'.IsIn b ∧ t'.name = t.name ∧ t'.declarations = t.declarations ∧ t'.attributes = t.attributes

/-- The second tag is the first one, in the namespace if that had none. -/
def SettlesIn (b : Binding) (t t' : Tag) : Prop :=
  if t.nsUri = none ∨ t.nsUri = some "" then t.MovesTo b t' else t' = t

variable (b : Binding) (t : Tag)

theorem movesTo_qualify : t.MovesTo b (t.qualify b.nsUri b.nsPrefix) := by
  refine ⟨⟨?_, rfl⟩, rfl, rfl, rfl⟩
  exact nonEmpty?_some b.nsPrefix

theorem uri_eq_empty_iff : t.uri = "" ↔ t.nsUri = none ∨ t.nsUri = some "" := by
  rw [QName.uri]
  cases t.nsUri <;> simp

theorem settlesIn_fill : t.SettlesIn b (t.fill b.nsUri (some b.nsPrefix)) := by
  rw [SettlesIn, fill]
  simp only [uri_eq_empty_iff]
  split
  · exact t.movesTo_qualify b
  · rfl

end Tag

/-! ### Trees whose tags are changed -/

section
variable {R : Tag → Tag → Prop} {f : Tag → Tag}

theorem Node.retagged_mapTags (related : ∀ t, R t (f t)) (n : Node) :
    n.Retagged R (n.mapTags f) := by
  induction n using Node.induction with
  | text s =>
    rw [mapTags]
    exact .text s
  | element t cs ih =>
    rw [mapTags, mapTagsAll_eq]
    refine .element (related t) ?_
    rw [List.forall₂_map_right_iff]
    exact List.forall₂_same.2 ih

theorem Element.retagged_mapTags (related : ∀ t, R t (f t)) (e : Element) :
    e.Retagged R (e.mapTags f) := by
  rw [Retagged, node_mapTags]
  exact e.node.retagged_mapTags related

theorem Binding.retagged_qualify (b : Binding) (e : Element) :
    e.Retagged (Tag.MovesTo b) (b.qualify e) :=
  e.retagged_mapTags (Tag.movesTo_qualify b)

theorem Binding.retagged_fill {b : Binding} (usable : b.nsUri ≠ "") (e : Element) :
    e.Retagged (Tag.SettlesIn b) (b.fill e) := by
  rw [fill, Element.fillNamespace, if_neg usable]
  exact e.retagged_mapTags (Tag.settlesIn_fill b)

end

/-! ### What is kept -/

theorem Node.content_mapTags (f : Tag → Tag) (n : Node) : (n.mapTags f).content = n.content := by
  induction n using Node.induction with
  | text s => rw [mapTags]
  | element t cs ih =>
    rw [mapTags, content, content]
    induction cs with
    | nil => rfl
    | cons c cs ihs =>
      rw [mapTagsAll, contentAll, contentAll, ih c List.mem_cons_self,
        ihs fun d m => ih d (List.mem_cons_of_mem _ m)]

section
variable {f : Tag → Tag} (names : ∀ t, (f t).name = t.name)
include names

theorem Node.leaves_mapTags (n : Node) (parent : String) :
    (n.mapTags f).leaves parent = n.leaves parent := by
  induction n using Node.induction generalizing parent with
  | text s => rw [mapTags]
  | element t cs ih =>
    have below (name : String) : leavesAll name (mapTagsAll f cs) = leavesAll name cs := by
      rw [leavesAll_eq, leavesAll_eq, mapTagsAll_eq, List.flatMap_map]
      exact List.flatMap_congr fun c m => ih c m name
    rw [mapTags, leaves, leaves, below, names, mapTagsAll_eq, List.isEmpty_map]

theorem Element.leaves_mapTags (e : Element) : (e.mapTags f).leaves = e.leaves := by
  rw [leaves, leaves, mapTags, Node.leavesAll_eq, Node.leavesAll_eq, Node.mapTagsAll_eq,
    List.flatMap_map, names]
  exact List.flatMap_congr fun c _ => c.leaves_mapTags names e.tag.name

theorem Element.table_mapTags (e : Element) : (e.mapTags f).table = e.table := by
  rw [table, table, e.leaves_mapTags names]

end

namespace Element

variable (f : Tag → Tag) (e : Element)

theorem textContent_mapTags : (e.mapTags f).textContent = e.textContent := by
  have same := e.node.content_mapTags f
  rwa [← node_mapTags, node, node, Node.content, Node.content] at same

theorem descendants_mapTags : (e.mapTags f).descendants = e.descendants.map (mapTags f) := by
  rw [descendants, descendants, mapTags, Node.mapTagsAll_eq, Node.elementsAll_eq,
    Node.elementsAll_eq, List.flatMap_map, List.map_flatMap]
  exact List.flatMap_congr fun c _ => c.elements_mapTags f

end Element

end XRoad.Xml
