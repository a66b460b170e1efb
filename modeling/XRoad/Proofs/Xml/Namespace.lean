import Mathlib.Data.List.Basic
import XRoad.Proofs.Xml.Reread
import XRoad.Xml.Binding

/-!
# Names are kept

A subtree that is moved between namespaces keeps the local names of its elements and their order;
one that is written and read keeps its tags but for what they declare.
-/

namespace XRoad.Xml

theorem Node.elements_mapTags (f : Tag → Tag) (n : Node) :
    (n.mapTags f).elements = n.elements.map (Element.mapTags f) := by
  induction n using Node.induction with
  | text s => rw [mapTags, elements, List.map_nil]
  | element t cs ih =>
    rw [mapTags, elements, elements, List.map_cons, mapTagsAll_eq, elementsAll_eq, elementsAll_eq,
      List.flatMap_map, List.map_flatMap, List.flatMap_congr ih, Element.mapTags, mapTagsAll_eq]

/-- The local names of the elements of some nodes in document order. -/
def Node.namesAll (ns : List Node) : List String :=
  (elementsAll ns).map (·.tag.name)

namespace Element

/-- The local names of the elements of a tree in document order. -/
def names (e : Element) : List String :=
  e.node.elements.map (·.tag.name)

theorem names_cons (e : Element) : e.names = e.tag.name :: Node.namesAll e.children := by
  rw [names, Node.elements_node, List.map_cons]
  rfl

theorem node_mapTags (f : Tag → Tag) (e : Element) : (e.mapTags f).node = e.node.mapTags f := by
  rw [node, node, Node.mapTags]
  rfl

theorem mapTags_child (f : Tag → Tag) (t : Tag) (e : Element) :
    mapTags f { tag := t, children := [e.node] } =
      { tag := f t, children := [(e.mapTags f).node] } := by
  rw [mapTags, Node.mapTagsAll, Node.mapTagsAll, node_mapTags]

theorem names_mapTags {f : Tag → Tag} (keeps : ∀ t, (f t).name = t.name) (e : Element) :
    (e.mapTags f).names = e.names := by
  rw [names, node_mapTags, Node.elements_mapTags, List.map_map]
  exact List.map_congr_left fun x _ => keeps x.tag

end Element

theorem Tag.name_fill (nsUri : String) (nsPrefix : Option String) (t : Tag) :
    (t.fill nsUri nsPrefix).name = t.name := by
  rw [fill]
  split <;> rfl

namespace Binding

variable (b : Binding) (e : Element)

theorem names_qualify : (b.qualify e).names = e.names :=
  Element.names_mapTags (f := Tag.qualify b.nsUri b.nsPrefix) (fun _ => rfl) e

theorem names_fill : (b.fill e).names = e.names := by
  rw [fill, Element.fillNamespace]
  split
  · rfl
  · exact Element.names_mapTags (Tag.name_fill b.nsUri (some b.nsPrefix)) e

/-- What is already in the namespace stays as it is, while its child is filled. -/
theorem fill_qualified (t : Tag) :
    b.fill { tag := t.qualify b.nsUri b.nsPrefix, children := [e.node] } =
      { tag := t.qualify b.nsUri b.nsPrefix, children := [(b.fill e).node] } := by
  rw [fill, fill, Element.fillNamespace, Element.fillNamespace]
  split
  · rfl
  · next nonempty =>
    have stays : Tag.fill b.nsUri (some b.nsPrefix) (t.qualify b.nsUri b.nsPrefix) =
        t.qualify b.nsUri b.nsPrefix := if_neg nonempty
    rw [Element.mapTags_child, stays]

end Binding

theorem Element.names_qualifyIn (binding : Option Binding) (e : Element) :
    (e.qualifyIn binding).names = e.names := by
  cases binding with
  | none => rfl
  | some b => exact b.names_qualify e

/-! ### Reading what was written -/

/-- The tag without what it declares. -/
def Tag.bare (t : Tag) : Tag :=
  { t with declarations := [] }

namespace Node

/-- The tags of the elements of some nodes in document order, without what they declare. -/
def tagsAll (ns : List Node) : List Tag :=
  (elementsAll ns).map (·.tag.bare)

theorem namesAll_elements (es : List Element) :
    namesAll (es.map (·.node)) = es.flatMap Element.names := by
  unfold namesAll
  rw [elementsAll_eq, List.flatMap_map, List.map_flatMap]
  rfl

end Node

/-- The tags of the elements of a tree in document order, without what they declare. -/
def Element.tags (e : Element) : List Tag :=
  e.node.elements.map (·.tag.bare)

namespace Element

theorem names_eq (e : Element) : e.names = e.tags.map (·.name) := by
  rw [names, tags, List.map_map]
  rfl

theorem tags_cons (e : Element) : e.tags = e.tag.bare :: Node.tagsAll e.children := by
  rw [tags, Node.elements_node, List.map_cons]
  rfl

end Element

namespace Node

theorem tagsAll_append (ms ns : List Node) : tagsAll (ms ++ ns) = tagsAll ms ++ tagsAll ns := by
  unfold tagsAll
  rw [elementsAll_eq, elementsAll_eq, elementsAll_eq, List.flatMap_append, List.map_append]

theorem tagsAll_node (e : Element) : tagsAll [e.node] = e.tags := by
  unfold tagsAll Element.tags
  rw [elementsAll, elementsAll, List.append_nil]

theorem elementsAll_appendText (s : String) (ns : List Node) :
    elementsAll (appendText s ns) = elementsAll ns := by
  fun_induction appendText s ns with
  | case1 => rfl
  | case2 t => rfl
  | case3 n rest _ ih => rw [elementsAll, elementsAll, ih]

theorem elementsAll_filter {p : Node → Bool} (keeps : ∀ n, n.isElement → p n) (ns : List Node) :
    elementsAll (ns.filter p) = elementsAll ns := by
  induction ns with
  | nil => rfl
  | cons n ns ih =>
    rw [List.filter_cons]
    cases n with
    | text s =>
      rw [elementsAll, elements, List.nil_append]
      split
      · rw [elementsAll, elements, ih, List.nil_append]
      · exact ih
    | element t cs => rw [if_pos (keeps _ rfl), elementsAll, elementsAll, ih]

theorem tagsAll_dropLayout (e : Element) : tagsAll e.dropLayout.children = tagsAll e.children := by
  rw [Element.dropLayout_eq]
  split
  · unfold tagsAll
    rw [elementsAll_filter fun _ => not_isBlank_of_isElement]
  · rfl

theorem tagsAll_reread (n : Node) (scope : Scope) (before : List Node) :
    tagsAll (n.reread scope before) = tagsAll before ++ tagsAll [n] := by
  induction n using Node.induction generalizing scope before with
  | text s =>
    have nothing : tagsAll [.text s] = [] := rfl
    rw [reread, nothing, List.append_nil]
    split
    · rfl
    · unfold tagsAll
      rw [elementsAll_appendText]
  | element t cs ih =>
    have children (inner : Scope) (seen : List Node) :
        tagsAll (rereadAll inner seen cs) = tagsAll seen ++ tagsAll cs := by
      induction cs generalizing seen with
      | nil => rw [rereadAll]; exact (List.append_nil _).symm
      | cons c cs ihs =>
        rw [rereadAll, ihs fun d m => ih d (List.mem_cons_of_mem _ m), ih c List.mem_cons_self,
          List.append_assoc, ← tagsAll_append]
        rfl
    let e : Element := { tag := t, children := cs }
    change tagsAll (e.node.reread scope before) = tagsAll before ++ tagsAll [e.node]
    rw [reread_element, tagsAll_append, tagsAll_node, tagsAll_node, Element.tags_cons,
      Element.tags_cons, Element.reread_tag, Element.reread, tagsAll_dropLayout, children]
    rfl

end Node

/-- A tree that is written and read keeps its tags but for what they declare. -/
theorem Element.tags_reread (scope : Scope) (e : Element) : (e.reread scope).tags = e.tags := by
  have same := Node.tagsAll_reread e.node scope []
  rwa [Node.reread_element, List.nil_append, Node.tagsAll_node, Node.tagsAll_node] at same

theorem Element.names_reread (scope : Scope) (e : Element) : (e.reread scope).names = e.names := by
  rw [names_eq, tags_reread, names_eq]

end XRoad.Xml
