import XRoad.Proofs.Xml.Reread

/-!
# From tree to document and back

A tree whose document says all of it is read back as it was but for its declarations. Main
statement: `Element.parse_toXml`.
-/

namespace XRoad.Xml

/-! ### Trees with the declarations that they are written with -/

namespace Node

mutual

def declared (scope : Scope) : Node → Node
  | .text s => .text s
  | .element tag children =>
    .element (tag.declared scope) (declaredAll (tag.writtenDeclarations scope :: scope) children)

def declaredAll (scope : Scope) : List Node → List Node
  | [] => []
  | n :: rest => declared scope n :: declaredAll scope rest

end

theorem declaredAll_eq (scope : Scope) (ns : List Node) :
    declaredAll scope ns = ns.map (declared scope) := by
  induction ns with
  | nil => rw [declaredAll, List.map_nil]
  | cons n ns ih => rw [declaredAll, ih, List.map_cons]

theorem isBlank_declared (scope : Scope) (n : Node) : (n.declared scope).isBlank = n.isBlank := by
  cases n with
  | text s => rw [declared]
  | element t cs =>
    rw [declared]
    rfl

theorem isElement_declared (scope : Scope) (n : Node) :
    (n.declared scope).isElement = n.isElement := by
  cases n with
  | text s => rw [declared]
  | element t cs =>
    rw [declared]
    rfl

end Node

namespace Element

/-- The tree with the declarations that its tags are written with. -/
def declared (scope : Scope) (e : Element) : Element where
  tag := e.tag.declared scope
  children := Node.declaredAll (e.tag.writtenDeclarations scope :: scope) e.children

theorem node_declared (scope : Scope) (e : Element) :
    (e.declared scope).node = e.node.declared scope := by
  rw [Element.node, Element.node, Node.declared]
  rfl

theorem declared_elements (scope : Scope) (t : Tag) (es : List Element) :
    declared scope { tag := t, children := es.map (·.node) } =
      { tag := t.declared scope
        children := (es.map (declared (t.writtenDeclarations scope :: scope))).map (·.node) } := by
  rw [declared, Node.declaredAll_eq, List.map_map, List.map_map]
  exact congrArg _ (List.map_congr_left fun e _ => (node_declared _ e).symm)

def bare (e : Element) : Element :=
  e.mapTags fun t => { t with declarations := [] }

end Element

theorem Node.bare_declared (scope : Scope) (n : Node) :
    (n.declared scope).mapTags (fun t => { t with declarations := [] }) =
      n.mapTags fun t => { t with declarations := [] } := by
  induction n using Node.induction generalizing scope with
  | text s => rw [declared]
  | element t cs ih =>
    rw [declared, mapTags, mapTags, mapTagsAll_eq, mapTagsAll_eq, declaredAll_eq, List.map_map]
    exact congrArg _ (List.map_congr_left fun n m => ih n m _)

theorem Element.bare_declared (scope : Scope) (e : Element) : (e.declared scope).bare = e.bare := by
  obtain ⟨t, cs⟩ := e
  have same := Node.bare_declared scope (.element t cs)
  rw [Node.declared, Node.mapTags, Node.mapTags] at same
  obtain ⟨tags, children⟩ := Node.element.inj same
  rw [bare, bare, mapTags, mapTags, declared]
  exact congrArg₂ Element.mk tags children

/-! ### Compact content is kept -/

theorem appendText_of_separate {ns : List Node} (s : String)
    (separate : ∀ n ∈ ns.getLast?, n.isElement) : appendText s ns = ns ++ [.text s] := by
  fun_induction appendText s ns with
  | case1 => rfl
  | case2 t => exact absurd (separate (.text t) rfl) Bool.false_ne_true
  | case3 n rest notText ih =>
    rw [ih, List.cons_append]
    intro m last
    refine separate m ?_
    cases rest with
    | nil => cases last
    | cons n' rest => rwa [List.getLast?_cons_cons]

namespace Node

/-- An element without layout in it is read as it was written. -/
def IsKept (n : Node) : Prop :=
  n.isElement → ∀ scope before, n.reread scope before = before ++ [n.declared scope]

theorem rereadAll_kept {ns : List Node} (all : ∀ n ∈ ns, n.IsKept)
    (visible : ∀ n ∈ ns, n ≠ .text "") (scope : Scope) (before : List Node)
    (separate : (before ++ ns).IsChain fun m n => m.isElement ∨ n.isElement) :
    rereadAll scope before ns = before ++ declaredAll scope ns := by
  induction ns generalizing before with
  | nil => rw [rereadAll, declaredAll, List.append_nil]
  | cons n ns ih =>
    have here : n.reread scope before = before ++ [n.declared scope] := by
      cases n with
      | element t cs => exact all _ List.mem_cons_self rfl scope before
      | text s =>
        rw [reread, if_neg fun h => visible _ List.mem_cons_self (congrArg _ h), declared]
        refine appendText_of_separate s fun m last => ?_
        obtain ⟨init, rfl⟩ := List.getLast?_eq_some_iff.1 last
        rw [List.append_assoc] at separate
        have pair := (List.isChain_append.1 separate).2.1
        exact pair.rel.resolve_right Bool.false_ne_true
    have later : ((before ++ [n.declared scope]) ++ ns).IsChain fun m n => m.isElement ∨ n.isElement := by
      rw [← List.isChain_map (R := fun a b => a = true ∨ b = true) isElement] at separate ⊢
      rw [List.append_assoc, List.map_append, List.map_append] at *
      rwa [List.map_singleton, isElement_declared]
    rw [rereadAll, declaredAll, here, ih (fun m h => all m (List.mem_cons_of_mem _ h))
      (fun m h => visible m (List.mem_cons_of_mem _ h)) _ later, List.append_assoc]
    rfl

theorem isKept {n : Node} (compact : ∀ e ∈ n.elements, e.IsCompact) : n.IsKept := by
  induction n using Node.induction with
  | text s =>
    intro element
    cases element
  | element t cs ih =>
    intro _ scope before
    have here : Element.IsCompact { tag := t, children := cs } :=
      compact _ (by rw [elements]; exact List.mem_cons_self)
    have all : ∀ n ∈ cs, n.IsKept := by
      intro n m
      refine ih n m fun e me => compact e ?_
      rw [elements, elementsAll_eq]
      exact List.mem_cons_of_mem _ (List.mem_flatMap.2 ⟨n, m, me⟩)
    rw [reread, declared]
    show before ++ [(Element.dropLayout ⟨_, _⟩).node] = _
    rw [rereadAll_kept all here.visible _ [] here.separate, List.nil_append,
      Element.dropLayout_of_content]
    · rfl
    · intro has n m
      rw [declaredAll_eq] at m
      obtain ⟨n', m', rfl⟩ := List.mem_map.1 m
      rw [isBlank_declared]
      refine here.content ?_ n' m'
      rw [Element.hasChildElements, declaredAll_eq, List.any_map] at has
      rw [Element.hasChildElements, ← has]
      exact congrArg (List.any cs) (funext fun n => (isElement_declared _ n).symm)

end Node

theorem Element.reread_of_compact {e : Element} (compact : ∀ x ∈ e.node.elements, x.IsCompact)
    (scope : Scope) : e.reread scope = e.declared scope := by
  have kept := Node.isKept compact rfl scope []
  rw [Node.reread_element, ← node_declared] at kept
  have same : (e.reread scope).node = (e.declared scope).node := by simpa using kept
  obtain ⟨tags, children⟩ := Node.element.inj same
  exact congrArg₂ Element.mk tags children

/-! ### What is declared -/

/-- The second tag declares what the first one does and, besides, only what the first one uses. -/
structure Tag.Redeclared (t t' : Tag) : Prop where
  prefixes : t.declarations.map Prod.fst <+: t'.declarations.map Prod.fst
  origin : ∀ d ∈ t'.declarations, d ∈ t.declarations ∨ d ∈ t.uses
  kept : ∀ d ∈ t.declarations, (∀ use ∈ t.uses, use.1 = d.1 → use.2 = d.2) → d ∈ t'.declarations

theorem Tag.redeclared (scope : Scope) (t : Tag) : t.Redeclared (t.declared scope) := by
  have written := t.writtenDeclarations_eq scope
  constructor
  · rw [declared, written]
    exact Declarations.keys_bindAll scope t.uses t.declarations
  · intro d m
    rw [declared, written] at m
    exact (Declarations.mem_bindAll m).imp_right And.left
  · intro d m consistent
    rw [declared, written]
    exact Declarations.mem_bindAll_of_mem m consistent

theorem Node.redeclared (scope : Scope) (n : Node) :
    List.Forall₂ (fun x y => x.tag.Redeclared y.tag) n.elements (n.declared scope).elements := by
  induction n using Node.induction generalizing scope with
  | text s => exact .nil
  | element t cs ih =>
    rw [declared, elements, elements]
    refine .cons (t.redeclared scope) ?_
    generalize t.writtenDeclarations scope :: scope = inner
    rw [declaredAll_eq, elementsAll_eq, elementsAll_eq]
    induction cs with
    | nil => exact .nil
    | cons c cs ih' =>
      rw [List.map_cons, List.flatMap_cons, List.flatMap_cons]
      exact List.rel_append (ih c List.mem_cons_self inner)
        (ih' fun n m => ih n (List.mem_cons_of_mem _ m))

/-! ### The round trip -/

namespace Element

theorem bytes_toXml (e : Element) : Text.bytes e.toXml = e.toBytes := by
  rw [Text.bytes, toXml, String.toList_ofList, toBytes]

/-- A tree whose document says all of it is read back with the declarations that it was written
with, and otherwise as it was. -/
theorem parse_toXml (e : Element) (writable : e.IsWritable) :
    Element.parse (Text.bytes e.toXml) = .ok (e.declared []) ∧ (e.declared []).bare = e.bare ∧
      List.Forall₂ (fun x y => x.tag.Redeclared y.tag) e.node.elements
        (e.declared []).node.elements := by
  refine ⟨?_, bare_declared [] e, ?_⟩
  · rw [bytes_toXml, parse_toBytes writable.tags, reread_of_compact writable.compact]
  · rw [node_declared]
    exact Node.redeclared [] e.node

/-- Mixed content, two prefixes for one namespace and a prefix that changes its meaning. -/
theorem parse_toXml_mixed :
    let inner : Element :=
      { tag := { nsPrefix := some "a", nsUri := some "urn:v", name := "in"
                 declarations := [("a", "urn:u")] } }
    let e : Element :=
      { tag := { nsPrefix := some "a", nsUri := some "urn:u", name := "out"
                 attributes := [{ nsPrefix := some "b", nsUri := some "urn:u", name := "k"
                                  value := "<\"&\n" }] }
        children := [.text " ]]>&\r", inner.node] }
    e.IsWritable ∧ Element.parse (Text.bytes e.toXml) = .ok (e.declared []) ∧
      (e.declared []).bare = e.bare ∧
      List.Forall₂ (fun x y => x.tag.Redeclared y.tag) e.node.elements
        (e.declared []).node.elements := by
  intro inner e
  have writable : e.IsWritable := by decide
  exact ⟨writable, parse_toXml e writable⟩

end Element

end XRoad.Xml
