import XRoad.Proofs.Xml.ReadTag

/-!
# Content that was read

In an element that was read no two texts stand side by side and no layout stands between elements.
Its document says all of it but for a few things that only a tolerant reader lets pass; without
these it is read again as it is. Main statements: `Element.everywhere_isRead` and
`Element.parse_toBytes_of_expressible`.
-/

namespace XRoad.Xml

open Text (Raw)
open Token (raw)

namespace Element

/-- No two texts stand side by side, and no blank one with elements. -/
structure IsSettled (e : Element) : Prop where
  separate : e.children.IsChain fun m n => m.isElement ∨ n.isElement
  content : e.hasChildElements → ∀ n ∈ e.children, !n.isBlank

/-- An element as it is read inside these open elements. -/
structure IsRead (scope : Scope) (e : Element) : Prop where
  tag : e.tag.IsRead scope
  settled : e.IsSettled

end Element

/-! ### Settled content -/

section
variable {ns : List Node}

theorem isChain_appendText (separate : ns.IsChain fun m n => m.isElement ∨ n.isElement) (s : String) :
    (appendText s ns).IsChain fun m n => m.isElement ∨ n.isElement := by
  fun_induction appendText s ns with
  | case1 => exact .singleton _
  | case2 => exact .singleton _
  | case3 n rest notText ih =>
    rw [List.isChain_cons] at separate ⊢
    refine ⟨fun m first => ?_, ih separate.2⟩
    cases rest with
    | nil =>
      cases n with
      | text t => exact absurd rfl (notText t rfl)
      | element => exact .inl rfl
    | cons n' rest =>
      refine (separate.1 n' rfl).imp_right fun isElement => ?_
      have same : m = n' := by
        cases n' with
        | text => cases isElement
        | element =>
          rw [appendText] at first
          · exact (Option.some.inj first).symm
          · intro t isText
            cases isText
      rwa [same]

/-- Only texts are dropped, and between any two of them an element stays. -/
theorem isChain_filter {p : Node → Bool} (keeps : ∀ n, n.isElement → p n)
    (separate : ns.IsChain fun m n => m.isElement ∨ n.isElement) :
    (ns.filter p).IsChain fun m n => m.isElement ∨ n.isElement := by
  induction ns with
  | nil => exact .nil
  | cons n ns ih =>
    rw [List.isChain_cons] at separate
    have rest := ih separate.2
    rw [List.filter_cons]
    split
    · refine List.isChain_cons.2 ⟨fun m first => ?_, rest⟩
      cases ns with
      | nil => cases first
      | cons n' ns =>
        refine (separate.1 n' rfl).imp_right fun isElement => ?_
        rw [List.filter_cons, if_pos (keeps n' isElement)] at first
        rwa [← Option.some.inj first]
    · exact rest

end

namespace Element

theorem isSettled_dropLayout {e : Element}
    (separate : e.children.IsChain fun m n => m.isElement ∨ n.isElement) : e.dropLayout.IsSettled := by
  rw [dropLayout_eq]
  split
  · exact ⟨isChain_filter (fun _ => Node.not_isBlank_of_isElement) separate,
      fun _ n m => (List.mem_filter.1 m).2⟩
  · next none_inside => exact ⟨separate, fun has => absurd has none_inside⟩

theorem everywhere_isRead {bytes : List UInt8} {e : Element} (read : Element.parse bytes = .ok e) :
    e.node.Everywhere (fun scope x => x.IsRead scope) [] := by
  refine everywhere_of_ofTokens (Q := fun scope x => x.tag.IsRead scope ∧
    x.children.IsChain fun m n => m.isElement ∨ n.isElement) ⟨?_, ?_, ?_, ?_⟩ read
  · intro scope name attributes t tag present
    refine ⟨?_, .nil⟩
    rcases present with m | m
    · exact Scope.isRead_of_tag (Token.hasTagName_of_mem_ofBytes _ m).1
        (Token.hasTagName_of_mem_ofBytes _ m).2 tag
    · exact Scope.isRead_of_tag (Token.hasTagName_of_mem_ofBytes _ m).1
        (Token.hasTagName_of_mem_ofBytes _ m).2 tag
  · exact fun s open_ => ⟨open_.1, isChain_appendText open_.2 s⟩
  · refine fun c open_ => ⟨open_.1, List.isChain_append.2 ⟨open_.2, .singleton _, ?_⟩⟩
    exact fun m _ n last => .inr (Option.some.inj last ▸ rfl)
  · exact fun open_ => ⟨by rw [dropLayout_tag]; exact open_.1, isSettled_dropLayout open_.2⟩

end Element

/-! ### What a document can say -/

/-- What stands between the brackets of a tag that is written with its own declarations. -/
def Tag.content (t : Tag) : List Char :=
  t.written.toList ++ writePairs (t.pairs t.declarations)

namespace Element

/-- The document of the element says what it is: it holds no text that leaves no trace, it declares
no prefix twice, quotes in its names are closed, and no name without anything behind it makes its
tag look like another. -/
structure IsExpressible (e : Element) : Prop where
  visible : .text "" ∉ e.children
  declarations_nodup : (e.tag.declarations.map Prod.fst).Nodup
  quotes : closesQuotes none e.tag.content
  ending : e.children ≠ [] → closesQuotes none e.tag.written.toList
  noSlash : e.children ≠ [] → e.tag.pairs e.tag.declarations = [] →
    e.tag.written.toList.getLast? ≠ some '/'
  nonempty : e.children = [] → e.tag.pairs e.tag.declarations = [] → e.tag.written ≠ ""

instance (e : Element) : Decidable e.IsExpressible :=
  decidable_of_iff (.text "" ∉ e.children ∧ (e.tag.declarations.map Prod.fst).Nodup ∧
      closesQuotes none e.tag.content ∧ (e.children ≠ [] → closesQuotes none e.tag.written.toList) ∧
      (e.children ≠ [] → e.tag.pairs e.tag.declarations = [] →
        e.tag.written.toList.getLast? ≠ some '/') ∧
      (e.children = [] → e.tag.pairs e.tag.declarations = [] → e.tag.written ≠ ""))
    ⟨fun ⟨a, b, c, d, e, f⟩ => ⟨a, b, c, d, e, f⟩, fun ⟨a, b, c, d, e, f⟩ => ⟨a, b, c, d, e, f⟩⟩

variable {e : Element} {scope : Scope}

theorem any_isVisible (visible : .text "" ∉ e.children) :
    e.children.any Node.isVisible ↔ e.children ≠ [] := by
  refine ⟨fun some_inside none_inside => by simp [none_inside] at some_inside, fun some_inside => ?_⟩
  obtain ⟨n, rest, children⟩ := List.exists_cons_of_ne_nil some_inside
  rw [children, List.any_cons, Bool.or_eq_true]
  refine .inl ?_
  cases n with
  | text s =>
    refine bne_iff_ne.2 fun empty => visible ?_
    rw [children, empty]
    exact List.mem_cons_self
  | element => rfl

theorem isLegible_of_isRead (isRead : e.tag.IsRead scope)
    (tag : scope.tag (raw e.tag.written) ((writePairs (e.tag.pairs e.tag.declarations)).map some) =
      .ok e.tag)
    (quotes : closesQuotes none e.tag.content)
    (shown : e.children.any Node.isVisible → closesQuotes none e.tag.written.toList ∧
      (e.tag.pairs e.tag.declarations = [] → e.tag.written.toList.getLast? ≠ some '/'))
    (hidden : ¬ e.children.any Node.isVisible → e.tag.pairs e.tag.declarations = [] →
      e.tag.written ≠ "") : e.IsLegible scope := by
  constructor
  · exact isRead.isName
  · rw [isRead.kept]
    exact passes_of_closesQuotes quotes
  · rwa [Tag.declared, isRead.kept]
  · exact fun visible => passes_of_closesQuotes (shown visible).1
  · rw [isRead.kept]
    exact fun visible => (shown visible).2
  · rwa [isRead.kept]

theorem isLegible_of_expressible (isRead : e.tag.IsRead scope) (expressible : e.IsExpressible) :
    e.IsLegible scope := by
  obtain ⟨visible, declared, quotes, ending, noSlash, nonempty⟩ := expressible
  have filled := any_isVisible visible
  refine isLegible_of_isRead isRead (isRead.tag_written declared) quotes (fun shown => ?_) fun hidden => ?_
  · exact ⟨ending (filled.1 shown), noSlash (filled.1 shown)⟩
  · exact nonempty (by_contra fun some_inside => hidden (filled.2 some_inside))

end Element

namespace Node

theorem isLegible_of_expressible {n : Node} {scope : Scope}
    (read : n.Everywhere (fun scope x => x.IsRead scope) scope)
    (expressible : ∀ x ∈ n.elements, x.IsExpressible) : n.IsLegible scope := by
  induction n using Node.induction generalizing scope with
  | text s => exact .text
  | element t cs ih =>
    obtain ⟨here, below⟩ := everywhere_element.1 read
    rw [elements, elementsAll_eq, List.forall_mem_cons] at expressible
    refine .element (Element.isLegible_of_expressible here.tag expressible.1) fun n m => ?_
    rw [here.tag.kept]
    exact ih n m (below n m) fun x mx => expressible.2 x (List.mem_flatMap.2 ⟨n, m, mx⟩)

theorem declared_of_keepsDeclarations {n : Node} {scope : Scope}
    (keeps : n.KeepsDeclarations scope) : n.declared scope = n := by
  induction n using Node.induction generalizing scope with
  | text s => rw [declared]
  | element t cs ih =>
    obtain ⟨here, below⟩ := everywhere_element.1 keeps
    simp only at here
    have content : cs.map (declared (t.declarations :: scope)) = cs :=
      List.map_congr_left (fun n m => ih n m (below n m)) |>.trans (List.map_id cs)
    rw [declared, Tag.declared, here, declaredAll_eq, content]

end Node

namespace Element

/-- A tree that was read and that its document can express is read again as it is. -/
theorem parse_toBytes_of_expressible {bytes : List UInt8} {e : Element}
    (read : Element.parse bytes = .ok e) (expressible : ∀ x ∈ e.node.elements, x.IsExpressible) :
    Element.parse e.toBytes = .ok e := by
  have isRead := everywhere_isRead read
  have compact : ∀ x ∈ e.node.elements, x.IsCompact := by
    intro x m
    rw [Node.elements_eq_placed []] at m
    obtain ⟨p, mp, rfl⟩ := List.mem_map.1 m
    obtain ⟨separate, content⟩ := (isRead p mp).settled
    refine ⟨fun n mn empty => ?_, separate, content⟩
    refine (expressible p.2 ?_).visible (empty ▸ mn)
    rw [Node.elements_eq_placed []]
    exact List.mem_map_of_mem mp
  have keeps : e.node.KeepsDeclarations [] := fun p m => (isRead p m).tag.kept
  have same : e.declared [] = e := by
    have node := Node.declared_of_keepsDeclarations keeps
    rw [← node_declared] at node
    obtain ⟨tags, children⟩ := Node.element.inj node
    exact congrArg₂ Element.mk tags children
  rw [parse_of_legible (Node.isLegible_of_expressible isRead expressible),
    reread_of_compact compact, same]

end Element

end XRoad.Xml
