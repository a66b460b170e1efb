import XRoad.Proofs.Xml.Pinned

/-!
# Documents that are read twice

A tree that was read is the same when its document is read if, and only if, the document can say
all that it is: a text that a CDATA section left empty is not written, a prefix that is declared
twice is not read again, and odd names can make a tag look like another. Main statement:
`Element.parse_toXml_iff`.
-/

namespace XRoad.Xml

open Text (Raw)
open Token (raw list)

/-! ### What is seen as it was written can be made out -/

namespace Node

/-- Where the node is written and seen in an open element, in this scope, its tags are made out. -/
def IsSeen (scope : Scope) (n : Node) : Prop :=
  ∀ (root : Option Element) (e : Element) (outer : List Element) (opened : List Raw)
    (more : List Char) (r' : Reading),
    Reading.run { opened := e :: outer, scope, root }
        (list opened ((n.write scope ++ more).map some)) = .ok r' →
      Reading.events { opened := e :: outer, scope, root } ++ n.events <+: r'.events →
      n.IsLegible scope

theorem isLegible_of_seenAll {ns : List Node} {scope : Scope} (all : ∀ n ∈ ns, n.IsSeen scope)
    (keeps : ∀ n ∈ ns, n.KeepsDeclarations scope) {root : Option Element} {e : Element}
    {outer : List Element} {opened : List Raw} {more : List Char} {r' : Reading}
    (ran : Reading.run { opened := e :: outer, scope, root }
      (list opened ((writeAll scope ns ++ more).map some)) = .ok r')
    (seen : Reading.events { opened := e :: outer, scope, root } ++ eventsAll ns <+: r'.events) :
    ∀ n ∈ ns, n.IsLegible scope := by
  induction ns generalizing e with
  | nil => exact nofun
  | cons n ns ih =>
    rw [writeAll, List.append_assoc] at ran
    rw [eventsAll, ← List.append_assoc] at seen
    have first := all n List.mem_cons_self root e outer opened _ r' ran
      ((List.prefix_append _ _).trans seen)
    rw [first.isReread root e outer opened] at ran
    refine List.forall_mem_cons.2 ⟨first, ih (fun m h => all m (List.mem_cons_of_mem _ h))
      (fun m h => keeps m (List.mem_cons_of_mem _ h)) ran ?_⟩
    have shown := eventsAll_reread (keeps n List.mem_cons_self) e.children
    rw [Reading.events_cons _ _ _ scope, Element.events] at seen ⊢
    rw [shown]
    simpa using seen

theorem isLegible_of_invisible {ns : List Node} (invisible : ¬ ns.any isVisible) (scope : Scope) :
    ∀ n ∈ ns, n.IsLegible scope := by
  intro n m
  cases n with
  | text s => exact .text
  | element t cs => exact absurd (List.any_eq_true.2 ⟨_, m, rfl⟩) invisible

/-- An element that is written and then seen is made out, whether or not an element is open. -/
theorem isLegible_of_seen {t : Tag} {cs : List Node} {r r' : Reading}
    (read : (Node.element t cs).Everywhere (fun scope x => x.IsRead scope) r.scope)
    (all : ∀ n ∈ cs, n.IsSeen (t.declarations :: r.scope)) {opened : List Raw} {more : List Char}
    (ran : r.run (list opened (((Node.element t cs).write r.scope ++ more).map some)) = .ok r')
    (seen : r.events ++ (Node.element t cs).events <+: r'.events) :
    (Node.element t cs).IsLegible r.scope := by
  obtain ⟨here, below⟩ := everywhere_element.1 read
  have isRead := here.tag
  have kept := isRead.kept
  have keeps : ∀ n ∈ cs, n.KeepsDeclarations (t.declarations :: r.scope) :=
    fun n m p mp => (below n m p mp).tag.kept
  simp only at isRead kept
  rw [events, List.cons_append, List.append_cons, ← List.append_assoc] at seen
  have children : r.events ++ [some t] ++ eventsAll cs <+: r'.events :=
    (List.prefix_append _ _).trans seen
  have first : r.events ++ [some t] <+: r'.events := (List.prefix_append _ _).trans children
  rw [write] at ran
  simp only [Tag.write_eq, kept] at ran
  rw [← Tag.content] at ran
  by_cases visible : cs.any isVisible
  · rw [if_pos visible] at ran
    let inner : Reading :=
      { opened := { tag := t } :: r.opened, scope := t.declarations :: r.scope, root := r.root }
    let behind : List Char := writeAll inner.scope cs ++ '<' :: '/' :: (t.written.toList ++ '>' :: more)
    have input : '<' :: t.content ++ ('>' :: writeAll (t.declarations :: r.scope) cs ++ "</".toList ++
        t.written.toList ++ ['>']) ++ more = '<' :: (t.content ++ '>' :: behind) := by
      simp [behind, inner]
    rw [input] at ran
    obtain ⟨tag, quotes, noSlash⟩ := Reading.pinned_startTag isRead ran first
    have start := run_startTag isRead.isName (passes_of_closesQuotes quotes) noSlash tag opened behind
    replace ran := start.symm.trans ran
    have seenInside : inner.events ++ eventsAll cs <+: r'.events := by
      rwa [Reading.events_cons _ _ _ r.scope]
    have legible := isLegible_of_seenAll all keeps ran seenInside
    rw [run_writeAll fun n m => (legible n m).isReread] at ran
    have ending := Reading.closesQuotes_of_endTag ran
    refine .element (Element.isLegible_of_isRead isRead tag quotes (fun _ => ⟨ending, noSlash⟩)
      fun hidden => absurd visible hidden) ?_
    rwa [kept]
  · rw [if_neg visible] at ran
    have input : '<' :: t.content ++ "/>".toList ++ more = '<' :: (t.content ++ '/' :: '>' :: more) := by
      simp
    rw [input] at ran
    obtain ⟨tag, quotes, nonempty⟩ := Reading.pinned_emptyTag isRead ran first
    exact .element (Element.isLegible_of_isRead isRead tag quotes (fun shown => absurd shown visible)
      fun _ => nonempty) (isLegible_of_invisible visible _)

theorem isSeen {n : Node} {scope : Scope}
    (read : n.Everywhere (fun scope x => x.IsRead scope) scope) : n.IsSeen scope := by
  induction n using Node.induction generalizing scope with
  | text s => exact fun _ _ _ _ _ _ _ _ => .text
  | element t cs ih =>
    intro root e outer opened more r' ran seen
    exact isLegible_of_seen (r := { opened := e :: outer, scope, root }) read
      (fun n m => ih n m ((everywhere_element.1 read).2 n m)) ran seen

/-! ### What was made out can be expressed -/

theorem IsLegible.everywhere {n : Node} {scope : Scope} (legible : n.IsLegible scope)
    (keeps : n.KeepsDeclarations scope) :
    n.Everywhere (fun scope x => x.IsLegible scope) scope := by
  induction legible with
  | text => exact everywhere_text _
  | @element scope t cs tag _ ih =>
    obtain ⟨here, below⟩ := everywhere_element.1 keeps
    simp only at here
    rw [here] at ih
    exact everywhere_element.2 ⟨tag, fun n m => ih n m (below n m)⟩

/-- No node, and no node below, is an empty text. -/
def AllVisible (ns : List Node) : Prop :=
  .text "" ∉ ns ∧ ∀ n ∈ ns, ∀ x ∈ n.elements, .text "" ∉ x.children

theorem allVisible_nil : AllVisible [] :=
  ⟨nofun, nofun⟩

theorem AllVisible.appendText {s : String} {ns : List Node} (visible : AllVisible ns)
    (nonempty : s ≠ "") : AllVisible (appendText s ns) := by
  refine ⟨fun m => ?_, fun n m x mx => ?_⟩
  · have before := visible.1
    fun_induction XRoad.Xml.appendText s ns with
    | case1 => exact nonempty (Node.text.inj (List.mem_singleton.1 m)).symm
    | case2 t =>
      have empty := congrArg String.toList (Node.text.inj (List.mem_singleton.1 m))
      rw [String.toList_append] at empty
      have last : s.toList = [] := (List.append_eq_nil_iff.1 empty.symm).2
      exact nonempty (String.toList_eq_nil_iff.1 last)
    | case3 n rest _ ih =>
      rw [List.mem_cons, not_or] at before
      refine ih ⟨before.2, fun n m => visible.2 n (List.mem_cons_of_mem _ m)⟩ ?_ before.2
      exact (List.mem_cons.1 m).resolve_left before.1
  · rcases mem_appendText m with m | ⟨t, rfl⟩
    · exact visible.2 n m x mx
    · rw [elements] at mx
      cases mx

theorem AllVisible.push {e : Element} {ns : List Node} (visible : AllVisible ns)
    (content : AllVisible e.children) : AllVisible (ns ++ [e.dropLayout.node]) := by
  refine ⟨fun m => ?_, fun n m x mx => ?_⟩
  · rcases List.mem_append.1 m with m | m
    · exact visible.1 m
    · cases List.mem_singleton.1 m
  · rcases List.mem_append.1 m with m | m
    · exact visible.2 n m x mx
    · rw [List.mem_singleton.1 m, elements_node, Element.descendants, elementsAll_eq] at mx
      rcases List.mem_cons.1 mx with rfl | below
      · exact fun empty => content.1 (Element.mem_of_mem_dropLayout empty)
      · obtain ⟨n, mn, mx⟩ := List.mem_flatMap.1 below
        exact content.2 n (Element.mem_of_mem_dropLayout mn) x mx

theorem allVisible_rereadAll {ns : List Node} {scope : Scope}
    (all : ∀ n ∈ ns, ∀ before, AllVisible before → AllVisible (n.reread scope before))
    {before : List Node} (visible : AllVisible before) :
    AllVisible (rereadAll scope before ns) := by
  induction ns generalizing before with
  | nil => rwa [rereadAll]
  | cons n ns ih =>
    rw [rereadAll]
    exact ih (fun m h => all m (List.mem_cons_of_mem _ h)) (all n List.mem_cons_self before visible)

theorem allVisible_reread (n : Node) (scope : Scope) {before : List Node}
    (visible : AllVisible before) : AllVisible (n.reread scope before) := by
  induction n using Node.induction generalizing scope before with
  | text s =>
    rw [reread]
    split
    · exact visible
    · next nonempty => exact visible.appendText nonempty
  | element t cs ih =>
    rw [reread]
    exact visible.push (allVisible_rereadAll (fun n m before => ih n m _) allVisible_nil)

end Node

namespace Element

theorem expressible_of_legible {e : Element} {scope : Scope} (isRead : e.tag.IsRead scope)
    (legible : e.IsLegible scope) (visible : .text "" ∉ e.children) : e.IsExpressible := by
  obtain ⟨-, closed, read, ending, noSlash, nonempty⟩ := legible
  rw [isRead.kept] at closed read noSlash nonempty
  have shown := any_isVisible visible
  refine ⟨visible, ?_, closed.closesQuotes, fun inside => (ending (shown.2 inside)).closesQuotes,
    fun inside => noSlash (shown.2 inside), fun empty => nonempty ?_⟩
  · obtain ⟨pairs, listed, -⟩ := bind_ok read
    have keys := (Attributes.nodup_of_list_writePairs isRead.keys listed).1
    rw [Tag.pairs, List.map_append, List.nodup_append, List.map_map] at keys
    have written : e.tag.declarations.map
        (Prod.fst ∘ fun d => (if d.1 = "" then "xmlns" else "xmlns:" ++ d.1, d.2)) =
        (e.tag.declarations.map Prod.fst).map fun p => if p = "" then "xmlns" else "xmlns:" ++ p := by
      rw [List.map_map]
      rfl
    rw [written] at keys
    exact List.Nodup.of_map _ keys.1
  · rw [empty]
    decide

theorem expressible_of_parse_toBytes {bytes : List UInt8} {e : Element}
    (read : Element.parse bytes = .ok e) (again : Element.parse e.toBytes = .ok e) :
    ∀ x ∈ e.node.elements, x.IsExpressible := by
  have isRead := everywhere_isRead read
  have keeps : e.node.KeepsDeclarations [] := fun p m => (isRead p m).tag.kept
  have legible : e.node.IsLegible [] := by
    rw [Element.parse, ofTokens, ofBytes_toBytes, ← List.append_nil (e.node.write [])] at again
    obtain ⟨r, ran, finished⟩ := bind_ok again
    have seen : ({} : Reading).events ++ e.node.events <+: r.events := by
      rw [Reading.events_of_finish finished]
      exact List.prefix_refl _
    exact Node.isLegible_of_seen isRead
      (fun n m => Node.isSeen ((Node.everywhere_element.1 isRead).2 n m)) ran seen
  have same : e.reread [] = e := Except.ok.inj ((parse_of_legible legible).symm.trans again)
  have visible : Node.AllVisible [e.node] := by
    have := Node.allVisible_reread e.node [] Node.allVisible_nil
    rwa [Node.reread_element, same] at this
  intro x m
  have shown : .text "" ∉ x.children := visible.2 e.node (List.mem_singleton.2 rfl) x m
  rw [Node.elements_eq_placed []] at m
  obtain ⟨p, mp, rfl⟩ := List.mem_map.1 m
  exact expressible_of_legible (isRead p mp).tag (legible.everywhere keeps p mp) shown

/-- A tree that was read is the same when its document is read exactly if the document can say all
that the tree holds. -/
theorem parse_toXml_iff {bytes : List UInt8} {e : Element} (read : Element.parse bytes = .ok e) :
    Element.parse (Text.bytes e.toXml) = .ok e ↔ ∀ x ∈ e.node.elements, x.IsExpressible := by
  rw [bytes_toXml]
  exact ⟨expressible_of_parse_toBytes read, parse_toBytes_of_expressible read⟩

/-- Names that only a tolerant reader lets pass, between a comment and CDATA. -/
theorem parse_toXml_iff_tolerated :
    let bytes := Text.bytes "<a=b k='&lt;\"'><!-- --><![CDATA[<]]>&#65;<c/ d=\"\"> </c/></a=b>"
    ∃ e, Element.parse bytes = .ok e ∧
      (Element.parse (Text.bytes e.toXml) = .ok e ↔ ∀ x ∈ e.node.elements, x.IsExpressible) ∧
      ∀ x ∈ e.node.elements, x.IsExpressible := by
  intro bytes
  have expressible : (Element.parse bytes).map (fun e =>
      decide (∀ x ∈ e.node.elements, x.IsExpressible)) = .ok true := by
    decide +kernel
  cases read : Element.parse bytes with
  | error reason =>
    rw [read] at expressible
    cases expressible
  | ok e =>
    rw [read] at expressible
    exact ⟨e, rfl, parse_toXml_iff read, of_decide_eq_true (Except.ok.inj expressible)⟩

/-- A CDATA section without content leaves a text that is not written. -/
theorem parse_toXml_emptied :
    let e : Element := { tag := .named "a", children := [.text ""] }
    Element.parse (Text.bytes "<a><![CDATA[]]></a>") = .ok e ∧
      Element.parse (Text.bytes e.toXml) ≠ .ok e := by
  intro e
  have again : Element.parse (Text.bytes e.toXml) = .ok { e with children := [] } := by
    decide +kernel
  refine ⟨by decide +kernel, ?_⟩
  rw [again]
  decide

end Element

end XRoad.Xml
