import XRoad.Proofs.Xml.WrittenTag
import XRoad.Proofs.Xml.WrittenText

/-!
# Reading what was written

What reading makes of any written tree whose tags can be made out: tags gain the declarations that
they lacked, texts side by side run together, empty texts and layout go. Main statements:
`Element.parse_of_legible`, and `Element.parse_toBytes` for trees whose tags can be written.
-/

namespace XRoad.Xml

open Text (Raw)
open Token (raw list)

def Tag.declared (scope : Scope) (t : Tag) : Tag :=
  { t with declarations := t.writtenDeclarations scope }

namespace Node

mutual

/-- Some nodes after this one was written behind them and read. -/
def reread (scope : Scope) (before : List Node) : Node → List Node
  | .text s => if s = "" then before else appendText s before
  | .element tag children =>
    let content := rereadAll (tag.writtenDeclarations scope :: scope) [] children
    before ++ [(Element.dropLayout { tag := tag.declared scope, children := content }).node]

def rereadAll (scope : Scope) (before : List Node) : List Node → List Node
  | [] => before
  | n :: rest => rereadAll scope (reread scope before n) rest

end

end Node

/-- The element after it was written and read. -/
def Element.reread (scope : Scope) (e : Element) : Element :=
  let content := Node.rereadAll (e.tag.writtenDeclarations scope :: scope) [] e.children
  Element.dropLayout { tag := e.tag.declared scope, children := content }

namespace Node

theorem reread_element (scope : Scope) (before : List Node) (e : Element) :
    e.node.reread scope before = before ++ [(e.reread scope).node] := by
  obtain ⟨tag, children⟩ := e
  rw [Element.node, reread]
  rfl

theorem elements_node (e : Element) : e.node.elements = e :: e.descendants := by
  rw [Element.node, elements, Element.descendants]

theorem HasWritableTags.tag {t : Tag} {cs : List Node}
    (writable : (Node.element t cs).HasWritableTags) : t.IsWritable :=
  writable { tag := t, children := cs } (by rw [elements]; exact List.mem_cons_self)

theorem HasWritableTags.child {t : Tag} {cs : List Node} {n : Node}
    (writable : (Node.element t cs).HasWritableTags) (m : n ∈ cs) : n.HasWritableTags := by
  intro e me
  refine writable e ?_
  rw [elements, elementsAll_eq]
  exact List.mem_cons_of_mem _ (List.mem_flatMap.2 ⟨n, m, me⟩)

theorem rereadAll_invisible {scope : Scope} {before : List Node} {ns : List Node}
    (invisible : ns.any isVisible = false) : rereadAll scope before ns = before := by
  induction ns with
  | nil => rw [rereadAll]
  | cons n ns ih =>
    rw [List.any_cons, Bool.or_eq_false_iff] at invisible
    rw [rereadAll]
    cases n with
    | text s =>
      have empty : s = "" := by simpa [isVisible] using invisible.1
      rw [reread, if_pos empty]
      exact ih invisible.2
    | element t cs => exact absurd invisible.1 (by simp [isVisible])

end Node

/-! ### Trees whose tags can be made out -/

/-- What is written of the tag of the element inside these open elements is read back. -/
structure Element.IsLegible (scope : Scope) (e : Element) : Prop where
  name : IsTagName e.tag.written
  closed : Passes (e.tag.written.toList ++
    writePairs (e.tag.pairs (e.tag.writtenDeclarations scope)))
  read : scope.tag (raw e.tag.written)
    ((writePairs (e.tag.pairs (e.tag.writtenDeclarations scope))).map some) =
      .ok (e.tag.declared scope)
  /-- An end tag holds the name alone. -/
  ending : e.children.any Node.isVisible → Passes e.tag.written.toList
  /-- A bare start tag does not look like an empty tag. -/
  noSlash : e.children.any Node.isVisible → e.tag.pairs (e.tag.writtenDeclarations scope) = [] →
    e.tag.written.toList.getLast? ≠ some '/'
  /-- A bare empty tag does not look like an end tag. -/
  nonempty : ¬ e.children.any Node.isVisible → e.tag.pairs (e.tag.writtenDeclarations scope) = [] →
    e.tag.written ≠ ""

/-- The tags of all elements of the node are read back, each in the scope of its parents. -/
inductive Node.IsLegible : Scope → Node → Prop
  | text {scope : Scope} {s : String} : IsLegible scope (.text s)
  | element {scope : Scope} {t : Tag} {cs : List Node}
      (tag : Element.IsLegible scope { tag := t, children := cs })
      (children : ∀ n ∈ cs, IsLegible (t.writtenDeclarations scope :: scope) n) :
      IsLegible scope (.element t cs)

theorem Tag.IsWritable.legible {t : Tag} {scope : Scope} (writable : t.IsWritable)
    (clean : scope.IsClean) (cs : List Node) :
    Element.IsLegible scope { tag := t, children := cs } := by
  have written := writable.bindable.name.written
  have keys := writable.keys_written scope
  refine ⟨written.isTagName, passes_content written.passes fun p m => (keys p m).passes, ?_,
    fun _ => written.passes, fun _ _ => written.noSlash, fun _ _ => written.1⟩
  refine Scope.tag_written writable.bindable (fun q m xml => ?_) fun p m => (keys p m).isKey
  exact writable.resolve?_xml clean m xml

namespace Node

theorem HasWritableTags.legible {n : Node} (writable : n.HasWritableTags) {scope : Scope}
    (clean : scope.IsClean) : n.IsLegible scope := by
  induction n using Node.induction generalizing scope with
  | text s => exact .text
  | element t cs ih =>
    exact .element (writable.tag.legible clean cs) fun n m =>
      ih n m (writable.child m) (writable.tag.clean_cons clean)

/-! ### One node -/

/-- In an open element that holds the first nodes, in this scope, the text is read into the second
ones. -/
def ReadsTo (scope : Scope) (doc : List Char) (ns ns' : List Node) : Prop :=
  ∀ (root : Option Element) (t : Tag) (outer : List Element) (opened : List Raw) (more : List Char),
    Reading.run { opened := { tag := t, children := ns } :: outer, scope, root }
        (list opened ((doc ++ more).map some)) =
      Reading.run { opened := { tag := t, children := ns' } :: outer, scope, root }
        (list opened (more.map some))

/-- Where the node is written in an open element, in this scope, reading puts it there. -/
def IsReread (scope : Scope) (n : Node) : Prop :=
  ∀ (root : Option Element) (e : Element) (outer : List Element) (opened : List Raw)
    (more : List Char),
    Reading.run { opened := e :: outer, scope, root }
        (list opened ((n.write scope ++ more).map some)) =
      Reading.run { opened := { e with children := n.reread scope e.children } :: outer, scope, root }
        (list opened (more.map some))

theorem isReread_text (scope : Scope) (s : String) : (Node.text s).IsReread scope := by
  intro root e outer opened more
  rw [write, reread]
  by_cases empty : s = ""
  · subst empty
    rfl
  · rw [if_neg empty, Reading.run_escapeContent (fun h => empty (String.toList_eq_nil_iff.1 h))]
    rw [Reading.push, String.ofList_toList]
    rfl

theorem run_writeAll {ns : List Node} {scope : Scope} (all : ∀ n ∈ ns, n.IsReread scope)
    (root : Option Element) (e : Element) (outer : List Element) (opened : List Raw)
    (more : List Char) :
    Reading.run { opened := e :: outer, scope, root }
        (list opened ((writeAll scope ns ++ more).map some)) =
      Reading.run { opened := { e with children := rereadAll scope e.children ns } :: outer, scope, root }
        (list opened (more.map some)) := by
  induction ns generalizing e with
  | nil => rw [writeAll, rereadAll, List.nil_append]
  | cons n ns ih =>
    rw [writeAll, rereadAll, List.append_assoc, all n List.mem_cons_self root e outer opened]
    exact ih (fun m h => all m (List.mem_cons_of_mem _ h)) _

theorem run_startTag {name : String} {pairs : List (String × String)} {t : Tag} {r : Reading}
    (isName : IsTagName name) (closed : Passes (name.toList ++ writePairs pairs))
    (noSlash : pairs = [] → name.toList.getLast? ≠ some '/')
    (tag : r.scope.tag (raw name) ((writePairs pairs).map some) = .ok t) (opened : List Raw)
    (behind : List Char) :
    r.run (list opened (('<' :: (name.toList ++ writePairs pairs) ++ '>' :: behind).map some)) =
      Reading.run { opened := { tag := t } :: r.opened, scope := t.declarations :: r.scope,
                    root := r.root } (list (raw name :: opened) (behind.map some)) := by
  have start : r.step (.startTag (raw name) ((writePairs pairs).map some)) =
      .ok { opened := { tag := t } :: r.opened, scope := t.declarations :: r.scope, root := r.root } := by
    rw [Reading.step, tag]
    rfl
  have next := next?_startTag isName closed noSlash (behind.map some)
  rw [List.map_append, List.map_cons]
  exact Reading.run_of_next? (by simp) next rfl start

section
variable {t : Tag} {cs : List Node} {r : Reading}
  (legible : Element.IsLegible r.scope { tag := t, children := cs })
include legible

theorem run_tags (visible : cs.any isVisible) {inner : List Char} {content : List Node}
    (reads : ReadsTo (t.writtenDeclarations r.scope :: r.scope) inner [] content)
    (opened : List Raw) (more : List Char) :
    r.run (list opened ((t.write (t.writtenDeclarations r.scope) ++
        ('>' :: inner ++ "</".toList ++ t.written.toList ++ ['>']) ++ more).map some)) =
      r.close { tag := t.declared r.scope, children := content } >>= fun r =>
        r.run (list opened (more.map some)) := by
  obtain ⟨isName, closed, tag, ending, noSlash, -⟩ := legible
  simp only at isName closed tag ending noSlash
  have start := run_startTag isName closed (noSlash visible) tag opened
    (inner ++ ('<' :: '/' :: t.written.toList ++ '>' :: more))
  have last := next?_endTag isName.blankFree (ending visible) (more.map some)
  have input : t.write (t.writtenDeclarations r.scope) ++
      ('>' :: inner ++ "</".toList ++ t.written.toList ++ ['>']) ++ more =
      '<' :: (t.written.toList ++ writePairs (t.pairs (t.writtenDeclarations r.scope))) ++
        '>' :: (inner ++ ('<' :: '/' :: t.written.toList ++ '>' :: more)) := by
    rw [Tag.write_eq]
    simp
  have close : ('<' :: '/' :: t.written.toList ++ '>' :: more).map some =
      ('<' :: '/' :: t.written.toList).map some ++ some '>' :: more.map some := by
    simp
  have fits : Token.opened? (raw t.written :: opened) (.endTag (raw t.written)) = some opened := by
    simp [Token.opened?]
  rw [input, start]
  refine (reads r.root (t.declared r.scope) r.opened (raw t.written :: opened)
    ('<' :: '/' :: t.written.toList ++ '>' :: more)).trans ?_
  rw [close, Reading.run_next? _ (by simp) last fits]
  rfl

theorem run_emptyTag (invisible : ¬ cs.any isVisible) (opened : List Raw) (more : List Char) :
    r.run (list opened
        ((t.write (t.writtenDeclarations r.scope) ++ "/>".toList ++ more).map some)) =
      r.close { tag := t.declared r.scope } >>= fun r => r.run (list opened (more.map some)) := by
  obtain ⟨isName, closed, tag, -, -, nonempty⟩ := legible
  simp only at isName closed tag nonempty
  have next := next?_emptyTag isName closed (nonempty invisible) (more.map some)
  have step : r.step (.emptyTag (raw t.written)
      ((writePairs (t.pairs (t.writtenDeclarations r.scope))).map some)) =
      r.close { tag := t.declared r.scope } := by
    rw [Reading.step, tag]
    rfl
  have input : (t.write (t.writtenDeclarations r.scope) ++ "/>".toList ++ more).map some =
      ('<' :: (t.written.toList ++ writePairs (t.pairs (t.writtenDeclarations r.scope)))).map some ++
        some '/' :: some '>' :: more.map some := by
    rw [Tag.write_eq]
    simp
  rw [input, Reading.run_next? r (by simp) next rfl, step]

/-- A written element is closed where it ends, whether or not an element is open around it. -/
theorem run_element (all : ∀ n ∈ cs, n.IsReread (t.writtenDeclarations r.scope :: r.scope))
    (opened : List Raw) (more : List Char) :
    r.run (list opened (((Node.element t cs).write r.scope ++ more).map some)) =
      r.close { tag := t.declared r.scope,
                children := rereadAll (t.writtenDeclarations r.scope :: r.scope) [] cs } >>= fun r =>
        r.run (list opened (more.map some)) := by
  rw [write]
  -- An element with nothing to show is written as an empty tag, although it may have children.
  by_cases visible : cs.any isVisible
  · rw [if_pos visible]
    exact run_tags legible visible (fun root t => run_writeAll all root { tag := t }) opened more
  · rw [if_neg visible, rereadAll_invisible (by simpa using visible)]
    exact run_emptyTag legible visible opened more

end

theorem IsLegible.isReread {n : Node} {scope : Scope} (legible : n.IsLegible scope) :
    n.IsReread scope := by
  induction legible with
  | text => exact isReread_text _ _
  | @element scope t cs tag _ ih =>
    intro root e outer opened more
    -- The children are written in the scope that the start tag leaves the reader in.
    rw [run_element (r := { opened := e :: outer, scope, root }) tag ih, reread]
    rfl

end Node

namespace Element

theorem ofBytes_toBytes (e : Element) :
    Token.ofBytes e.toBytes = list [] ((e.node.write []).map some) := by
  rw [Token.ofBytes, toBytes, Text.Utf8.decode_encode, node, Node.write, Tag.write_eq]
  rfl

/-- Reading what was written gives the tree as it is after reading. -/
theorem parse_of_legible {e : Element} (legible : e.node.IsLegible []) :
    Element.parse e.toBytes = .ok (e.reread []) := by
  rw [Element.parse, ofTokens, ofBytes_toBytes, ← List.append_nil (e.node.write [])]
  obtain ⟨t, cs⟩ := e
  cases legible with
  | element tag children =>
    have run := Node.run_element (r := {}) tag (fun n m => (children n m).isReread) [] []
    refine (congrArg (· >>= Reading.finish) run).trans ?_
    rw [List.map_nil, Token.list_nil]
    rfl

theorem parse_toBytes {e : Element} (writable : e.node.HasWritableTags) :
    Element.parse e.toBytes = .ok (e.reread []) :=
  parse_of_legible (writable.legible (by simp [Scope.IsClean]))

end Element

/-! ### Trees of elements and of text -/

namespace Node

theorem HasWritableTags.element {t : Tag} {cs : List Node} (tag : t.IsWritable)
    (children : ∀ n ∈ cs, n.HasWritableTags) : (Node.element t cs).HasWritableTags := by
  intro e m
  rw [elements, elementsAll_eq] at m
  rcases List.mem_cons.1 m with rfl | below
  · exact tag
  · obtain ⟨n, mn, me⟩ := List.mem_flatMap.1 below
    exact children n mn e me

theorem hasWritableTags_text (s : String) : (Node.text s).HasWritableTags := by
  intro e m
  rw [elements] at m
  cases m

theorem HasWritableTags.withText {t : Tag} (tag : t.IsWritable) (s : String) :
    (Node.element t [.text s]).HasWritableTags := by
  refine .element tag fun n m => ?_
  rw [List.mem_singleton.1 m]
  exact hasWritableTags_text s

theorem rereadAll_elements (scope : Scope) (before : List Node) (es : List Element) :
    rereadAll scope before (es.map (·.node)) = before ++ es.map fun e => (e.reread scope).node := by
  induction es generalizing before with
  | nil => rw [List.map_nil, rereadAll, List.map_nil, List.append_nil]
  | cons e es ih =>
    rw [List.map_cons, rereadAll, reread_element, ih, List.append_assoc]
    rfl

end Node

namespace Element

theorem dropLayout_of_content {e : Element}
    (content : e.hasChildElements → ∀ n ∈ e.children, !n.isBlank) : e.dropLayout = e := by
  rw [dropLayout_eq]
  split
  · next has => rw [List.filter_eq_self.2 (content has)]
  · rfl

theorem dropLayout_dropLayout (e : Element) : e.dropLayout.dropLayout = e.dropLayout := by
  refine dropLayout_of_content fun has n m => ?_
  rw [dropLayout_eq] at has m
  split at m
  · exact (List.mem_filter.1 m).2
  · next none =>
    rw [if_neg none] at has
    exact absurd has none

end Element

theorem Reading.close_dropLayout (r : Reading) (e : Element) : r.close e.dropLayout = r.close e := by
  rw [close, close, Element.dropLayout_dropLayout]

namespace Element

theorem childElements_elements (t : Tag) (es : List Element) :
    childElements { tag := t, children := es.map (·.node) } = es := by
  rw [childElements, List.filterMap_map]
  exact List.filterMap_some

theorem reread_elements (scope : Scope) (t : Tag) (es : List Element) :
    reread scope { tag := t, children := es.map (·.node) } =
      { tag := t.declared scope
        children := (es.map (reread (t.writtenDeclarations scope :: scope))).map (·.node) } := by
  rw [reread, Node.rereadAll_elements, List.nil_append, dropLayout_of_content, List.map_map]
  · rfl
  · intro _ n m
    obtain ⟨e, -, rfl⟩ := List.mem_map.1 m
    rfl

theorem childElements_reread (scope : Scope) (t : Tag) (es : List Element) :
    (reread scope { tag := t, children := es.map (·.node) }).childElements =
      es.map (reread (t.writtenDeclarations scope :: scope)) := by
  rw [reread_elements, childElements_elements]

theorem reread_text (scope : Scope) (t : Tag) (s : String) :
    reread scope { tag := t, children := [.text s] } =
      { tag := t.declared scope, children := if s = "" then [] else [.text s] } := by
  rw [reread, Node.rereadAll, Node.rereadAll, Node.reread]
  split
  · rfl
  · exact dropLayout_of_content nofun

theorem reread_tag (scope : Scope) (e : Element) : (e.reread scope).tag = e.tag.declared scope := by
  rw [reread, dropLayout_tag]

end Element

end XRoad.Xml
