import XRoad.Proofs.Xml.InStep
import XRoad.Proofs.Xml.Settled

/-!
# The content of elements

Which tree the tokens of a document stand for, said without a stack: the pieces of text between two
tags are one text, and beside elements it is left out when it is blank. A document is read as a tree
exactly if its tokens stand for it. Main statement: `Element.parse_content`.
-/

namespace XRoad.Xml

open Text (Raw)
open Token (raw)

/-! ### What tokens stand for -/

namespace Token

/-- The piece of text that a token stands for. -/
def piece? : Token → Option String
  | .text content | .cdata content => (Attributes.text content).toOption
  | .reference name => (referenceText name).toOption
  | _ => none

/-- What may stand beside the root, where text is not looked at. -/
def isOutside : Token → Bool
  | .text _ | .cdata _ | .reference _ | .aside => true
  | _ => false

end Token

/-- Puts a text in front, as part of the first node when that is a text. -/
def prependText (s : String) : List Node → List Node
  | .text t :: rest => .text (s ++ t) :: rest
  | ns => .text s :: ns

def joinTexts : List Node → List Node
  | [] => []
  | .text s :: rest => prependText s (joinTexts rest)
  | .element t cs :: rest => .element t cs :: joinTexts rest

/-- The content of an element from the pieces of text and the elements between its tags: texts that
stand side by side are one, and a blank one is dropped if there is an element. -/
def contentOf (ns : List Node) : List Node :=
  if ns.any Node.isElement then (joinTexts ns).filter (!·.isBlank) else joinTexts ns

/-- Some pieces of text as one text, if there are any. -/
def textOf (pieces : List String) : List Node :=
  if pieces = [] then [] else [.text (String.join pieces)]

/-- In this scope the tokens stand for these pieces of text and elements. -/
inductive Spells : Scope → List Token → List Node → Prop
  | nil (scope : Scope) : Spells scope [] []
  | aside {scope : Scope} {tokens : List Token} {ns : List Node} (rest : Spells scope tokens ns) :
      Spells scope (.aside :: tokens) ns
  | piece {scope : Scope} {token : Token} {tokens : List Token} {s : String} {ns : List Node}
      (text : token.piece? = some s) (rest : Spells scope tokens ns) :
      Spells scope (token :: tokens) (.text s :: ns)
  | emptyTag {scope : Scope} {name attributes : Raw} {t : Tag} {tokens : List Token} {ns : List Node}
      (tag : scope.tag name attributes = .ok t) (rest : Spells scope tokens ns) :
      Spells scope (.emptyTag name attributes :: tokens) (.element t [] :: ns)
  | tags {scope : Scope} {name attributes : Raw} {t : Tag} {content tokens : List Token}
      {inside ns : List Node} (tag : scope.tag name attributes = .ok t)
      (inner : Spells (t.declarations :: scope) content inside) (rest : Spells scope tokens ns) :
      Spells scope (.startTag name attributes :: content ++ .endTag name :: tokens)
        (.element t (contentOf inside) :: ns)

/-- The tokens of the element stand for it, and beside them there is no other tag. -/
def Element.IsSpelledBy (e : Element) (tokens : List Token) : Prop :=
  ∃ before inner after, tokens = before ++ inner ++ after ∧ (∀ token ∈ before, token.isOutside) ∧
    Spells [] inner [e.node] ∧ ∀ token ∈ after, token.isOutside

/-- Among these tokens are those of the element; the content between its tags stands for these
pieces of text and elements. -/
def Element.IsSpelledIn (e : Element) (content : List Token) (inside : List Node) (tokens : List Token) :
    Prop :=
  ∃ (scope : Scope) (name attributes : Raw), scope.tag name attributes = .ok e.tag ∧
    Spells (e.tag.declarations :: scope) content inside ∧
    (.startTag name attributes :: content ++ [.endTag name] <:+: tokens ∨
      content = [] ∧ [.emptyTag name attributes] <:+: tokens)

variable {scope : Scope} {tokens before after : List Token} {ns ms : List Node} {n : Node} {s : String}

theorem Spells.append {a b : List Token} (first : Spells scope a ns) (second : Spells scope b ms) :
    Spells scope (a ++ b) (ns ++ ms) := by
  induction first with
  | nil => exact second
  | aside _ ih => exact .aside (ih second)
  | piece text _ ih => exact .piece text (ih second)
  | emptyTag tag _ ih => exact .emptyTag tag (ih second)
  | tags tag inner _ _ ih =>
    rw [List.append_assoc, List.cons_append]
    exact .tags tag inner (ih second)

/-! ### Texts side by side -/

theorem prependText_appendText (s t : String) (ns : List Node) :
    prependText s (appendText t ns) = appendText t (prependText s ns) := by
  cases ns with
  | nil => rfl
  | cons n rest =>
    cases n with
    | text u =>
      cases rest with
      | nil => simp only [appendText, prependText, String.append_assoc]
      | cons => rfl
    | element => rfl

theorem prependText_concat (s : String) (ns : List Node) (isElement : n.isElement) :
    prependText s (ns ++ [n]) = prependText s ns ++ [n] := by
  cases ns with
  | nil =>
    cases n with
    | text => cases isElement
    | element => rfl
  | cons m rest => cases m <;> rfl

theorem joinTexts_concat_text (ns : List Node) (s : String) :
    joinTexts (ns ++ [.text s]) = appendText s (joinTexts ns) := by
  induction ns with
  | nil => rfl
  | cons n ns ih =>
    cases n with
    | text t => rw [List.cons_append, joinTexts, ih, prependText_appendText, joinTexts]
    | element t cs =>
      rw [List.cons_append, joinTexts, ih, joinTexts]
      cases joinTexts ns <;> rfl

theorem joinTexts_concat_element (ns : List Node) (isElement : n.isElement) :
    joinTexts (ns ++ [n]) = joinTexts ns ++ [n] := by
  induction ns with
  | nil =>
    cases n with
    | text => cases isElement
    | element => rfl
  | cons m ns ih =>
    cases m with
    | text t => rw [List.cons_append, joinTexts, ih, prependText_concat t _ isElement, joinTexts]
    | element t cs => rw [List.cons_append, joinTexts, ih, joinTexts, List.cons_append]

theorem joinTexts_texts (pieces : List String) : joinTexts (pieces.map .text) = textOf pieces := by
  induction pieces with
  | nil => rfl
  | cons s pieces ih =>
    rw [List.map_cons, joinTexts, ih]
    cases pieces with
    | nil => simp [textOf, prependText]
    | cons => simp [textOf, prependText]

theorem any_isElement_joinTexts (ns : List Node) :
    (joinTexts ns).any Node.isElement = ns.any Node.isElement := by
  induction ns with
  | nil => rfl
  | cons n ns ih =>
    cases n with
    | text s =>
      rw [joinTexts, List.any_cons, ← ih]
      cases joinTexts ns with
      | nil => rfl
      | cons m rest => cases m <;> rfl
    | element t cs => rw [joinTexts, List.any_cons, List.any_cons, ih]

theorem dropLayout_joinTexts (t : Tag) (ns : List Node) :
    Element.dropLayout { tag := t, children := joinTexts ns } = { tag := t, children := contentOf ns } := by
  rw [Element.dropLayout_eq, Element.hasChildElements, any_isElement_joinTexts, contentOf]
  split <;> rfl

theorem any_isElement_contentOf (ns : List Node) :
    (contentOf ns).any Node.isElement = ns.any Node.isElement := by
  rw [contentOf]
  split
  · have shown : (fun n : Node => !n.isBlank && n.isElement) = Node.isElement := by
      funext n
      cases n with
      | text => exact Bool.and_false _
      | element => rfl
    rw [List.any_filter, shown, any_isElement_joinTexts]
  · exact any_isElement_joinTexts ns

/-! ### Reading what tokens stand for -/

namespace Reading

variable {r r' : Reading}

def put (r : Reading) : Node → Except Error Reading
  | .text s => r.addText (.ok s)
  | .element t cs => r.close { tag := t, children := cs }

theorem run_append (r : Reading) (before after : List Token) :
    r.run (before ++ after) = r.run before >>= fun r => r.run after :=
  List.foldlM_append

theorem step_piece {token : Token} (r : Reading) (text : token.piece? = some s) :
    r.step token = r.addText (.ok s) := by
  cases token with
  | text content => rw [step, ok_of_toOption text]
  | cdata content => rw [step, ok_of_toOption text]
  | reference name => rw [step, ok_of_toOption text]
  | _ => cases text

theorem put_scope (placed : r.put n = .ok r') : r'.scope = r.scope := by
  obtain ⟨opened, scope, root⟩ := r
  cases n with
  | text s => cases opened <;> exact Except.ok.inj placed ▸ rfl
  | element t cs =>
    cases opened with
    | cons parent outer => exact Except.ok.inj placed ▸ rfl
    | nil =>
      cases root with
      | none => exact Except.ok.inj placed ▸ rfl
      | some e => cases placed

theorem foldlM_put_inside (finished : ∀ t cs, .element t cs ∈ ns →
      Element.dropLayout { tag := t, children := cs } = { tag := t, children := cs })
    (t : Tag) (before : List Node) (outer : List Element) (scope : Scope) (root : Option Element) :
    ns.foldlM put { opened := { tag := t, children := joinTexts before } :: outer, scope, root } =
      .ok { opened := { tag := t, children := joinTexts (before ++ ns) } :: outer, scope, root } := by
  induction ns generalizing before with
  | nil => rw [List.append_nil]; rfl
  | cons n ns ih =>
    have step : put { opened := { tag := t, children := joinTexts before } :: outer, scope, root } n =
        .ok { opened := { tag := t, children := joinTexts (before ++ [n]) } :: outer, scope, root } := by
      cases n with
      | text s =>
        rw [joinTexts_concat_text]
        rfl
      | element u cs =>
        rw [joinTexts_concat_element before rfl, put, close, finished u cs List.mem_cons_self]
        rfl
    rw [List.foldlM_cons, step, List.append_cons before n ns]
    exact ih (fun u cs m => finished u cs (List.mem_cons_of_mem n m)) (before ++ [n])

end Reading

/-- An element that tokens stand for has no layout left to drop. -/
theorem Spells.finished (spells : Spells scope tokens ns) : ∀ t cs, .element t cs ∈ ns →
    Element.dropLayout { tag := t, children := cs } = { tag := t, children := cs } := by
  induction spells with
  | nil => exact nofun
  | aside _ ih => exact ih
  | piece _ _ ih =>
    intro t cs m
    rcases List.mem_cons.1 m with same | m
    · cases same
    · exact ih t cs m
  | emptyTag _ _ ih =>
    intro t cs m
    rcases List.mem_cons.1 m with same | m
    · obtain ⟨rfl, rfl⟩ := Node.element.inj same
      rfl
    · exact ih t cs m
  | tags _ _ _ _ ih =>
    intro t cs m
    rcases List.mem_cons.1 m with same | m
    · obtain ⟨rfl, rfl⟩ := Node.element.inj same
      rw [← dropLayout_joinTexts, Element.dropLayout_dropLayout]
    · exact ih t cs m

namespace Reading

variable {r r' : Reading}

/-- Reading tokens is reading what they stand for. -/
theorem run_spells (spells : Spells scope tokens ns) (here : r.scope = scope) :
    r.run tokens = ns.foldlM put r := by
  induction spells generalizing r with
  | nil => rfl
  | aside _ ih =>
    rw [run_cons]
    exact ih here
  | piece text _ ih =>
    rw [run_cons, step_piece r text, List.foldlM_cons]
    exact bind_congr_ok fun next placed => ih ((put_scope (n := .text _) placed).trans here)
  | emptyTag tag _ ih =>
    rw [run_cons, step, here, tag, ok_bind, List.foldlM_cons]
    exact bind_congr_ok fun next placed => ih ((put_scope (n := .element _ _) placed).trans here)
  | @tags scope name attributes t content tokens inside ns tag inner _ readInner ih =>
    have start : r.step (.startTag name attributes) =
        .ok { opened := { tag := t } :: r.opened, scope := t.declarations :: r.scope, root := r.root } := by
      rw [step, here, tag]
      rfl
    have read := foldlM_put_inside inner.finished t [] r.opened (t.declarations :: r.scope) r.root
    rw [List.cons_append, run_cons, start, ok_bind, run_append]
    rw [readInner (congrArg (t.declarations :: ·) here)]
    refine (congrArg (· >>= _) read).trans ?_
    rw [ok_bind, run_cons, List.foldlM_cons, List.nil_append, put, ← dropLayout_joinTexts, close_dropLayout]
    exact bind_congr_ok fun next placed =>
      ih ((put_scope (n := .element t (joinTexts inside)) placed).trans here)

theorem run_outside (empty : r.opened = []) (outside : ∀ token ∈ tokens, token.isOutside) :
    r.run tokens = .ok r := by
  have ignored (text : Except Error String) : r.addText text = .ok r := by
    rw [addText, empty]
  induction tokens with
  | nil => rfl
  | cons token rest ih =>
    rw [List.forall_mem_cons] at outside
    have stays : r.step token = .ok r := by
      cases token with
      | text content => exact ignored _
      | cdata content => exact ignored _
      | reference name => exact ignored _
      | aside => rfl
      | _ => cases outside.1
    rw [run_cons, stays, ok_bind]
    exact ih outside.2

end Reading

theorem Element.ofTokens_of_isSpelledBy {e : Element} (spelled : e.IsSpelledBy tokens) :
    ofTokens tokens = .ok e := by
  obtain ⟨before, inner, after, rfl, front, spells, back⟩ := spelled
  have finished : e.dropLayout = e := spells.finished _ _ List.mem_cons_self
  have root : ({} : Reading).run inner = .ok { root := some e } := by
    rw [Reading.run_spells spells rfl]
    change ({} : Reading).close e >>= pure = _
    rw [Reading.close, finished]
    rfl
  have ran : ({} : Reading).run (before ++ inner ++ after) = .ok { root := some e } := by
    rw [Reading.run_append, Reading.run_append, Reading.run_outside rfl front, ok_bind, root, ok_bind]
    exact Reading.run_outside rfl back
  rw [ofTokens_of_run ran]
  rfl

/-! ### What the tokens read so far stand for -/

namespace Reading

/-- What has been read where no element is open. -/
def IsAround (tokens : List Token) : Option Element → Prop
  | none => ∀ token ∈ tokens, token.isOutside
  | some e => e.IsSpelledBy tokens

/-- The tokens read so far stand for the open elements as they are: each has the pieces of text and
the elements that follow its start tag, texts side by side as one but none of them dropped yet. -/
inductive Begun (root : Option Element) : List Token → List Element → Scope → Prop
  | around {tokens : List Token} (around : IsAround tokens root) : Begun root tokens [] []
  | inside {before content : List Token} {outer : List Element} {scope : Scope} {name attributes : Raw}
      {t : Tag} {ns : List Node} (begun : Begun root before outer scope)
      (tag : scope.tag name attributes = .ok t) (spells : Spells (t.declarations :: scope) content ns) :
      Begun root (before ++ .startTag name attributes :: content)
        ({ tag := t, children := joinTexts ns } :: outer) (t.declarations :: scope)

variable {r r' : Reading} {token : Token}

theorem IsAround.append {root : Option Element} (around : IsAround before root)
    (outside : ∀ token ∈ after, token.isOutside) : IsAround (before ++ after) root := by
  cases root with
  | none => exact List.forall_mem_append.2 ⟨around, outside⟩
  | some e =>
    obtain ⟨front, inner, back, rfl, first, spells, last⟩ := around
    exact ⟨front, inner, back ++ after, List.append_assoc _ _ _, first, spells,
      List.forall_mem_append.2 ⟨last, outside⟩⟩

/-- An element that ends is one more node of the element around it, or the root. -/
theorem Begun.close {e : Element} {inner : List Token} (begun : Begun r.root before r.opened r.scope)
    (spells : Spells r.scope inner [e.dropLayout.node]) (closed : r.close e = .ok r') :
    Begun r'.root (before ++ inner) r'.opened r'.scope := by
  obtain ⟨opened, scope, root⟩ := r
  simp only at begun spells
  cases begun with
  | around around =>
    cases root with
    | some e => cases closed
    | none =>
      obtain rfl := Except.ok.inj closed
      refine .around ⟨before, inner, [], ?_, around, spells, nofun⟩
      rw [List.append_nil]
  | inside begun tag content =>
    obtain rfl := Except.ok.inj closed
    rw [List.append_assoc, List.cons_append, Element.pushChild, Element.push,
      ← joinTexts_concat_element _ rfl]
    exact .inside begun tag (content.append spells)

theorem Begun.addText {text : Except Error String} (begun : Begun r.root before r.opened r.scope)
    (piece : ∀ s, text = .ok s → token.piece? = some s) (outside : token.isOutside)
    (added : r.addText text = .ok r') : Begun r'.root (before ++ [token]) r'.opened r'.scope := by
  obtain ⟨opened, scope, root⟩ := r
  simp only at begun
  cases begun with
  | around around =>
    obtain rfl := Except.ok.inj added
    exact .around (around.append (List.forall_mem_singleton.2 outside))
  | inside begun tag content =>
    obtain ⟨s, given, made⟩ := bind_ok added
    obtain rfl := Except.ok.inj made
    rw [List.append_assoc, List.cons_append, Element.pushText, ← joinTexts_concat_text]
    exact .inside begun tag (content.append (.piece (piece s given) (.nil _)))

theorem Begun.step {opened opened' : List Raw} (inStep : r.InStep opened)
    (begun : Begun r.root before r.opened r.scope) (fits : Token.opened? opened token = some opened')
    (stepped : r.step token = .ok r') : Begun r'.root (before ++ [token]) r'.opened r'.scope := by
  cases token with
  | startTag name attributes =>
    obtain ⟨t, tag, made⟩ := bind_ok stepped
    obtain rfl := Except.ok.inj made
    exact .inside begun tag (.nil _)
  | emptyTag name attributes =>
    obtain ⟨t, tag, closed⟩ := bind_ok stepped
    have whole : Spells r.scope [.emptyTag name attributes] [(Element.dropLayout { tag := t }).node] :=
      .emptyTag tag (.nil _)
    exact begun.close whole closed
  | endTag name =>
    obtain ⟨elements, scope, root⟩ := r
    simp only at begun
    cases begun with
    | around => cases stepped
    | @inside before content outer scope name' attributes t ns begun tag spells =>
      -- The end tag repeats the name that the element was opened with.
      have same : name' = name := by
        rw [inStep.names, Token.opened?] at fits
        split at fits
        · next repeats =>
          obtain ⟨written, -⟩ := Scope.written_of_tag tag
          exact written.trans (Option.some.inj repeats)
        · cases fits
      subst same
      have whole : Spells scope (.startTag name' attributes :: content ++ [.endTag name'])
          [(Element.dropLayout { tag := t, children := joinTexts ns }).node] := by
        rw [dropLayout_joinTexts]
        exact .tags tag spells (.nil scope)
      rw [List.append_assoc]
      exact Begun.close (r := { opened := outer, scope := scope, root := root }) begun whole stepped
  | text content =>
    exact begun.addText (fun s given => by rw [Token.piece?, given]; rfl) rfl stepped
  | cdata content =>
    exact begun.addText (fun s given => by rw [Token.piece?, given]; rfl) rfl stepped
  | reference name =>
    exact begun.addText (fun s given => by rw [Token.piece?, given]; rfl) rfl stepped
  | aside =>
    obtain rfl := Except.ok.inj stepped
    obtain ⟨elements, scope, root⟩ := r
    simp only at begun
    cases begun with
    | around around => exact .around (around.append (List.forall_mem_singleton.2 rfl))
    | @inside before content outer scope name attributes t ns begun tag spells =>
      have longer := spells.append (.aside (.nil _))
      rw [List.append_nil] at longer
      rw [List.append_assoc, List.cons_append]
      exact .inside begun tag longer
  | malformed reason => cases stepped

theorem Begun.run {opened opened' : List Raw} (inStep : r.InStep opened)
    (begun : Begun r.root before r.opened r.scope)
    (nested : tokens.foldlM Token.opened? opened = some opened') (ran : r.run tokens = .ok r') :
    Begun r'.root (before ++ tokens) r'.opened r'.scope := by
  induction tokens generalizing before opened r with
  | nil =>
    obtain rfl := Except.ok.inj ran
    rwa [List.append_nil]
  | cons token rest ih =>
    obtain ⟨next, stepped, ran⟩ := bind_ok ((run_cons r token rest).symm.trans ran)
    obtain ⟨between, fits, nested⟩ := Token.foldlM_opened?_cons nested
    rw [List.append_cons]
    exact ih (inStep.step fits stepped).1 (begun.step inStep fits stepped) nested ran

end Reading

theorem Element.isSpelledBy_of_ofTokens {e : Element} {opened : List Raw}
    (nested : Token.openTags? tokens = some opened) (read : ofTokens tokens = .ok e) :
    e.IsSpelledBy tokens := by
  obtain ⟨⟨elements, scope, root⟩, ran, finished⟩ := bind_ok read
  obtain ⟨rfl, rfl⟩ := Reading.finish_eq_ok_iff.1 finished
  have inStep : Reading.InStep [] {} := ⟨rfl, rfl⟩
  have nothing : Reading.Begun none [] [] [] := .around (List.forall_mem_nil _)
  cases nothing.run inStep nested ran with
  | around around => exact around

/-! ### The content of each element -/

theorem Element.IsSpelledIn.mono {e : Element} {content : List Token}
    (spelled : e.IsSpelledIn content ns before) (part : before <:+: tokens) :
    e.IsSpelledIn content ns tokens := by
  obtain ⟨scope, name, attributes, tag, spells, place⟩ := spelled
  exact ⟨scope, name, attributes, tag, spells,
    place.imp (·.trans part) fun ⟨empty, place⟩ => ⟨empty, place.trans part⟩⟩

theorem Element.exists_isSpelledIn_mono {e : Element} (part : before <:+: tokens)
    (spelled : ∃ content inside, e.IsSpelledIn content inside before ∧ e.children = contentOf inside) :
    ∃ content inside, e.IsSpelledIn content inside tokens ∧ e.children = contentOf inside := by
  obtain ⟨content, inside, spelled, children⟩ := spelled
  exact ⟨content, inside, spelled.mono part, children⟩

theorem mem_of_mem_prependText (isElement : n.isElement) (m : n ∈ prependText s ns) : n ∈ ns := by
  fun_cases prependText s ns with
  | case1 t rest =>
    rw [prependText] at m
    rcases List.mem_cons.1 m with rfl | m
    · cases isElement
    · exact List.mem_cons_of_mem _ m
  | case2 _ notText =>
    rw [prependText] at m
    · rcases List.mem_cons.1 m with rfl | m
      · cases isElement
      · exact m
    · exact notText

theorem mem_of_mem_joinTexts (isElement : n.isElement) (m : n ∈ joinTexts ns) : n ∈ ns := by
  induction ns with
  | nil => exact m
  | cons first ns ih =>
    cases first with
    | text s => exact List.mem_cons_of_mem _ (ih (mem_of_mem_prependText isElement m))
    | element t cs => exact List.mem_cons.2 ((List.mem_cons.1 m).imp_right ih)

theorem mem_of_mem_contentOf (isElement : n.isElement) (m : n ∈ contentOf ns) : n ∈ ns := by
  rw [contentOf] at m
  split at m
  · exact mem_of_mem_joinTexts isElement (List.mem_filter.1 m).1
  · exact mem_of_mem_joinTexts isElement m

/-- Each element of a node is read off its own tokens. -/
theorem Spells.exists_isSpelledIn (spells : Spells scope tokens ns) : ∀ n ∈ ns, ∀ x ∈ n.elements,
    ∃ content inside, x.IsSpelledIn content inside tokens ∧ x.children = contentOf inside := by
  induction spells with
  | nil => exact nofun
  | aside _ ih =>
    intro n m x mx
    exact Element.exists_isSpelledIn_mono (List.suffix_cons _ _).isInfix (ih n m x mx)
  | piece _ _ ih =>
    intro n m x mx
    rcases List.mem_cons.1 m with rfl | m
    · rw [Node.elements] at mx
      cases mx
    · exact Element.exists_isSpelledIn_mono (List.suffix_cons _ _).isInfix (ih n m x mx)
  | @emptyTag scope name attributes t tokens ns tag _ ih =>
    intro n m x mx
    rcases List.mem_cons.1 m with rfl | m
    · rw [Node.elements, Node.elementsAll, List.mem_singleton] at mx
      subst mx
      exact ⟨[], [], ⟨scope, name, attributes, tag, .nil _, .inr ⟨rfl, [], tokens, rfl⟩⟩, rfl⟩
    · exact Element.exists_isSpelledIn_mono (List.suffix_cons _ _).isInfix (ih n m x mx)
  | @tags scope name attributes t content tokens inside ns tag inner _ ihInner ih =>
    intro n m x mx
    have split : .startTag name attributes :: content ++ .endTag name :: tokens =
        .startTag name attributes :: content ++ [.endTag name] ++ tokens := List.append_cons ..
    rcases List.mem_cons.1 m with rfl | m
    · rw [Node.elements, Node.elementsAll_eq] at mx
      rcases List.mem_cons.1 mx with rfl | mx
      · exact ⟨content, inside, ⟨scope, name, attributes, tag, inner, .inl ⟨[], tokens, split.symm⟩⟩, rfl⟩
      · obtain ⟨c, mc, mx⟩ := List.mem_flatMap.1 mx
        have isElement : c.isElement := by
          cases c with
          | text s =>
            rw [Node.elements] at mx
            cases mx
          | element => rfl
        have part : content <:+: .startTag name attributes :: content ++ .endTag name :: tokens :=
          ⟨[.startTag name attributes], .endTag name :: tokens, rfl⟩
        exact Element.exists_isSpelledIn_mono part (ihInner c (mem_of_mem_contentOf isElement mc) x mx)
    · rw [split]
      exact Element.exists_isSpelledIn_mono (List.suffix_append _ _).isInfix (ih n m x mx)

theorem Spells.eq_texts (spells : Spells scope tokens ns) (noElement : ¬ns.any Node.isElement) :
    ns = (tokens.filterMap Token.piece?).map .text := by
  induction spells with
  | nil => rfl
  | aside _ ih => exact ih noElement
  | @piece _ token tokens s ns text _ ih =>
    rw [List.filterMap_cons_some text, List.map_cons, ← ih noElement]
  | emptyTag => exact absurd rfl noElement
  | tags => exact absurd rfl noElement

namespace Element

variable {e : Element} {content : List Token} {inside : List Node}

theorem children_of_hasChildElements (children : e.children = contentOf inside)
    (elements : e.hasChildElements) : e.children = (joinTexts inside).filter (!·.isBlank) := by
  rw [hasChildElements, children, any_isElement_contentOf] at elements
  rw [children, contentOf, if_pos elements]

theorem IsSpelledIn.children_of_leaf (spelled : e.IsSpelledIn content inside tokens)
    (children : e.children = contentOf inside) (leaf : ¬e.hasChildElements) :
    e.children = textOf (content.filterMap Token.piece?) := by
  obtain ⟨_, _, _, _, spells, _⟩ := spelled
  rw [hasChildElements, children, any_isElement_contentOf] at leaf
  rw [children, contentOf, if_neg leaf, spells.eq_texts leaf, joinTexts_texts]

/-- A document is read as a tree exactly if its tokens stand for it. In each element no two texts
stand side by side, and no blank one beside an element. Beside elements the texts are what stands
between these, each of them whole; without an element there is one text of all pieces, or none if
there are no pieces. -/
theorem parse_content (bytes : List UInt8) (e : Element) :
    (parse bytes = .ok e ↔ e.IsSpelledBy (Token.ofBytes bytes)) ∧
      (parse bytes = .ok e → ∀ x ∈ e.node.elements, x.IsSettled ∧
        ∃ content inside, x.IsSpelledIn content inside (Token.ofBytes bytes) ∧
          (x.hasChildElements → x.children = (joinTexts inside).filter (!·.isBlank)) ∧
          (¬x.hasChildElements → x.children = textOf (content.filterMap Token.piece?))) := by
  obtain ⟨opened, nested⟩ := Option.isSome_iff_exists.1 (Token.isSome_openTags?_ofBytes bytes)
  have sound (read : parse bytes = .ok e) := isSpelledBy_of_ofTokens nested read
  refine ⟨⟨sound, ofTokens_of_isSpelledBy⟩, fun read x m => ⟨?_, ?_⟩⟩
  · rw [Node.elements_eq_placed []] at m
    obtain ⟨p, placed, rfl⟩ := List.mem_map.1 m
    exact (everywhere_isRead read p placed).settled
  · obtain ⟨before, inner, after, split, -, spells, -⟩ := sound read
    obtain ⟨content, inside, spelled, children⟩ :=
      spells.exists_isSpelledIn e.node (List.mem_singleton_self _) x m
    refine ⟨content, inside, ?_, children_of_hasChildElements children,
      spelled.children_of_leaf children⟩
    rw [split]
    exact spelled.mono ⟨before, after, rfl⟩

/-- Blank text between two elements is gone, other text beside them is whole, and a leaf has one
text from a run of text, CDATA and two references, with a comment and an instruction between them.
-/
theorem parse_content_mixed :
    let bytes := Text.bytes "<a> <b>x<!-- y --><![CDATA[<]]>&amp;<?z?>&#33;</b>\n t <c/> </a>"
    let b : Element := { tag := .named "b", children := [.text "x<&!"] }
    let e : Element := { tag := .named "a", children := [b.node, .text "\n t ", .element (.named "c") []] }
    parse bytes = .ok e ∧ e.IsSpelledBy (Token.ofBytes bytes) ∧ e.IsSettled ∧
      ∃ content inside, b.IsSpelledIn content inside (Token.ofBytes bytes) ∧
        b.children = textOf (content.filterMap Token.piece?) := by
  intro bytes b e
  have read : parse bytes = .ok e := by decide +kernel
  obtain ⟨spelled, each⟩ := parse_content bytes e
  obtain ⟨settled, -⟩ := each read e (by decide +kernel)
  obtain ⟨-, content, inside, leaf, -, pieces⟩ := each read b (by decide +kernel)
  exact ⟨read, spelled.1 read, settled, content, inside, leaf, pieces (by decide +kernel)⟩

end Element

end XRoad.Xml
