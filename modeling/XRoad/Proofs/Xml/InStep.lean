import XRoad.Proofs.Xml.ReadTag

/-!
# Reading in step with the tags

Three stacks grow and shrink while a document is read: the names of the open tags, by which the
tokens are checked, the open elements, and their declarations. They are in step before every token.
So no end tag is left over for the tree to refuse, and what is open at the end is what the tags left
open. Main statement: `Element.parse_in_step`.
-/

namespace XRoad.Xml

open Text (Raw)
open Token (raw)

namespace Token

/-- The names of the tags that are open behind some tokens, innermost first; none if an end tag does
not repeat the innermost one. -/
def openTags? (tokens : List Token) : Option (List Raw) :=
  tokens.foldlM opened? []

/-- Inside these open tags, the token completes an element that stands in no other. -/
def completesRoot (opened : List Raw) : Token → Bool
  | .emptyTag _ _ => opened.isEmpty
  | .endTag _ => opened.length == 1
  | _ => false

/-- How many elements that stand in no other some tokens complete. -/
def rootCount (opened : List Raw) : List Token → Nat
  | [] => 0
  | token :: rest =>
    (completesRoot opened token).toNat + rootCount ((opened? opened token).getD []) rest

variable {opened opened' : List Raw} {token : Token} {tokens before after : List Token}

theorem isSome_foldlM_list (opened : List Raw) (input : Raw) :
    ((list opened input).foldlM opened? opened).isSome := by
  fun_induction list opened input with
  | case1 => rfl
  | case2 => rfl
  | case3 => rfl
  | case4 opened c rest token rest' next opened' fits ih =>
    rw [List.foldlM_cons, fits]
    exact ih

/-- No end tag of a document is left over, and each repeats the name of the tag that it closes. -/
theorem isSome_openTags?_ofBytes (bytes : List UInt8) : (openTags? (ofBytes bytes)).isSome := by
  rw [ofBytes]
  split
  · exact isSome_foldlM_list [] _
  · exact isSome_foldlM_list [] _

theorem foldlM_opened?_cons (nested : (token :: tokens).foldlM opened? opened = some opened') :
    ∃ next, opened? opened token = some next ∧ tokens.foldlM opened? next = some opened' :=
  Option.bind_eq_some_iff.1 (List.foldlM_cons.symm.trans nested)

theorem isSome_openTags?_append (nested : (openTags? (before ++ after)).isSome) :
    (openTags? before).isSome := by
  rw [openTags?, List.foldlM_append] at nested
  rw [openTags?]
  cases h : before.foldlM opened? [] with
  | none =>
    rw [h] at nested
    exact nested
  | some _ => rfl

end Token

/-! ### Errors that are not about nesting -/

/-- An error about what is open. -/
def Error.IsAboutNesting : Error → Prop
  | .unexpectedEnd _ | .unclosed _ => True
  | _ => False

/-- Where this fails, the error is not about what is open. -/
def IsLocal {α : Type} (m : Except Error α) : Prop :=
  ∀ x, m = .error x → ¬x.IsAboutNesting

section
variable {α β : Type}

theorem isLocal_ok (a : α) : IsLocal (Except.ok a) :=
  nofun

theorem isLocal_error {x : Error} (other : ¬x.IsAboutNesting) :
    IsLocal (Except.error x : Except Error α) := by
  intro y same
  rwa [← Except.error.inj same]

theorem IsLocal.bind {m : Except Error α} {f : α → Except Error β} (first : IsLocal m)
    (rest : ∀ a, IsLocal (f a)) : IsLocal (m >>= f) := by
  cases m with
  | error x => exact fun y same => first y (congrArg Except.error (Except.error.inj same))
  | ok a => exact rest a

theorem isLocal_mapM {f : α → Except Error β} (each : ∀ a, IsLocal (f a)) (as : List α) :
    IsLocal (as.mapM f) := by
  induction as with
  | nil => exact isLocal_ok []
  | cons a as ih =>
    rw [List.mapM_cons]
    exact (each a).bind fun b => ih.bind fun bs => isLocal_ok (b :: bs)

end

namespace Attributes

theorem isLocal_text (content : Raw) : IsLocal (text content) := by
  unfold text
  split
  · exact isLocal_ok _
  · exact isLocal_error id

theorem isLocal_value (content : Raw) : IsLocal (value content) := by
  refine (isLocal_text content).bind fun s => ?_
  split
  · exact isLocal_ok _
  · exact isLocal_error id

theorem isLocal_list (seen : List Raw) (input : Raw) : IsLocal (list seen input) := by
  fun_induction list seen input with
  | case1 => exact isLocal_ok []
  | case2 => exact isLocal_error id
  | case3 => exact isLocal_error id
  | case4 _ _ _ _ _ k v _ _ _ ih =>
    exact (isLocal_text k).bind fun key => (isLocal_value v).bind fun value =>
      ih.bind fun others => isLocal_ok ((key, value) :: others)

end Attributes

theorem isLocal_referenceText (name : Raw) : IsLocal (referenceText name) := by
  unfold referenceText
  split
  · next digits =>
    refine (Attributes.isLocal_text digits).bind fun digits => ?_
    split
    · exact isLocal_ok _
    · exact isLocal_error id
  · refine (Attributes.isLocal_text name).bind fun name => ?_
    split
    · exact isLocal_ok _
    · exact isLocal_error id

namespace Scope

theorem isLocal_require (scope : Scope) (nsPrefix : String) : IsLocal (scope.require nsPrefix) := by
  unfold require
  split
  · exact isLocal_ok _
  · exact isLocal_error id

theorem isLocal_elementName (scope : Scope) (written : String) :
    IsLocal (scope.elementName written) := by
  unfold elementName
  split
  · exact (isLocal_require scope _).bind fun uri => isLocal_ok _
  · exact isLocal_ok _

theorem isLocal_attributeName (scope : Scope) (written : String) :
    IsLocal (scope.attributeName written) := by
  unfold attributeName
  split
  · exact (isLocal_require scope _).bind fun uri => isLocal_ok _
  · exact isLocal_ok _

theorem isLocal_tag (scope : Scope) (name attributes : Raw) : IsLocal (scope.tag name attributes) := by
  unfold tag
  refine (Attributes.isLocal_list [] attributes).bind fun pairs => ?_
  refine (Attributes.isLocal_text name).bind fun written => ?_
  refine (isLocal_elementName _ written).bind fun q => ?_
  refine (isLocal_mapM (fun a => ?_) _).bind fun as => isLocal_ok _
  exact (isLocal_attributeName _ a.1).bind fun q => isLocal_ok _

end Scope

/-! ### One token -/

namespace Reading

/-- The open elements have the names of the open tags, and their declarations are the scope. -/
structure InStep (opened : List Raw) (r : Reading) : Prop where
  names : opened = r.opened.map fun e => raw e.tag.written
  scope : r.scope = r.opened.map fun e => e.tag.declarations

variable {opened opened' : List Raw} {r r' : Reading} {token : Token} {tokens : List Token}

theorem InStep.addText {text : Except Error String} (inStep : InStep opened r)
    (added : r.addText text = .ok r') :
    InStep opened r' ∧ r'.root.toList.length = r.root.toList.length := by
  obtain ⟨elements, scope, root⟩ := r
  cases elements with
  | nil =>
    obtain rfl := Except.ok.inj added
    exact ⟨inStep, rfl⟩
  | cons e outer =>
    obtain ⟨s, -, made⟩ := bind_ok added
    obtain rfl := Except.ok.inj made
    exact ⟨⟨inStep.names, inStep.scope⟩, rfl⟩

/-- An element that ends inside no other becomes the root; the others stay open as they are. -/
theorem InStep.close {e : Element} (inStep : InStep opened r) (closed : r.close e = .ok r') :
    InStep opened r' ∧
      r'.root.toList.length = r.root.toList.length + r.opened.isEmpty.toNat := by
  obtain ⟨elements, scope, root⟩ := r
  cases elements with
  | cons parent outer =>
    obtain rfl := Except.ok.inj closed
    exact ⟨⟨inStep.names, inStep.scope⟩, rfl⟩
  | nil =>
    cases root with
    | some _ => cases closed
    | none =>
      obtain rfl := Except.ok.inj closed
      exact ⟨⟨inStep.names, inStep.scope⟩, rfl⟩

theorem InStep.step (inStep : InStep opened r) (fits : Token.opened? opened token = some opened')
    (stepped : r.step token = .ok r') :
    InStep opened' r' ∧
      r'.root.toList.length = r.root.toList.length + (token.completesRoot opened).toNat := by
  cases token with
  | startTag name attributes =>
    obtain ⟨t, tag, made⟩ := bind_ok stepped
    obtain rfl := Except.ok.inj made
    obtain rfl := Option.some.inj fits
    obtain ⟨written, -⟩ := Scope.written_of_tag tag
    exact ⟨⟨by simp [written, inStep.names], by simp [inStep.scope]⟩, rfl⟩
  | emptyTag name attributes =>
    obtain ⟨t, -, closed⟩ := bind_ok stepped
    obtain rfl := Option.some.inj fits
    obtain ⟨kept, root⟩ := inStep.close closed
    exact ⟨kept, by simpa [Token.completesRoot, inStep.names] using root⟩
  | endTag name =>
    obtain ⟨elements, scope, root⟩ := r
    obtain ⟨names, scopes⟩ := inStep
    simp only at names scopes
    subst names scopes
    cases elements with
    | nil => cases stepped
    | cons e outer =>
      rw [Token.opened?] at fits
      split at fits
      · obtain rfl := Option.some.inj fits
        have around : InStep (outer.map fun e => raw e.tag.written)
            { opened := outer, scope := outer.map fun e => e.tag.declarations, root := root } :=
          ⟨rfl, rfl⟩
        obtain ⟨kept, root⟩ := around.close stepped
        refine ⟨kept, root.trans ?_⟩
        cases outer <;> rfl
      · cases fits
  | text content =>
    obtain rfl := Option.some.inj fits
    exact inStep.addText stepped
  | cdata content =>
    obtain rfl := Option.some.inj fits
    exact inStep.addText stepped
  | reference name =>
    obtain rfl := Option.some.inj fits
    exact inStep.addText stepped
  | aside =>
    obtain rfl := Except.ok.inj stepped
    obtain rfl := Option.some.inj fits
    exact ⟨inStep, rfl⟩
  | malformed reason => cases stepped

theorem isLocal_addText {text : Except Error String} (given : IsLocal text) : IsLocal (r.addText text) := by
  unfold Reading.addText
  split
  · exact isLocal_ok _
  · exact given.bind fun s => isLocal_ok _

theorem isLocal_close (e : Element) : IsLocal (r.close e) := by
  unfold Reading.close
  simp only
  split
  · exact isLocal_ok _
  · exact isLocal_ok _
  · exact isLocal_error id

/-- An end tag that repeats the innermost open tag finds its element. -/
theorem InStep.isLocal_step (inStep : InStep opened r)
    (fits : Token.opened? opened token = some opened') : IsLocal (r.step token) := by
  cases token with
  | startTag name attributes => exact (r.scope.isLocal_tag name attributes).bind fun t => isLocal_ok _
  | emptyTag name attributes => exact (r.scope.isLocal_tag name attributes).bind fun t => isLocal_close _
  | endTag name =>
    obtain ⟨elements, scope, root⟩ := r
    cases elements with
    | nil =>
      rw [inStep.names] at fits
      simp [Token.opened?] at fits
    | cons e outer => exact isLocal_close e
  | text content => exact isLocal_addText (Attributes.isLocal_text content)
  | cdata content => exact isLocal_addText (Attributes.isLocal_text content)
  | reference name => exact isLocal_addText (isLocal_referenceText name)
  | aside => exact isLocal_ok r
  | malformed reason => exact isLocal_error id

/-! ### Many tokens -/

theorem InStep.run (inStep : InStep opened r) (nested : tokens.foldlM Token.opened? opened = some opened')
    (ran : r.run tokens = .ok r') :
    InStep opened' r' ∧
      r'.root.toList.length = r.root.toList.length + Token.rootCount opened tokens := by
  induction tokens generalizing opened r with
  | nil =>
    obtain rfl := Except.ok.inj ran
    obtain rfl := Option.some.inj nested
    exact ⟨inStep, rfl⟩
  | cons token rest ih =>
    obtain ⟨next, stepped, ran⟩ := bind_ok ((run_cons r token rest).symm.trans ran)
    obtain ⟨between, fits, nested⟩ := Token.foldlM_opened?_cons nested
    obtain ⟨inStep, first⟩ := inStep.step fits stepped
    obtain ⟨last, others⟩ := ih inStep nested ran
    refine ⟨last, ?_⟩
    rw [others, first, Token.rootCount, fits, Option.getD_some, Nat.add_assoc]

theorem InStep.isLocal_run (inStep : InStep opened r)
    (nested : tokens.foldlM Token.opened? opened = some opened') : IsLocal (r.run tokens) := by
  induction tokens generalizing opened r with
  | nil => exact isLocal_ok r
  | cons token rest ih =>
    obtain ⟨between, fits, nested⟩ := Token.foldlM_opened?_cons nested
    rw [run_cons]
    cases stepped : r.step token with
    | error x => exact isLocal_error (inStep.isLocal_step fits x stepped)
    | ok next => exact ih (inStep.step fits stepped).1 nested

/-! ### The end -/

theorem finish_eq_ok_iff {e : Element} : r.finish = .ok e ↔ r.opened = [] ∧ r.root = some e := by
  unfold finish
  split <;> simp_all

theorem finish_eq_unclosed_iff {name : String} :
    r.finish = .error (.unclosed name) ↔ ∃ e outer, r.opened = e :: outer ∧ e.tag.written = name := by
  unfold finish
  split <;> simp_all

theorem finish_ne_unexpectedEnd (name : String) : r.finish ≠ .error (.unexpectedEnd name) := by
  unfold finish
  split <;> simp

end Reading

/-! ### Documents -/

namespace Element

variable {tokens before after : List Token} {r : Reading} {opened : List Raw}

theorem inStep_of_run (nested : Token.openTags? tokens = some opened)
    (ran : ({} : Reading).run tokens = .ok r) :
    r.InStep opened ∧ r.root.toList.length = Token.rootCount [] tokens := by
  have start : Reading.InStep [] {} := ⟨rfl, rfl⟩
  obtain ⟨inStep, roots⟩ := start.run nested ran
  exact ⟨inStep, roots.trans (Nat.zero_add _)⟩

theorem ofTokens_of_run (ran : ({} : Reading).run tokens = .ok r) : ofTokens tokens = r.finish := by
  rw [ofTokens, ran]
  rfl

/-- Without an error before its end, a document fails only for what is open there or for want of a
root. -/
theorem ofTokens_error {x : Error} (nested : Token.openTags? tokens = some opened)
    (failed : ofTokens tokens = .error x) (about : x.IsAboutNesting) :
    ∃ r, ({} : Reading).run tokens = .ok r ∧ r.finish = .error x := by
  have start : Reading.InStep [] {} := ⟨rfl, rfl⟩
  cases ran : ({} : Reading).run tokens with
  | error y =>
    rw [ofTokens, ran] at failed
    obtain rfl := Except.error.inj failed
    exact absurd about (start.isLocal_run nested y ran)
  | ok r => exact ⟨r, rfl, ofTokens_of_run ran ▸ failed⟩

/-- While a document is read, there are as many scopes as open elements, and the elements have the
names of the open tags, before every token. So no end tag is refused for want of an element; an
element is unclosed if nothing fails before the end, and it is then that of the innermost open tag;
and there is a tree if nothing fails before the end, where one element that stands in no other is
complete and no tag is open. -/
theorem parse_in_step (bytes : List UInt8) :
    (∀ before after r, Token.ofBytes bytes = before ++ after → ({} : Reading).run before = .ok r →
      r.scope.length = r.opened.length ∧
        Token.openTags? before = some (r.opened.map fun e => raw e.tag.written)) ∧
      (∀ name, parse bytes ≠ .error (.unexpectedEnd name)) ∧
      (∀ name, parse bytes = .error (.unclosed name) ↔
        (∃ r, ({} : Reading).run (Token.ofBytes bytes) = .ok r) ∧
          ∃ outer, Token.openTags? (Token.ofBytes bytes) = some (raw name :: outer)) ∧
      ((∃ e, parse bytes = .ok e) ↔
        (∃ r, ({} : Reading).run (Token.ofBytes bytes) = .ok r) ∧
          Token.rootCount [] (Token.ofBytes bytes) = 1 ∧
          Token.openTags? (Token.ofBytes bytes) = some []) := by
  have nested := Token.isSome_openTags?_ofBytes bytes
  obtain ⟨opened, tags⟩ := Option.isSome_iff_exists.1 nested
  refine ⟨fun before after r split ran => ?_, fun name failed => ?_, fun name => ⟨fun failed => ?_, ?_⟩,
    ⟨?_, ?_⟩⟩
  · obtain ⟨names, left⟩ := Option.isSome_iff_exists.1 (Token.isSome_openTags?_append (split ▸ nested))
    obtain ⟨inStep, -⟩ := inStep_of_run left ran
    exact ⟨by rw [inStep.scope, List.length_map], inStep.names ▸ left⟩
  · obtain ⟨r, -, finished⟩ := ofTokens_error tags failed trivial
    exact r.finish_ne_unexpectedEnd name finished
  · obtain ⟨r, ran, finished⟩ := ofTokens_error tags failed trivial
    obtain ⟨e, outer, elements, rfl⟩ := Reading.finish_eq_unclosed_iff.1 finished
    refine ⟨⟨r, ran⟩, outer.map fun e => raw e.tag.written, ?_⟩
    rw [tags, (inStep_of_run tags ran).1.names, elements, List.map_cons]
  · rintro ⟨⟨r, ran⟩, outer, innermost⟩
    rw [tags, (inStep_of_run tags ran).1.names, Option.some.injEq, List.map_eq_cons_iff] at innermost
    obtain ⟨e, rest, elements, same, -⟩ := innermost
    rw [parse, ofTokens_of_run ran, Reading.finish_eq_unclosed_iff]
    exact ⟨e, rest, elements, Attributes.raw_injective same⟩
  · rintro ⟨e, read⟩
    obtain ⟨r, ran, finished⟩ := bind_ok read
    obtain ⟨elements, root⟩ := Reading.finish_eq_ok_iff.1 finished
    obtain ⟨inStep, roots⟩ := inStep_of_run tags ran
    refine ⟨⟨r, ran⟩, ?_, ?_⟩
    · rw [← roots, root]
      rfl
    · rw [tags, inStep.names, elements, List.map_nil]
  · rintro ⟨⟨r, ran⟩, single, none_open⟩
    obtain ⟨inStep, roots⟩ := inStep_of_run tags ran
    rw [tags, inStep.names, Option.some.injEq, List.map_eq_nil_iff] at none_open
    cases root : r.root with
    | none =>
      rw [root, single] at roots
      cases roots
    | some e => exact ⟨e, (ofTokens_of_run ran).trans (Reading.finish_eq_ok_iff.2 ⟨none_open, root⟩)⟩

/-- Two tags are open before an empty one and at the end, where the inner one is unclosed; with both
end tags there is a tree. -/
theorem parse_in_step_unclosed :
    let before : List Token :=
      [.startTag (raw "a") [], .text (raw "x"), .startTag (raw "p:b") (raw " xmlns:p='u'")]
    let bytes := Text.bytes "<a>x<p:b xmlns:p='u'><c/>"
    Token.ofBytes bytes = before ++ [.emptyTag (raw "c") []] ∧
      (∃ r, ({} : Reading).run before = .ok r ∧ r.scope.length = r.opened.length ∧
        Token.openTags? before = some (r.opened.map fun e => raw e.tag.written)) ∧
      Token.openTags? before = some [raw "p:b", raw "a"] ∧
      parse bytes = .error (.unclosed "p:b") ∧
      ∃ e, parse (Text.bytes "<a>x<p:b xmlns:p='u'><c/></p:b ></a><!-- -->") = .ok e := by
  intro before bytes
  have ran {tokens : List Token} (count : Nat)
      (made : (({} : Reading).run tokens).map (·.opened.length) = .ok count) :
      ∃ r, ({} : Reading).run tokens = .ok r := by
    cases h : ({} : Reading).run tokens with
    | error x =>
      rw [h] at made
      cases made
    | ok r => exact ⟨r, rfl⟩
  have split : Token.ofBytes bytes = before ++ [.emptyTag (raw "c") []] := by decide +kernel
  obtain ⟨steps, -, unclosed, -⟩ := parse_in_step bytes
  obtain ⟨-, -, -, tree⟩ := parse_in_step (Text.bytes "<a>x<p:b xmlns:p='u'><c/></p:b ></a><!-- -->")
  obtain ⟨r, read⟩ : ∃ r, ({} : Reading).run before = .ok r := ran 2 (by decide +kernel)
  refine ⟨split, ⟨r, read, steps before _ r split read⟩, by decide +kernel, (unclosed "p:b").2 ?_,
    tree.2 ?_⟩
  · exact ⟨ran 2 (by decide +kernel), [raw "a"], by decide +kernel⟩
  · exact ⟨ran 0 (by decide +kernel), by decide +kernel, by decide +kernel⟩

end Element

end XRoad.Xml
