import XRoad.Proofs.Xml.RoundTrip

/-!
# Documents that differ in their layout

What may be put between the parts of a document: comments and instructions everywhere, white space
beside elements. A tree is read alike from every document that differs from its own in these, and in
how empty elements are written. Main statement: `Element.parse_laidOut`.
-/

namespace XRoad.Xml

open Text (Raw)
open Token (raw list)

/-! ### What may stand between nodes -/

/-- A comment or a processing instruction. The XML declaration is an instruction too. -/
inductive IsAside : List Char → Prop
  | comment {cs : List Char} (plain : ∀ c ∈ cs, c ≠ '-' ∧ c ≠ '>') :
      IsAside ("<!--".toList ++ cs ++ "-->".toList)
  | instruction {target : String} {cs : List Char} (name : IsPlainName target)
      (plain : ∀ c ∈ cs, c ≠ '?' ∧ c ≠ '>') :
      IsAside ("<?".toList ++ target.toList ++ cs ++ "?>".toList)

/-- Comments and instructions and, if these are allowed, blank characters. -/
inductive IsGap (blanks : Bool) : List Char → Prop
  | nil : IsGap blanks []
  | aside {a gap : List Char} (aside : IsAside a) (rest : IsGap blanks gap) : IsGap blanks (a ++ gap)
  | blank {c : Char} {gap : List Char} (allowed : blanks) (blank : Text.isBlankChar c)
      (rest : IsGap blanks gap) : IsGap blanks (c :: gap)

/-- The characters of a text, each written by itself, with asides behind each. -/
inductive IsSplitText : List Char → List Char → Prop
  | nil : IsSplitText [] []
  | cons {c : Char} {cs gap doc : List Char} (between : IsGap false gap) (rest : IsSplitText cs doc) :
      IsSplitText (c :: cs) (escapeContent [c] ++ (gap ++ doc))

namespace Node

/-- There are elements among these nodes and no text: white space between them means nothing. -/
def areElements (ns : List Node) : Bool :=
  ns.any isElement && ns.all isElement

/-- A document of some nodes in a scope, with gaps before, between and behind them. -/
inductive IsLaidOut : (blanks : Bool) → Scope → List Node → List Char → Prop
  | nil {blanks : Bool} {scope : Scope} {gap : List Char} (before : IsGap blanks gap) :
      IsLaidOut blanks scope [] gap
  | text {blanks : Bool} {scope : Scope} {s : String} {ns : List Node} {gap content doc : List Char}
      (before : IsGap blanks gap) (split : IsSplitText s.toList content)
      (rest : IsLaidOut blanks scope ns doc) :
      IsLaidOut blanks scope (.text s :: ns) (gap ++ (content ++ doc))
  | emptyTag {blanks : Bool} {scope : Scope} {t : Tag} {cs ns : List Node} {gap doc : List Char}
      (before : IsGap blanks gap) (invisible : ¬ cs.any isVisible)
      (rest : IsLaidOut blanks scope ns doc) :
      IsLaidOut blanks scope (.element t cs :: ns)
        (gap ++ (t.write (t.writtenDeclarations scope) ++ "/>".toList ++ doc))
  /-- Between the tags of an element, blanks are allowed if it holds elements and no text. -/
  | tags {blanks : Bool} {scope : Scope} {t : Tag} {cs ns : List Node} {gap inner doc : List Char}
      (before : IsGap blanks gap)
      (content : IsLaidOut (areElements cs) (t.writtenDeclarations scope :: scope) cs inner)
      (rest : IsLaidOut blanks scope ns doc) :
      IsLaidOut blanks scope (.element t cs :: ns)
        (gap ++ (t.write (t.writtenDeclarations scope) ++
          ('>' :: inner ++ "</".toList ++ t.written.toList ++ ['>']) ++ doc))

end Node

/-- A document of the element, with gaps before and behind it. -/
def Element.IsLaidOut (e : Element) (doc : String) : Prop :=
  Node.IsLaidOut true [] [e.node] doc.toList

/-! ### Asides as tokens -/

namespace Token

theorem cut?_of_free {first : Char} (mark : Raw) {cs : List Char} (free : ∀ c ∈ cs, c ≠ first)
    (rest : Raw) :
    cut? (some first :: mark) (cs.map some ++ (some first :: mark ++ rest)) =
      some (cs.map some, rest) := by
  induction cs with
  | nil => simp [cut?]
  | cons c cs ih =>
    obtain ⟨other, free⟩ := List.forall_mem_cons.1 free
    have apart : (some first == some c) = false := by simpa using other.symm
    rw [List.map_cons, List.cons_append, cut?, List.isPrefixOf_cons_cons, apart, Bool.false_and,
      if_neg Bool.false_ne_true, ih free]
    rfl

theorem next?_aside {a : List Char} (aside : IsAside a) (rest : Raw) :
    next? (a.map some ++ rest) = some (.aside, rest) := by
  cases aside with
  | @comment cs plain =>
    have cut := cut?_of_free (raw "->") (fun c m => (plain c m).1) rest
    have input : ("<!--".toList ++ cs ++ "-->".toList).map some ++ rest =
        some '<' :: some '!' :: (raw "--" ++ (cs.map some ++ (some '-' :: raw "->" ++ rest))) := by
      simp [raw]
    rw [input, next?_markup, markup?, declaration?, if_pos (by simp [raw])]
    change Option.map _ (cut? (some '-' :: raw "->") (cs.map some ++ _)) = _
    rw [cut]
    rfl
  | @instruction target cs name plain =>
    have free : ∀ c ∈ target.toList ++ cs, c ≠ '?' := by
      intro c m
      rcases List.mem_append.1 m with inName | inData
      · exact (name.written.inert c inName).question
      · exact (plain c inData).1
    have cut := cut?_of_free (raw ">") free rest
    have input : ("<?".toList ++ target.toList ++ cs ++ "?>".toList).map some ++ rest =
        some '<' :: some '?' :: ((target.toList ++ cs).map some ++ (some '?' :: raw ">" ++ rest)) := by
      simp [raw]
    have named : ((target.toList ++ cs).map some ++ (some '?' :: raw ">" ++ rest)).head? ≠
        some (some '>') := by
      obtain ⟨c, tail, chars⟩ := name.written.cons
      have other := (name.written.inert c (by rw [chars]; exact List.mem_cons_self)).gt
      rw [chars]
      exact fun closed => other (Option.some.inj (Option.some.inj closed))
    rw [input, next?_markup, markup?, instruction?, if_neg named]
    change Option.map _ (cut? (some '?' :: raw ">") ((target.toList ++ cs).map some ++ _)) = _
    rw [cut]
    rfl

end Token

theorem IsAside.ne_nil {a : List Char} (aside : IsAside a) : a ≠ [] := by
  cases aside <;> simp

theorem isTextChar_of_blank {c : Char} (blank : Text.isBlankChar c) : Token.isTextChar c := by
  have lt : c ≠ '<' := by
    rintro rfl
    exact absurd blank (by decide)
  have amp : c ≠ '&' := by
    rintro rfl
    exact absurd blank (by decide)
  simp [Token.isTextChar, lt, amp]

/-! ### Reading past gaps -/

namespace Reading

variable {r : Reading} {opened : List Raw} {blanks : Bool} {gap : List Char}

theorem run_aside {a : List Char} (aside : IsAside a) (more : List Char) :
    r.run (list opened ((a ++ more).map some)) = r.run (list opened (more.map some)) := by
  rw [List.map_append]
  exact run_of_next? (by simp [aside.ne_nil]) (Token.next?_aside aside (more.map some)) rfl rfl

/-- Asides leave no trace, and neither do blanks outside of all elements. -/
theorem run_gap (outside : blanks → r.opened = []) (isGap : IsGap blanks gap) (more : List Char) :
    r.run (list opened ((gap ++ more).map some)) = r.run (list opened (more.map some)) := by
  induction isGap with
  | nil => rfl
  | aside aside rest ih => rw [List.append_assoc, run_aside aside, ih]
  | @blank c gap allowed blank rest ih =>
    have unseen : r.push [c] = r := by rw [push, outside allowed]
    rw [List.cons_append, run_char (isTextChar_of_blank blank), unseen, ih]

end Reading

namespace Node

variable {scope : Scope} {a b : List Char} {ns ns' ns'' : List Node}

theorem ReadsTo.append (first : ReadsTo scope a ns ns') (second : ReadsTo scope b ns' ns'') :
    ReadsTo scope (a ++ b) ns ns'' := by
  intro root t outer opened more
  rw [List.append_assoc, first root t outer opened, second root t outer opened]

theorem readsTo_asides {gap : List Char} (asides : IsGap false gap) (ns : List Node) :
    ReadsTo scope gap ns ns :=
  fun _ _ _ _ more =>
    Reading.run_gap (fun allowed => absurd allowed Bool.false_ne_true) asides more

theorem readsTo_blank {c : Char} (blank : Text.isBlankChar c) (ns : List Node) :
    ReadsTo scope [c] ns (appendText (String.ofList [c]) ns) :=
  fun _ _ _ _ more => Reading.run_char (isTextChar_of_blank blank) more

theorem readsTo_char (c : Char) (ns : List Node) :
    ReadsTo scope (escapeContent [c]) ns (appendText (String.ofList [c]) ns) :=
  fun _ _ _ _ more => Reading.run_contentChar c more

theorem readsTo_pieces {cs doc : List Char} (split : IsSplitText cs doc) (ns : List Node) :
    ReadsTo scope doc ns (if cs = [] then ns else appendText (String.ofList cs) ns) := by
  induction split generalizing ns with
  | nil => exact fun _ _ _ _ _ => rfl
  | @cons c cs gap doc between rest ih =>
    have first : ReadsTo scope (escapeContent [c]) ns (appendText (String.ofList [c]) ns) :=
      readsTo_char c ns
    have read := first.append ((readsTo_asides between _).append (ih _))
    rw [if_neg (List.cons_ne_nil c cs)]
    by_cases last : cs = []
    · subst last
      exact read
    · rw [if_neg last, appendText_append, ← String.ofList_append] at read
      exact read

theorem readsTo_splitText {s : String} {doc : List Char} (split : IsSplitText s.toList doc)
    (ns : List Node) : ReadsTo scope doc ns ((Node.text s).reread scope ns) := by
  have pieces : ReadsTo scope doc ns _ := readsTo_pieces split ns
  rw [reread]
  by_cases empty : s = ""
  · rw [if_pos (String.toList_eq_nil_iff.2 empty)] at pieces
    rwa [if_pos empty]
  · rw [if_neg fun nil => empty (String.toList_eq_nil_iff.1 nil), String.ofList_toList] at pieces
    rwa [if_neg empty]

/-! ### Layout between elements -/

/-- The first nodes are the second ones, which are elements, with blank texts between them. -/
structure IsPadded (ns ms : List Node) : Prop where
  elements : ns.filter isElement = ms
  blank : ∀ n ∈ ns, n.isElement ∨ n.isBlank

variable {ms : List Node}

theorem IsPadded.appendText {s : String} (padded : IsPadded ns ms) (blank : Text.isBlank s) :
    IsPadded (appendText s ns) ms := by
  fun_induction XRoad.Xml.appendText s ns generalizing ms with
  | case1 => exact ⟨padded.elements, List.forall_mem_singleton.2 (.inr blank)⟩
  | case2 t =>
    have blanks : Text.isBlank (t ++ s) := by
      have first := (List.forall_mem_singleton.1 padded.blank).resolve_left Bool.false_ne_true
      rw [Text.isBlank, String.toList_append, List.all_append]
      exact Bool.and_eq_true_iff.2 ⟨first, blank⟩
    exact ⟨padded.elements, List.forall_mem_singleton.2 (.inr blanks)⟩
  | case3 n rest notText ih =>
    obtain ⟨here, later⟩ := List.forall_mem_cons.1 padded.blank
    have rest := ih ⟨rfl, later⟩
    refine ⟨?_, List.forall_mem_cons.2 ⟨here, rest.blank⟩⟩
    rw [List.filter_cons, rest.elements, ← List.filter_cons, padded.elements]

theorem IsPadded.concat {n : Node} (padded : IsPadded ns ms) (isElement : n.isElement) :
    IsPadded (ns ++ [n]) (ms ++ [n]) := by
  constructor
  · rw [List.filter_append, padded.elements, List.filter_cons, if_pos isElement, List.filter_nil]
  · intro m here
    rcases List.mem_append.1 here with before | last
    · exact padded.blank m before
    · rw [List.mem_singleton.1 last]
      exact .inl isElement

theorem IsPadded.dropLayout (padded : IsPadded ns ms) (nonempty : ms ≠ []) (t : Tag) :
    Element.dropLayout { tag := t, children := ns } =
      Element.dropLayout { tag := t, children := ms } := by
  have same : ns.filter (!·.isBlank) = ms := by
    rw [← padded.elements]
    refine List.filter_congr fun n m => ?_
    cases n with
    | text s => exact congrArg not ((padded.blank _ m).resolve_left Bool.false_ne_true)
    | element t cs => rfl
  have elements : ∀ n ∈ ms, n.isElement := by
    rw [← padded.elements]
    exact fun n m => (List.mem_filter.1 m).2
  have held : Element.hasChildElements { tag := t, children := ns } := by
    obtain ⟨n, m⟩ := List.exists_mem_of_ne_nil ms nonempty
    rw [← padded.elements] at m
    exact List.any_eq_true.2 ⟨n, List.mem_filter.1 m⟩
  rw [Element.dropLayout_eq, if_pos held, Element.dropLayout_of_content fun _ n m =>
    not_isBlank_of_isElement (elements n m)]
  exact congrArg (Element.mk t) same

/-- What was read of some nodes: these or, if blanks are allowed, these with layout between them. -/
def IsReadAs (blanks : Bool) (ns ms : List Node) : Prop :=
  if blanks then IsPadded ns ms else ns = ms

section
variable {blanks : Bool}

theorem isReadAs_nil (blanks : Bool) : IsReadAs blanks [] [] := by
  cases blanks with
  | true => exact ⟨rfl, nofun⟩
  | false => rfl

theorem IsReadAs.gap {gap : List Char} (read : IsReadAs blanks ns ms) (isGap : IsGap blanks gap)
    (scope : Scope) : ∃ ns', IsReadAs blanks ns' ms ∧ ReadsTo scope gap ns ns' := by
  induction isGap generalizing ns with
  | nil => exact ⟨ns, read, fun _ _ _ _ _ => rfl⟩
  | @aside a gap aside rest ih =>
    obtain ⟨ns', read', reads⟩ := ih read
    have past : ReadsTo scope a ns ns := fun _ _ _ _ more => Reading.run_aside aside more
    exact ⟨ns', read', past.append reads⟩
  | @blank c gap allowed blank rest ih =>
    subst allowed
    have isBlank : Text.isBlank (String.ofList [c]) := by simpa [Text.isBlank] using blank
    obtain ⟨ns', read', reads⟩ := ih (IsPadded.appendText read isBlank)
    exact ⟨ns', read', (readsTo_blank blank ns).append reads⟩

/-- Where blanks are allowed, only elements are read. -/
theorem IsReadAs.reread {n : Node} (read : IsReadAs blanks ns ms) (element : blanks → n.isElement)
    (scope : Scope) : IsReadAs blanks (n.reread scope ns) (n.reread scope ms) := by
  cases blanks with
  | false => exact congrArg (n.reread scope) read
  | true =>
    cases n with
    | text s => exact absurd (element rfl) Bool.false_ne_true
    | element t cs =>
      have placed (held : List Node) := reread_element scope held { tag := t, children := cs }
      change IsPadded ((Element.node ⟨t, cs⟩).reread scope ns) ((Element.node ⟨t, cs⟩).reread scope ms)
      rw [placed, placed]
      exact IsPadded.concat read rfl

end

end Node

/-! ### Elements -/

namespace Node

/-- In this scope the text is read as the element, whatever is open around it. -/
def ReadsAs (scope : Scope) (doc : List Char) (e : Element) : Prop :=
  ∀ (r : Reading) (opened : List Raw) (more : List Char), r.scope = scope →
    r.run (list opened ((doc ++ more).map some)) =
      r.close (e.reread scope) >>= fun r => r.run (list opened (more.map some))

section
variable {scope : Scope} {doc : List Char} {t : Tag} {cs : List Node}

theorem ReadsAs.readsTo {e : Element} (reads : ReadsAs scope doc e) (ns : List Node) :
    ReadsTo scope doc ns (e.node.reread scope ns) := by
  intro root tag outer opened more
  have kept : (e.reread scope).dropLayout = e.reread scope := Element.dropLayout_dropLayout _
  rw [reads { opened := { tag, children := ns } :: outer, scope, root } opened more rfl,
    reread_element, Reading.close, kept]
  rfl

/-- Without a text among them, nodes are all read. -/
theorem rereadAll_ne_nil (elements : areElements cs) : rereadAll scope [] cs ≠ [] := by
  obtain ⟨some, all⟩ := Bool.and_eq_true_iff.1 elements
  obtain ⟨n, m, -⟩ := List.any_eq_true.1 some
  obtain ⟨es, rfl⟩ : ∃ es : List Element, es.map (·.node) = cs := by
    refine ⟨cs.filterMap element?, ?_⟩
    rw [List.map_filterMap]
    refine (List.filterMap_congr fun n m => ?_).trans List.filterMap_some
    cases n with
    | text s => exact absurd (List.all_eq_true.1 all _ m) Bool.false_ne_true
    | element t cs => rfl
  rw [rereadAll_elements, List.nil_append]
  intro empty
  rw [List.map_eq_nil_iff] at empty
  subst empty
  cases m

variable (tag : t.IsWritable) (clean : scope.IsClean)
include tag clean

theorem readsAs_emptyTag (invisible : ¬ cs.any isVisible) :
    ReadsAs scope (t.write (t.writtenDeclarations scope) ++ "/>".toList)
      { tag := t, children := cs } := by
  rintro r opened more rfl
  rw [run_emptyTag (tag.legible clean cs) invisible, Element.reread, Reading.close_dropLayout,
    rereadAll_invisible (by simpa using invisible)]

theorem readsAs_tags {inner : List Char} {held : List Node}
    (read : IsReadAs (areElements cs) held
      (rereadAll (t.writtenDeclarations scope :: scope) [] cs))
    (reads : ReadsTo (t.writtenDeclarations scope :: scope) inner [] held) :
    ReadsAs scope
      (t.write (t.writtenDeclarations scope) ++
        ('>' :: inner ++ "</".toList ++ t.written.toList ++ ['>']))
      { tag := t, children := cs } := by
  rintro r opened more rfl
  have same : Element.dropLayout { tag := t.declared r.scope, children := held } =
      Element.reread r.scope { tag := t, children := cs } := by
    cases elements : areElements cs with
    | true =>
      rw [elements] at read
      exact IsPadded.dropLayout read (rereadAll_ne_nil elements) _
    | false =>
      rw [elements] at read
      rw [show held = _ from read]
      rfl
  have legible := tag.legible clean [.element t []]
  rw [run_tags legible rfl reads opened more, ← Reading.close_dropLayout, same]

end

/-! ### Whole documents -/

section
variable {blanks : Bool} {scope : Scope} {ns held ms : List Node} {doc : List Char}

theorem IsReadAs.cons {n : Node} {gap content : List Char} (read : IsReadAs blanks held ms)
    (before : IsGap blanks gap) (element : blanks → n.isElement)
    (reads : ∀ ns, ReadsTo scope content ns (n.reread scope ns))
    (rest : ∀ held, IsReadAs blanks held (n.reread scope ms) → ∃ held',
      IsReadAs blanks held' (rereadAll scope (n.reread scope ms) ns) ∧ ReadsTo scope doc held held') :
    ∃ held', IsReadAs blanks held' (rereadAll scope ms (n :: ns)) ∧
      ReadsTo scope (gap ++ (content ++ doc)) held held' := by
  obtain ⟨padded, read, past⟩ := read.gap before scope
  obtain ⟨held', read, later⟩ := rest _ (read.reread element scope)
  rw [rereadAll]
  exact ⟨held', read, past.append ((reads padded).append later)⟩

/-- A document is read into what reading its nodes gives, but for layout that is still to be
dropped. -/
theorem IsLaidOut.readsTo (laidOut : IsLaidOut blanks scope ns doc)
    (tags : ∀ n ∈ ns, n.HasWritableTags) (clean : scope.IsClean)
    (elements : blanks → ∀ n ∈ ns, n.isElement) (read : IsReadAs blanks held ms) :
    ∃ held', IsReadAs blanks held' (rereadAll scope ms ns) ∧ ReadsTo scope doc held held' := by
  induction laidOut generalizing held ms with
  | nil before => exact read.gap before _
  | @text blanks scope s ns gap content doc before split rest ih =>
    have first := fun allowed => elements allowed _ List.mem_cons_self
    have later := fun allowed n m => elements allowed n (List.mem_cons_of_mem _ m)
    obtain ⟨-, tags⟩ := List.forall_mem_cons.1 tags
    exact read.cons before first (readsTo_splitText split) fun _ => ih tags clean later
  | @emptyTag blanks scope t cs ns gap doc before invisible rest ih =>
    have later := fun allowed n m => elements allowed n (List.mem_cons_of_mem _ m)
    obtain ⟨here, tags⟩ := List.forall_mem_cons.1 tags
    exact read.cons before (fun _ => rfl) (readsAs_emptyTag here.tag clean invisible).readsTo
      fun _ => ih tags clean later
  | @tags blanks scope t cs ns gap inner doc before content rest ihContent ih =>
    have later := fun allowed n m => elements allowed n (List.mem_cons_of_mem _ m)
    obtain ⟨here, tags⟩ := List.forall_mem_cons.1 tags
    -- The content begins where nothing has been read yet, in the scope of its own tag.
    obtain ⟨filled, readInner, readsInner⟩ :=
      ihContent (fun n m => here.child m) (here.tag.clean_cons clean)
        (fun all => List.all_eq_true.1 (Bool.and_eq_true_iff.1 all).2) (isReadAs_nil _)
    exact read.cons before (fun _ => rfl) (readsAs_tags here.tag clean readInner readsInner).readsTo
      fun _ => ih tags clean later

end

theorem IsLaidOut.write_cons {n : Node} {blanks : Bool} {scope : Scope} {ns : List Node}
    {doc : List Char} (rest : IsLaidOut blanks scope ns doc) :
    IsLaidOut blanks scope (n :: ns) (n.write scope ++ doc) := by
  induction n using Node.induction generalizing blanks scope ns doc with
  | text s =>
    have split (cs : List Char) : IsSplitText cs (escapeContent cs) := by
      induction cs with
      | nil => exact .nil
      | cons c cs ih =>
        have whole := IsSplitText.cons (c := c) .nil ih
        rwa [escapeContent, List.flatMap_singleton, List.nil_append] at whole
    rw [write]
    exact .text .nil (split s.toList) rest
  | element t cs ih =>
    have all (inner : Scope) : IsLaidOut (areElements cs) inner cs (writeAll inner cs) := by
      generalize areElements cs = blanks
      induction cs with
      | nil => exact .nil .nil
      | cons c cs ihs =>
        rw [writeAll]
        exact ih c List.mem_cons_self (ihs fun d m => ih d (List.mem_cons_of_mem _ m))
    rw [write]
    by_cases visible : cs.any isVisible
    · rw [if_pos visible]
      exact .tags .nil (all _) rest
    · rw [if_neg visible]
      exact .emptyTag .nil visible rest

/-- A document of an element is read as the element, between two gaps. -/
theorem IsLaidOut.readsAs {scope : Scope} {e : Element} {doc : List Char}
    (laidOut : IsLaidOut true scope [e.node] doc) (tags : e.node.HasWritableTags)
    (clean : scope.IsClean) :
    ∃ before body after, IsGap true before ∧ ReadsAs scope ('<' :: body) e ∧ IsGap true after ∧
      doc = before ++ ('<' :: body ++ after) := by
  obtain ⟨t, cs⟩ := e
  change IsLaidOut true scope [.element t cs] doc at laidOut
  cases laidOut with
  | emptyTag before invisible rest =>
    obtain ⟨after⟩ := rest
    exact ⟨_, _, _, before, readsAs_emptyTag tags.tag clean invisible, after, rfl⟩
  | tags before content rest =>
    obtain ⟨after⟩ := rest
    obtain ⟨filled, read, reads⟩ :=
      content.readsTo (fun n m => tags.child m) (tags.tag.clean_cons clean)
        (fun all => List.all_eq_true.1 (Bool.and_eq_true_iff.1 all).2) (isReadAs_nil _)
    exact ⟨_, _, _, before, readsAs_tags tags.tag clean read reads, after, rfl⟩

end Node

theorem IsGap.head {blanks : Bool} {gap : List Char} (isGap : IsGap blanks gap) (rest : List Char) :
    ∀ c ∈ (gap ++ '<' :: rest).head?, c = '<' ∨ Text.isBlankChar c := by
  cases isGap with
  | nil => exact fun c m => .inl (Option.some.inj m).symm
  | aside aside _ =>
    intro c m
    cases aside <;> exact .inl (Option.some.inj m).symm
  | blank _ blank _ =>
    intro c m
    rw [← Option.some.inj m]
    exact .inr blank

/-- White space and markup are no byte order mark. -/
theorem Token.ofBytes_encode {cs : List Char}
    (head : ∀ c ∈ cs.head?, c = '<' ∨ Text.isBlankChar c) :
    ofBytes (Text.Utf8.encode cs) = list [] (cs.map some) := by
  rw [ofBytes, Text.Utf8.decode_encode]
  split
  · next input marked =>
    obtain ⟨c, rest, rfl, mark, -⟩ := List.map_eq_cons_iff.1 marked
    have first := head c rfl
    rw [Option.some.inj mark] at first
    exact absurd first (by decide)
  · rfl

namespace Element

theorem isLaidOut_toXml (e : Element) : e.IsLaidOut e.toXml := by
  rw [IsLaidOut, toXml, String.toList_ofList, ← List.append_nil (e.node.write [])]
  exact Node.IsLaidOut.write_cons (.nil .nil)

theorem parse_of_laidOut {e : Element} {doc : String} (tags : e.node.HasWritableTags)
    (laidOut : e.IsLaidOut doc) : Element.parse (Text.bytes doc) = .ok (e.reread []) := by
  obtain ⟨before, body, after, first, reads, last, split⟩ :=
    Node.IsLaidOut.readsAs laidOut tags (by simp [Scope.IsClean])
  have head : ∀ c ∈ doc.toList.head?, c = '<' ∨ Text.isBlankChar c := by
    rw [split]
    exact first.head _
  have closed : ({} : Reading).close (e.reread []) = .ok { root := some (e.reread []) } := by
    rw [reread, Reading.close_dropLayout]
    rfl
  have behind : Reading.run { root := some (e.reread []) } (list [] (after.map some)) =
      .ok { root := some (e.reread []) } := by
    rw [← List.append_nil after, Reading.run_gap (fun _ => rfl) last, List.map_nil, Token.list_nil]
    rfl
  rw [Element.parse, ofTokens, Text.bytes, Token.ofBytes_encode head, split,
    Reading.run_gap (fun _ => rfl) first, reads {} [] after rfl, closed, ok_bind, behind]
  rfl

/-- A tree is read alike from all of its documents, the one that is written of it among them: as it
was, with the declarations that it was written with. -/
theorem parse_laidOut {e : Element} (writable : e.IsWritable) {doc : String}
    (laidOut : e.IsLaidOut doc) :
    ∃ t, Element.parse (Text.bytes doc) = .ok t ∧ Element.parse (Text.bytes e.toXml) = .ok t ∧
      t.bare = e.bare := by
  have kept : e.reread [] = e.declared [] := reread_of_compact writable.compact []
  refine ⟨e.reread [], parse_of_laidOut writable.tags laidOut,
    parse_of_laidOut writable.tags e.isLaidOut_toXml, ?_⟩
  rw [kept, bare_declared]

/-- A text cut by an instruction, an empty element with two tags, and asides and blanks around
them. -/
theorem parse_laidOut_decorated :
    let e := (Element.named "a").push
      [(Element.withText "b" "1&2").node, (Element.named "c").node]
    let doc := "<?xml version=\"1.0\"?>\n<a> <b><!-- & -->1&amp;<?x y?>2</b>\t<c></c></a>\n"
    e.IsWritable ∧ e.IsLaidOut doc ∧
      ∃ t, Element.parse (Text.bytes doc) = .ok t ∧ Element.parse (Text.bytes e.toXml) = .ok t ∧
        t.bare = e.bare := by
  intro e doc
  have writable : e.IsWritable := by decide
  have declaration : IsAside ("<?".toList ++ "xml".toList ++ " version=\"1.0\"".toList ++ "?>".toList) :=
    .instruction (by decide) (by simp)
  have comment : IsAside ("<!--".toList ++ " & ".toList ++ "-->".toList) := .comment (by simp)
  have instruction : IsAside ("<?".toList ++ "x".toList ++ " y".toList ++ "?>".toList) :=
    .instruction (by decide) (by simp)
  have text : IsSplitText "1&2".toList _ :=
    .cons .nil (.cons (.aside instruction .nil) (.cons .nil .nil))
  have built : Node.IsLaidOut true [] [e.node] _ :=
    .tags (.aside declaration (.blank rfl (c := '\n') (by decide) .nil))
      (.tags (.blank rfl (c := ' ') (by decide) .nil)
        (.text (.aside comment .nil) text (.nil .nil))
        (.tags (.blank rfl (c := '\t') (by decide) .nil) (.nil .nil) (.nil .nil)))
      (.nil (.blank rfl (c := '\n') (by decide) .nil))
  have laidOut : e.IsLaidOut doc :=
    (congrArg (Node.IsLaidOut true [] [e.node]) (by decide)).mp built
  exact ⟨writable, laidOut, parse_laidOut writable laidOut⟩

end Element

end XRoad.Xml
