import XRoad.Proofs.Xml.Events

/-!
# Where written markup ends

A written tag that is read as itself was cut where it ends, and so was a written end tag that closes
its element: no other cut reads the same name with as many keys behind it. Main statements:
`Reading.pinned_startTag`, `Reading.pinned_emptyTag`, `Reading.closesQuotes_of_endTag`.
-/

namespace XRoad.Xml

open Text (Raw)
open Token (isSpace raw list)

/-! ### Cuts -/

theorem closesQuotes_of_cutTag? {quote : Option Char} {cs : List Char} {rest rest' : Raw}
    (cut : Token.cutTag? quote (cs.map some ++ some '>' :: rest) = some (cs.map some, rest')) :
    closesQuotes quote cs := by
  induction cs generalizing quote with
  | nil =>
    cases quote with
    | none => rfl
    | some q =>
      simp only [Token.cutTag?, List.map_nil, List.nil_append] at cut
      obtain ⟨x, -, made⟩ := Option.map_eq_some_iff.1 cut
      cases (Prod.mk.inj made).1
  | cons c cs ih =>
    cases quote with
    | none =>
      simp only [Token.cutTag?, List.map_cons, List.cons_append] at cut
      split at cut
      · cases (Prod.mk.inj (Option.some.inj cut)).1
      · next inside =>
        obtain ⟨⟨before, after⟩, inner, made⟩ := Option.map_eq_some_iff.1 cut
        obtain ⟨parts, rfl⟩ := Prod.mk.inj made
        obtain rfl := (List.cons.inj parts).2
        simp only [Option.some.injEq] at inner inside
        simp only [closesQuotes, Bool.and_eq_true, bne_iff_ne]
        exact ⟨inside, ih inner⟩
    | some q =>
      simp only [Token.cutTag?, List.map_cons, List.cons_append] at cut
      obtain ⟨⟨before, after⟩, inner, made⟩ := Option.map_eq_some_iff.1 cut
      obtain ⟨parts, rfl⟩ := Prod.mk.inj made
      obtain rfl := (List.cons.inj parts).2
      simp only [Option.some.injEq] at inner
      rw [closesQuotes]
      exact ih inner

theorem Passes.closesQuotes {cs : List Char} (passes : Passes cs) : closesQuotes none cs :=
  closesQuotes_of_cutTag? (cutTag?_of_passes passes [])

/-- Quotes that are closed behind a slash are closed before it. -/
theorem closesQuotes_of_slash {quote : Option Char} {cs : List Char} (isQuote : quote ≠ some '/')
    (closes : closesQuotes quote (cs ++ ['/'])) : closesQuotes quote cs := by
  induction cs generalizing quote with
  | nil =>
    cases quote with
    | none => rfl
    | some q =>
      rw [List.nil_append, closesQuotes, if_neg (by rintro rfl; exact isQuote rfl)] at closes
      cases closes
  | cons c cs ih =>
    cases quote with
    | none =>
      simp only [List.cons_append, closesQuotes, Bool.and_eq_true] at closes ⊢
      refine ⟨closes.1, ih ?_ closes.2⟩
      split
      · next isQuote =>
        rcases isQuote with rfl | rfl <;> decide
      · exact (Option.some_ne_none '/').symm
    | some q =>
      rw [List.cons_append, closesQuotes] at closes
      rw [closesQuotes]
      refine ih ?_ closes
      split
      · exact (Option.some_ne_none '/').symm
      · exact isQuote

/-! ### Keys behind a name -/

namespace Attributes

/-- The beginning of a written attribute is no attribute. -/
theorem next?_cut {c : Char} {key value : List Char}
    (inside : ∀ d ∈ key, d ≠ '=' ∧ isSpace (some d) = false) (noQuote : ∀ d ∈ value, d ≠ '"')
    {input rest : Raw} (cut : input ++ rest = key.map some ++ some '=' :: some '"' :: value.map some) :
    next? (some c) input = none := by
  have inKey : ∀ a ∈ key.map some, (a != some '=' && !isSpace a) = true :=
    forall_mem_map_some (p := fun a => a != some '=' && !isSpace a) fun d m => by
      simp [inside d m]
  have inValue : ∀ a ∈ value.map some, (a != some '"') = true :=
    forall_mem_map_some (p := (· != some '"')) fun d m => by simp [noQuote d m]
  rw [next?.eq_def]
  rcases List.append_eq_append_iff.1 cut with ⟨more, isKey, -⟩ | ⟨behind, rfl, atEquals⟩
  · -- Nothing but a part of the key is there.
    have none_left : input.dropWhile (fun c => c != some '=' && !isSpace c) = [] :=
      List.dropWhile_eq_nil_iff.2 fun a m => inKey a (by rw [isKey]; exact List.mem_append_left _ m)
    simp only [none_left, List.dropWhile_nil]
  · cases behind with
    | nil =>
      have none_left : (key.map some).dropWhile (fun c => c != some '=' && !isSpace c) = [] :=
        List.dropWhile_eq_nil_iff.2 inKey
      simp only [List.append_nil, none_left, List.dropWhile_nil]
    | cons equals behind =>
      obtain ⟨rfl, atQuote⟩ := List.cons.inj atEquals
      simp only
      rw [dropWhile_append_stop behind inKey rfl]
      simp only [List.dropWhile_cons, show isSpace (some '=') = false from rfl, Bool.false_eq_true,
        if_false]
      cases behind with
      | nil => rfl
      | cons quote behind =>
        obtain ⟨rfl, atValue⟩ := List.cons.inj atQuote
        have none_left : behind.dropWhile (· != some '"') = [] :=
          List.dropWhile_eq_nil_iff.2 fun a m =>
            inValue a (by rw [atValue]; exact List.mem_append_left _ m)
        simp only [List.dropWhile_cons, show isSpace (some '"') = false from rfl,
          Bool.false_eq_true, if_false, true_or, if_true, none_left]

/-- No key is read from the beginning of a written attribute. -/
theorem list_cut {key value : String} (isKey : IsKey key) {seen : List Raw} {input rest : Raw}
    (nonempty : rest ≠ []) (cut : input ++ rest = (writeAttribute key value).map some)
    {out : List (String × String)} (read : list seen input = .ok out) : out = [] := by
  obtain ⟨c, cs, chars⟩ := isKey.cons
  obtain ⟨-, blankFree, equals⟩ := isKey
  rw [chars] at blankFree equals
  obtain ⟨rest, last, rfl⟩ := List.eq_nil_or_concat rest |>.resolve_left nonempty
  have parts : input ++ rest = some ' ' :: some c ::
      (cs.map some ++ some '=' :: some '"' :: (escapeValue value.toList).map some) := by
    have whole : (input ++ rest) ++ [last] = (some ' ' :: some c ::
        (cs.map some ++ some '=' :: some '"' :: (escapeValue value.toList).map some)) ++ [some '"'] := by
      rw [List.append_assoc, ← List.concat_eq_append, cut]
      simp [writeAttribute, chars]
    exact (List.append_inj' whole rfl).1
  cases input with
  | nil => exact (Except.ok.inj ((list_nil seen).symm.trans read)).symm
  | cons space input =>
    obtain ⟨rfl, atKey⟩ := List.cons.inj parts
    cases input with
    | nil => exact (Except.ok.inj ((list_blank rfl).symm.trans read)).symm
    | cons first input =>
      obtain ⟨rfl, inKey⟩ := List.cons.inj atKey
      have none_found := next?_cut (c := c)
        (fun d m => ⟨equals d m, blankFree d (List.mem_cons_of_mem _ m)⟩)
        (escapeValue_ne_quote _) inKey
      have visible : isSpace (some c) = false := blankFree c List.mem_cons_self
      have begins : (some ' ' :: some c :: input).dropWhile isSpace = some c :: input := by
        rw [List.dropWhile_cons_of_pos rfl, List.dropWhile_cons_of_neg (by simp [visible])]
      rw [list.eq_def] at read
      split at read
      · next blank =>
        rw [begins] at blank
        cases blank
      · next c' rest' e =>
        rw [begins] at e
        obtain ⟨rfl, rfl⟩ := List.cons.inj e
        split at read
        · cases read
        · next found =>
          rw [none_found] at found
          cases found

/-- As many keys as were written are read only from all that was written. -/
theorem list_short {pairs : List (String × String)} (keys : ∀ p ∈ pairs, IsKey p.1)
    {seen : List Raw} {input : Raw} (part : input <+: (writePairs pairs).map some)
    {out : List (String × String)} (read : list seen input = .ok out)
    (all : out.length = pairs.length) : input = (writePairs pairs).map some := by
  induction pairs generalizing seen input out with
  | nil => exact List.prefix_nil.1 part
  | cons p pairs ih =>
    obtain ⟨rest, parts⟩ := part
    rw [writePairs, List.flatMap_cons, List.map_append, ← writePairs] at parts ⊢
    have isKey := keys p List.mem_cons_self
    obtain ⟨behind, rfl, others⟩ : ∃ behind, input = (writeAttribute p.1 p.2).map some ++ behind ∧
        (writePairs pairs).map some = behind ++ rest := by
      rcases List.append_eq_append_iff.1 parts with ⟨more, cut, rfl⟩ | whole
      · by_cases none_left : more = []
        · exact ⟨[], by rw [cut, none_left, List.append_nil, List.append_nil],
            by rw [none_left, List.nil_append, List.nil_append]⟩
        · rw [list_cut isKey none_left cut.symm read] at all
          cases all
      · exact whole
    obtain ⟨-, out, later, rfl⟩ := list_cons_ok isKey read
    rw [ih (fun q m => keys q (List.mem_cons_of_mem _ m)) ⟨rest, others.symm⟩ later
      (Nat.succ.inj all)]

/-- Keys that were written are read first. -/
theorem list_long {pairs : List (String × String)} (keys : ∀ p ∈ pairs, IsKey p.1)
    {seen : List Raw} {rest : Raw} {out : List (String × String)}
    (read : list seen ((writePairs pairs).map some ++ rest) = .ok out) :
    ∃ seen' out', list seen' rest = .ok out' ∧ out = pairs ++ out' := by
  induction pairs generalizing seen out with
  | nil => exact ⟨seen, out, read, rfl⟩
  | cons p pairs ih =>
    rw [writePairs, List.flatMap_cons, List.map_append, List.append_assoc, ← writePairs] at read
    obtain ⟨-, others, later, rfl⟩ := list_cons_ok (keys p List.mem_cons_self) read
    obtain ⟨seen', out', tail, rfl⟩ := ih (fun q m => keys q (List.mem_cons_of_mem _ m)) later
    exact ⟨seen', out', tail, rfl⟩

theorem ne_nil_of_list_ok {seen : List Raw} {c : Option Char} {rest : Raw}
    (visible : isSpace c = false) {out : List (String × String)}
    (read : list seen (c :: rest) = .ok out) : out ≠ [] := by
  rw [list.eq_def] at read
  split at read
  · next blank =>
    rw [List.dropWhile_cons_of_neg (by simp [visible])] at blank
    cases blank
  · split at read
    · cases read
    · split at read
      · cases read
      · obtain ⟨key, -, read⟩ := bind_ok read
        obtain ⟨value, -, read⟩ := bind_ok read
        obtain ⟨others, -, read⟩ := bind_ok read
        exact Except.ok.inj read ▸ List.cons_ne_nil _ _

end Attributes

/-! ### Tags that are read as themselves -/

theorem eq_of_isPrefix_concat {α : Type} {l m : List α} {a b : α} (ha : l ++ [a] <+: m)
    (hb : l ++ [b] <+: m) : a = b := by
  have same : l ++ [a] = l ++ [b] :=
    (List.prefix_of_prefix_length_le ha hb (by simp)).eq_of_length (by simp)
  exact List.singleton_inj.1 (List.append_cancel_left same)

/-- What is read as a tag is what was written of it, wherever it was cut. -/
theorem content_of_tag {t : Tag} {scope : Scope} (isRead : t.IsRead scope) {content behind tail : Raw}
    (parts : content ++ behind = t.content.map some ++ tail)
    (visible : ∀ a ∈ tail.head?, isSpace a = false)
    (tag : scope.tag (content.takeWhile (!isSpace ·)) (content.dropWhile (!isSpace ·)) = .ok t) :
    content = t.content.map some := by
  obtain ⟨name, pairs, listed, all⟩ := Scope.written_of_tag tag
  have cut := List.takeWhile_append_dropWhile (p := (!isSpace ·)) (l := content)
  rw [name] at cut
  generalize content.dropWhile (!isSpace ·) = attributes at cut listed
  subst cut
  have content_eq : t.content.map some = raw t.written ++
      (writePairs (t.pairs t.declarations)).map some := by
    rw [Tag.content, List.map_append, raw]
  rw [content_eq] at parts ⊢
  rw [List.append_assoc, List.append_assoc] at parts
  refine congrArg _ ?_
  rcases List.append_eq_append_iff.1 (List.append_cancel_left parts) with
    ⟨more, short, -⟩ | ⟨more, rfl, long⟩
  · exact Attributes.list_short isRead.keys ⟨more, short.symm⟩ listed all
  · obtain ⟨seen, out, later, rfl⟩ := Attributes.list_long isRead.keys listed
    obtain rfl : out = [] := by simpa using all
    cases more with
    | nil => exact List.append_nil _
    | cons a more =>
      have first : isSpace a = false := visible a (by rw [long]; rfl)
      exact absurd rfl (Attributes.ne_nil_of_list_ok first later)

namespace Reading

variable {t : Tag} {r r' : Reading} {opened : List Raw}

/-- The tag that is seen first was cut where it was written to end, or behind a slash there. -/
theorem cutTag?_of_seen (isRead : t.IsRead r.scope) {tail : List Char}
    (visible : ∀ c ∈ tail.head?, isSpace (some c) = false)
    (head : ∀ c ∈ (t.content ++ tail).head?, c ≠ '!' ∧ c ≠ '?' ∧ c ≠ '/')
    (ran : r.run (list opened (('<' :: (t.content ++ tail)).map some)) = .ok r')
    (seen : r.events ++ [some t] <+: r'.events) :
    r.scope.tag (raw t.written) ((writePairs (t.pairs t.declarations)).map some) = .ok t ∧
      ∃ rest, Token.cutTag? none ((t.content ++ tail).map some) = some (t.content.map some, rest) ∧
          t.content.getLast? ≠ some '/' ∨
        Token.cutTag? none ((t.content ++ tail).map some) =
          some ((t.content ++ ['/']).map some, rest) := by
  have input_head : ∀ c, ((t.content ++ tail).map some).head? = some (some c) →
      c ≠ '!' ∧ c ≠ '?' ∧ c ≠ '/' := by
    intro c first
    rw [List.head?_map] at first
    obtain ⟨d, here, same⟩ := Option.map_eq_some_iff.1 first
    exact Option.some.inj same ▸ head d here
  have tail_visible : ∀ a ∈ (tail.map some).head?, isSpace a = false := by
    intro a first
    rw [List.head?_map] at first
    obtain ⟨c, here, rfl⟩ := Option.map_eq_some_iff.1 first
    exact visible c here
  obtain ⟨token, rest, opened', next, first, -, stepped, ran⟩ := run_list_ok (by simp) ran
  have later := events_run ran
  rw [List.map_cons, next?_markup, markup?_of_head input_head] at first
  obtain ⟨⟨content, behind⟩, cut, made⟩ := Option.map_eq_some_iff.1 first
  obtain ⟨rfl, rfl⟩ := Prod.mk.inj made
  have parts := Token.cutTag?_eq cut
  rw [List.map_append] at parts
  rw [Token.ofTag] at stepped
  -- Where the slash belongs to the markup, the tag is empty.
  split at stepped
  · next slash =>
    obtain ⟨init, rfl⟩ := List.getLast?_eq_some_iff.1 slash
    simp only [List.dropLast_concat] at stepped
    obtain ⟨t', tag, shown⟩ := events_emptyTag stepped
    obtain rfl : t = t' := Option.some.inj (eq_of_isPrefix_concat seen
      ((List.prefix_append _ _).trans (shown ▸ later)))
    rw [List.append_assoc] at parts
    obtain rfl := content_of_tag isRead parts.symm tail_visible tag
    refine ⟨?_, behind, .inr ?_⟩
    · rwa [Tag.content, takeWhile_name isRead.isName.blankFree,
        dropWhile_name isRead.isName.blankFree] at tag
    · rw [cut, List.map_append, List.map_singleton]
  · next noSlash =>
    obtain ⟨t', tag, shown⟩ := events_startTag stepped
    obtain rfl : t = t' := Option.some.inj (eq_of_isPrefix_concat seen (shown ▸ later))
    obtain rfl := content_of_tag isRead parts.symm tail_visible tag
    refine ⟨?_, behind, .inl ⟨cut, fun last => noSlash ?_⟩⟩
    · rwa [Tag.content, takeWhile_name isRead.isName.blankFree,
        dropWhile_name isRead.isName.blankFree] at tag
    · rw [List.getLast?_map, last, Option.map_some]

/-- A start tag that is seen was cut where it was written to end. -/
theorem pinned_startTag (isRead : t.IsRead r.scope) {more : List Char}
    (ran : r.run (list opened (('<' :: (t.content ++ '>' :: more)).map some)) = .ok r')
    (seen : r.events ++ [some t] <+: r'.events) :
    r.scope.tag (raw t.written) ((writePairs (t.pairs t.declarations)).map some) = .ok t ∧
      closesQuotes none t.content ∧
      (t.pairs t.declarations = [] → t.written.toList.getLast? ≠ some '/') := by
  have head := head_content (t.pairs t.declarations) isRead.isName ('>' :: more)
    fun _ _ c first => by
      obtain rfl := Option.some.inj first
      decide
  have visible : ∀ c ∈ ('>' :: more).head?, isSpace (some c) = false := fun c first => by
    obtain rfl := Option.some.inj first
    decide
  obtain ⟨tag, rest, ⟨cut, noSlash⟩ | cut⟩ := cutTag?_of_seen isRead visible head ran seen
  · refine ⟨tag, ?_, fun bare => ?_⟩
    · rw [List.map_append] at cut
      exact closesQuotes_of_cutTag? cut
    · rwa [Tag.content, bare, writePairs, List.flatMap_nil, List.append_nil] at noSlash
  · have parts := Token.cutTag?_eq cut
    rw [List.map_append, List.map_append, List.append_assoc] at parts
    cases (List.cons.inj (List.append_cancel_left parts)).1

/-- An empty tag that is seen was cut where it was written to end. -/
theorem pinned_emptyTag (isRead : t.IsRead r.scope) {more : List Char}
    (ran : r.run (list opened (('<' :: (t.content ++ '/' :: '>' :: more)).map some)) = .ok r')
    (seen : r.events ++ [some t] <+: r'.events) :
    r.scope.tag (raw t.written) ((writePairs (t.pairs t.declarations)).map some) = .ok t ∧
      closesQuotes none t.content ∧ (t.pairs t.declarations = [] → t.written ≠ "") := by
  have nonempty : t.pairs t.declarations = [] → t.written ≠ "" := by
    -- Without a name and without keys it would be an end tag.
    intro bare empty
    rw [Tag.content, bare, empty] at ran
    obtain ⟨token, rest, opened', next, first, -, stepped, ran⟩ := run_list_ok (by simp) ran
    obtain ⟨rfl, rfl⟩ := Prod.mk.inj (Option.some.inj first)
    have shown := events_endTag stepped
    cases eq_of_isPrefix_concat seen (shown ▸ events_run ran)
  have head := head_content (t.pairs t.declarations) isRead.isName ('/' :: '>' :: more)
    fun bare empty => absurd empty (nonempty bare)
  have visible : ∀ c ∈ ('/' :: '>' :: more).head?, isSpace (some c) = false := fun c first => by
    obtain rfl := Option.some.inj first
    decide
  obtain ⟨tag, rest, ⟨cut, -⟩ | cut⟩ := cutTag?_of_seen isRead visible head ran seen
  · have parts := Token.cutTag?_eq cut
    rw [List.map_append] at parts
    cases (List.cons.inj (List.append_cancel_left parts)).1
  · refine ⟨tag, closesQuotes_of_slash nofun ?_, nonempty⟩
    have whole : t.content ++ '/' :: '>' :: more = t.content ++ ['/'] ++ '>' :: more := by simp
    rw [whole, List.map_append] at cut
    exact closesQuotes_of_cutTag? cut

end Reading

/-! ### End tags that close their element -/

/-- What stands in an end tag is its name and white space. -/
theorem Token.endName_append (content : Raw) :
    ∃ blank, content = endName content ++ blank ∧ ∀ a ∈ blank, isSpace a := by
  rw [endName]
  split
  · exact ⟨[], (List.append_nil _).symm, fun a m => absurd m List.not_mem_nil⟩
  · refine ⟨(content.reverse.takeWhile isSpace).reverse, ?_, fun a m => ?_⟩
    · rw [← List.reverse_append, List.takeWhile_append_dropWhile, List.reverse_reverse]
    · exact List.mem_takeWhile_imp (List.mem_reverse.1 m)

/-- The name in an end tag that closes its element was cut where it was written to end. -/
theorem Reading.closesQuotes_of_endTag {name : String} {r r' : Reading} {opened : List Raw}
    {more : List Char}
    (ran : r.run (list (raw name :: opened) (('<' :: '/' :: (name.toList ++ '>' :: more)).map some)) =
      .ok r') : closesQuotes none name.toList := by
  obtain ⟨token, rest, opened', next, first, fits, -⟩ := run_list_ok (by simp) ran
  obtain ⟨⟨content, behind⟩, cut, made⟩ := Option.map_eq_some_iff.1
    (show (Token.cutTag? none ((name.toList ++ '>' :: more).map some)).map _ = _ from first)
  obtain ⟨rfl, rfl⟩ := Prod.mk.inj made
  have same : Token.endName content = raw name := by
    rw [Token.opened?] at fits
    split at fits
    · next here => exact (Option.some.inj here).symm
    · cases fits
  obtain ⟨blank, parts, spaces⟩ := Token.endName_append content
  have whole := Token.cutTag?_eq cut
  rw [parts, same, List.map_append, List.append_assoc] at whole
  have behindName := List.append_cancel_left whole
  obtain rfl : blank = [] := by
    cases blank with
    | nil => rfl
    | cons a blank =>
      have first := (List.cons.inj behindName).1
      cases first ▸ spaces a List.mem_cons_self
  rw [parts, same, List.append_nil, List.map_append] at cut
  exact closesQuotes_of_cutTag? cut

end XRoad.Xml
