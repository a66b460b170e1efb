import Mathlib.Data.List.TakeWhile
import XRoad.Proofs.Basic
import XRoad.Proofs.Xml.Writable
import XRoad.Xml.Printer
import XRoad.Xml.Reader

/-!
# Written markup

The tokens of written tags. A name is found again because no character of it ends a name, and a
value because its quotes are written as references. Main statements: `next?_startTag`,
`next?_emptyTag`, `next?_endTag` and `Attributes.list_writeAttribute`.
-/

namespace XRoad.Xml

open Text (Raw)
open Token (isSpace raw)

/-- A name as it stands in markup, with its prefix. -/
def IsWrittenName (s : String) : Prop :=
  s ≠ "" ∧ ∀ c ∈ s.toList, c = ':' ∨ isNameChar c

theorem IsPlainName.written {s : String} (plain : IsPlainName s) : IsWrittenName s :=
  ⟨plain.1, fun c m => .inr (plain.2 c m)⟩

theorem IsPlainName.ne_colon {s : String} (plain : IsPlainName s) : ∀ c ∈ s.toList, c ≠ ':' := by
  rintro c m rfl
  exact absurd (plain.2 _ m) (by decide)

theorem isWrittenName_prefixed {p s : String} (hp : IsPlainName p) (hs : IsPlainName s) :
    IsWrittenName (p ++ ":" ++ s) := by
  refine ⟨fun e => ?_, fun c m => ?_⟩
  · have := congrArg String.toList e
    simp at this
  · simp only [String.toList_append, List.mem_append] at m
    rcases m with (m | m) | m
    · exact .inr (hp.2 c m)
    · exact .inl (List.mem_singleton.1 m)
    · exact .inr (hs.2 c m)

theorem QName.IsBindable.written {q : QName} (bindable : q.IsBindable) :
    IsWrittenName q.written := by
  unfold QName.written
  cases h : q.nsPrefix with
  | none => exact bindable.name.written
  | some p => exact isWrittenName_prefixed (bindable.nsPrefix p h) bindable.name

/-- What a character of a written name is not. -/
structure IsInert (c : Char) : Prop where
  space : isSpace (some c) = false
  lt : c ≠ '<'
  gt : c ≠ '>'
  slash : c ≠ '/'
  bang : c ≠ '!'
  question : c ≠ '?'
  equals : c ≠ '='
  quote : c ≠ '"'
  apostrophe : c ≠ '\''

theorem isInert_of_name {c : Char} (h : c = ':' ∨ isNameChar c) : IsInert c := by
  rcases h with rfl | h
  · constructor <;> decide
  · simp only [isNameChar, Bool.and_eq_true, Bool.not_eq_true', decide_eq_true_eq,
      List.mem_cons, List.not_mem_nil, or_false, not_or] at h
    obtain ⟨space, lt, gt, -, apostrophe, quote, slash, equals, -, bang, question⟩ := h
    exact ⟨space, lt, gt, slash, bang, question, equals, quote, apostrophe⟩

theorem IsWrittenName.inert {s : String} (written : IsWrittenName s) : ∀ c ∈ s.toList, IsInert c :=
  fun c m => isInert_of_name (written.2 c m)

theorem IsWrittenName.cons {s : String} (written : IsWrittenName s) :
    ∃ c cs, s.toList = c :: cs := by
  cases h : s.toList with
  | nil => exact absurd (String.toList_eq_nil_iff.1 h) written.1
  | cons c cs => exact ⟨c, cs, rfl⟩

/-- A name that ends where its tag goes on, and with which no other markup begins. -/
structure IsTagName (s : String) : Prop where
  blankFree : ∀ c ∈ s.toList, isSpace (some c) = false
  head : ∀ c ∈ s.toList.head?, c ≠ '!' ∧ c ≠ '?' ∧ c ≠ '/'

/-- A key that ends at the equals sign behind it. -/
structure IsKey (s : String) : Prop where
  nonempty : s ≠ ""
  blankFree : ∀ c ∈ s.toList, isSpace (some c) = false
  equals : ∀ c ∈ s.toList.tail, c ≠ '='

theorem IsWrittenName.isTagName {s : String} (written : IsWrittenName s) : IsTagName s where
  blankFree c m := (written.inert c m).space
  head c m :=
    have inert := written.inert c (List.mem_of_mem_head? m)
    ⟨inert.bang, inert.question, inert.slash⟩

theorem IsWrittenName.isKey {s : String} (written : IsWrittenName s) : IsKey s where
  nonempty := written.1
  blankFree c m := (written.inert c m).space
  equals c m := (written.inert c (List.mem_of_mem_tail m)).equals

theorem IsKey.cons {s : String} (key : IsKey s) : ∃ c cs, s.toList = c :: cs := by
  cases h : s.toList with
  | nil => exact absurd (String.toList_eq_nil_iff.1 h) key.nonempty
  | cons c cs => exact ⟨c, cs, rfl⟩

/-! ### Lists up to a character -/

theorem takeWhile_append_stop {α : Type} {p : α → Bool} {l : List α} {x : α} (rest : List α)
    (all : ∀ a ∈ l, p a) (stop : p x = false) : (l ++ x :: rest).takeWhile p = l := by
  rw [List.takeWhile_append_of_pos all, List.takeWhile_cons, stop]
  simp

theorem dropWhile_append_stop {α : Type} {p : α → Bool} {l : List α} {x : α} (rest : List α)
    (all : ∀ a ∈ l, p a) (stop : p x = false) : (l ++ x :: rest).dropWhile p = x :: rest := by
  rw [List.dropWhile_append_of_pos all, List.dropWhile_cons, stop]
  simp

theorem forall_mem_map_some {cs : List Char} {p : Option Char → Bool}
    (all : ∀ c ∈ cs, p (some c)) : ∀ a ∈ cs.map some, p a := by
  intro a m
  obtain ⟨c, present, rfl⟩ := List.mem_map.1 m
  exact all c present

/-! ### The end of a tag -/

/-- Characters among which no tag ends, and behind which quotes are closed. -/
def Passes (cs : List Char) : Prop :=
  ∀ rest : Raw, Token.cutTag? none (cs.map some ++ rest) =
    (Token.cutTag? none rest).map fun (before, after) => (cs.map some ++ before, after)

theorem passes_nil : Passes [] := by
  intro rest
  simp

theorem Passes.append {as bs : List Char} (ha : Passes as) (hb : Passes bs) : Passes (as ++ bs) := by
  intro rest
  rw [List.map_append, List.append_assoc, ha, hb, Option.map_map]
  simp [Function.comp_def]

theorem Passes.flatMap {α : Type} {f : α → List Char} {as : List α} (all : ∀ a ∈ as, Passes (f a)) :
    Passes (as.flatMap f) := by
  induction as with
  | nil => exact passes_nil
  | cons a as ih =>
    rw [List.flatMap_cons]
    exact (all a List.mem_cons_self).append (ih fun b m => all b (List.mem_cons_of_mem _ m))

theorem passes_char {c : Char} (gt : c ≠ '>') (quote : c ≠ '"') (apostrophe : c ≠ '\'') :
    Passes [c] := by
  intro rest
  simp [Token.cutTag?, gt, quote, apostrophe]

theorem passes_of_chars {cs : List Char} (all : ∀ c ∈ cs, c ≠ '>' ∧ c ≠ '"' ∧ c ≠ '\'') :
    Passes cs := by
  induction cs with
  | nil => exact passes_nil
  | cons c cs ih =>
    obtain ⟨gt, quote, apostrophe⟩ := all c List.mem_cons_self
    exact (passes_char gt quote apostrophe).append (ih fun d m => all d (List.mem_cons_of_mem _ m))

theorem cutTag?_quoted {cs : List Char} (none_inside : ∀ c ∈ cs, c ≠ '"') (rest : Raw) :
    Token.cutTag? (some '"') (cs.map some ++ some '"' :: rest) =
      (Token.cutTag? none rest).map fun (before, after) =>
        (cs.map some ++ some '"' :: before, after) := by
  induction cs with
  | nil => simp [Token.cutTag?]
  | cons c cs ih =>
    have ne := none_inside c List.mem_cons_self
    rw [List.map_cons, List.cons_append, Token.cutTag?]
    simp only [Option.some.injEq, ne, if_false]
    rw [ih fun d m => none_inside d (List.mem_cons_of_mem _ m), Option.map_map]
    rfl

theorem passes_quoted {cs : List Char} (none_inside : ∀ c ∈ cs, c ≠ '"') :
    Passes ('"' :: cs ++ ['"']) := by
  intro rest
  rw [List.cons_append, List.map_cons, List.cons_append, Token.cutTag?]
  simp only [Option.some.injEq, show ¬ '"' = '>' by decide, if_false, true_or, if_true,
    List.map_append, List.map_cons, List.map_nil, List.append_assoc, List.cons_append,
    List.nil_append]
  rw [cutTag?_quoted none_inside, Option.map_map]
  rfl

/-- Quotes come in pairs, and no `>` stands outside of them, from inside a quote when it is given. -/
def closesQuotes : Option Char → List Char → Bool
  | quote, [] => quote.isNone
  | none, c :: cs => c != '>' && closesQuotes (if c = '"' ∨ c = '\'' then some c else none) cs
  | some q, c :: cs => closesQuotes (if c = q then none else some q) cs

theorem cutTag?_of_closesQuotes {quote : Option Char} {cs : List Char}
    (closes : closesQuotes quote cs) (rest : Raw) :
    Token.cutTag? quote (cs.map some ++ rest) =
      (Token.cutTag? none rest).map fun (before, after) => (cs.map some ++ before, after) := by
  induction cs generalizing quote with
  | nil =>
    obtain rfl : quote = none := Option.isNone_iff_eq_none.1 closes
    simp
  | cons c cs ih =>
    cases quote with
    | none =>
      simp only [closesQuotes, Bool.and_eq_true, bne_iff_ne] at closes
      have inner := ih closes.2
      rw [List.map_cons, List.cons_append, Token.cutTag?, if_neg (by simp [closes.1])]
      simp only [Option.some.injEq]
      rw [inner, Option.map_map]
      rfl
    | some q =>
      rw [closesQuotes] at closes
      have inner := ih closes
      rw [List.map_cons, List.cons_append, Token.cutTag?]
      simp only [Option.some.injEq]
      rw [inner, Option.map_map]
      rfl

theorem passes_of_closesQuotes {cs : List Char} (closes : closesQuotes none cs) : Passes cs :=
  cutTag?_of_closesQuotes closes

theorem entityOf?_chars {c : Char} {name : String} (known : entityOf? c = some name) :
    ∀ d ∈ name.toList, d ∉ ['"', ';', '&', '<'] := by
  have chars : name.toList.all fun d => d ∉ ['"', ';', '&', '<'] := by
    unfold entityOf? at known
    split at known
    case h_6 => cases known
    all_goals
      injection known with known
      subst known
      decide
  simpa using chars

theorem escapeChar_ne_quote (c : Char) : ∀ d ∈ escapeChar c, d ≠ '"' := by
  unfold escapeChar
  split
  · next name known =>
    rintro d m rfl
    rcases List.mem_append.1 (List.mem_cons.1 m |>.resolve_left (by decide)) with inName | isEnd
    · exact entityOf?_chars known _ inName (by decide)
    · exact absurd (List.mem_singleton.1 isEnd) (by decide)
  · next h =>
    rintro d m rfl
    exact (entityOf?_eq_none h).2.2.2.2 (List.mem_singleton.1 m).symm

theorem escapeValue_ne_quote (cs : List Char) : ∀ c ∈ escapeValue cs, c ≠ '"' := by
  intro c m
  obtain ⟨d, -, m⟩ := List.mem_flatMap.1 m
  exact escapeChar_ne_quote d c m

theorem IsWrittenName.passes {s : String} (written : IsWrittenName s) : Passes s.toList :=
  passes_of_chars fun c m =>
    have inert := written.inert c m
    ⟨inert.gt, inert.quote, inert.apostrophe⟩

theorem IsWrittenName.noSlash {s : String} (written : IsWrittenName s) :
    s.toList.getLast? ≠ some '/' :=
  fun last => (written.inert _ (List.mem_of_getLast? last)).slash rfl

theorem passes_writeAttribute {name : String} (closed : Passes name.toList) (value : String) :
    Passes (writeAttribute name value) := by
  have parts : writeAttribute name value =
      [' '] ++ name.toList ++ ['='] ++ ('"' :: escapeValue value.toList ++ ['"']) := by
    simp [writeAttribute]
  rw [parts]
  refine Passes.append (Passes.append (Passes.append ?_ closed) ?_)
    (passes_quoted (escapeValue_ne_quote _))
  · exact passes_char (by decide) (by decide) (by decide)
  · exact passes_char (by decide) (by decide) (by decide)

theorem cutTag?_of_passes {cs : List Char} (passes : Passes cs) (rest : Raw) :
    Token.cutTag? none (cs.map some ++ some '>' :: rest) = some (cs.map some, rest) := by
  rw [passes, Token.cutTag?, if_pos rfl, Option.map_some]
  simp

/-! ### Written tags -/

/-- The keys and values that are written on a tag. -/
def Tag.pairs (t : Tag) (ds : Declarations) : List (String × String) :=
  ds.map (fun d => (if d.1 = "" then "xmlns" else "xmlns:" ++ d.1, d.2)) ++
    t.attributes.map fun a => (a.written, a.value)

def writePairs (pairs : List (String × String)) : List Char :=
  pairs.flatMap fun p => writeAttribute p.1 p.2

theorem Tag.write_eq (t : Tag) (ds : Declarations) :
    t.write ds = '<' :: (t.written.toList ++ writePairs (t.pairs ds)) := by
  simp only [Tag.write, Tag.pairs, writePairs, List.flatMap_append, List.flatMap_map,
    List.cons_append, List.append_assoc]
  rfl

theorem passes_writePairs {pairs : List (String × String)}
    (closed : ∀ p ∈ pairs, Passes p.1.toList) : Passes (writePairs pairs) :=
  Passes.flatMap fun p m => passes_writeAttribute (closed p m) p.2

/-- Nothing stands behind the name, or a space does. -/
theorem writePairs_head (pairs : List (String × String)) :
    writePairs pairs = [] ∨ ∃ cs, writePairs pairs = ' ' :: cs := by
  cases pairs with
  | nil => exact .inl rfl
  | cons p pairs => exact .inr ⟨_, rfl⟩

section
variable {name : String} {pairs : List (String × String)}

theorem takeWhile_name (blankFree : ∀ c ∈ name.toList, isSpace (some c) = false) :
    ((name.toList ++ writePairs pairs).map some).takeWhile (!isSpace ·) = raw name := by
  have all : ∀ a ∈ name.toList.map some, (!isSpace a) = true :=
    forall_mem_map_some (p := (!isSpace ·)) fun c m => by simp [blankFree c m]
  rcases writePairs_head pairs with h | ⟨cs, h⟩
  · rw [h, List.append_nil]
    exact List.takeWhile_eq_self_iff.2 all
  · rw [h, List.map_append, List.map_cons, takeWhile_append_stop _ all rfl, raw]

theorem dropWhile_name (blankFree : ∀ c ∈ name.toList, isSpace (some c) = false) :
    ((name.toList ++ writePairs pairs).map some).dropWhile (!isSpace ·) =
      (writePairs pairs).map some := by
  have all : ∀ a ∈ name.toList.map some, (!isSpace a) = true :=
    forall_mem_map_some (p := (!isSpace ·)) fun c m => by simp [blankFree c m]
  rw [List.map_append]
  rcases writePairs_head pairs with h | ⟨cs, h⟩
  · rw [h, List.map_nil, List.append_nil]
    exact List.dropWhile_eq_nil_iff.2 all
  · rw [h, List.map_cons, dropWhile_append_stop _ all rfl]

/-- No value ends in a slash. -/
theorem getLast?_content (noSlash : pairs = [] → name.toList.getLast? ≠ some '/') :
    ((name.toList ++ writePairs pairs).map some).getLast? ≠ some (some '/') := by
  rw [List.getLast?_map]
  intro e
  obtain ⟨c, last, rfl⟩ : ∃ c, (name.toList ++ writePairs pairs).getLast? = some c ∧ c = '/' := by
    simpa using e
  rcases List.eq_nil_or_concat pairs with rfl | ⟨front, p, rfl⟩
  · rw [writePairs, List.flatMap_nil, List.append_nil] at last
    exact noSlash rfl last
  · have ends : ∃ cs, name.toList ++ writePairs (front.concat p) = cs ++ ['"'] :=
      ⟨name.toList ++ (writePairs front ++
        (' ' :: p.1.toList ++ "=\"".toList ++ escapeValue p.2.toList)), by
          simp [writePairs, writeAttribute]⟩
    obtain ⟨cs, ends⟩ := ends
    rw [ends] at last
    simp at last

theorem ofTag_start (blankFree : ∀ c ∈ name.toList, isSpace (some c) = false)
    (noSlash : pairs = [] → name.toList.getLast? ≠ some '/') :
    Token.ofTag ((name.toList ++ writePairs pairs).map some) =
      .startTag (raw name) ((writePairs pairs).map some) := by
  rw [Token.ofTag, if_neg (getLast?_content noSlash), takeWhile_name blankFree,
    dropWhile_name blankFree]

theorem ofTag_empty (blankFree : ∀ c ∈ name.toList, isSpace (some c) = false) :
    Token.ofTag ((name.toList ++ writePairs pairs).map some ++ [some '/']) =
      .emptyTag (raw name) ((writePairs pairs).map some) := by
  rw [Token.ofTag, if_pos (by simp)]
  simp only [List.dropLast_concat]
  rw [takeWhile_name blankFree, dropWhile_name blankFree]

theorem next?_markup (input : Raw) : Token.next? (some '<' :: input) = Token.markup? input :=
  rfl

/-- A tag that begins like no other markup runs to where it is cut. -/
theorem markup?_of_head {input : Raw}
    (head : ∀ c, input.head? = some (some c) → c ≠ '!' ∧ c ≠ '?' ∧ c ≠ '/') :
    Token.markup? input =
      (Token.cutTag? none input).map fun (content, rest) => (Token.ofTag content, rest) := by
  rw [Token.markup?.eq_def]
  split
  · rfl
  · exact absurd rfl (head _ rfl).1
  · exact absurd rfl (head _ rfl).2.1
  · exact absurd rfl (head _ rfl).2.2
  · rfl

theorem markup?_content {content : List Char} (closed : Passes content)
    (head : ∀ c ∈ content.head?, c ≠ '!' ∧ c ≠ '?' ∧ c ≠ '/') (rest : Raw) :
    Token.markup? (content.map some ++ some '>' :: rest) =
      some (Token.ofTag (content.map some), rest) := by
  rw [markup?_of_head, cutTag?_of_passes closed, Option.map_some]
  intro c first
  cases content with
  | nil =>
    rw [← Option.some.inj (Option.some.inj first)]
    decide
  | cons d ds => exact head c (congrArg _ (Option.some.inj (Option.some.inj first)))

theorem passes_content (closed : Passes name.toList) (keys : ∀ p ∈ pairs, Passes p.1.toList) :
    Passes (name.toList ++ writePairs pairs) :=
  closed.append (passes_writePairs keys)

variable (pairs) in
/-- A name that no other markup begins with stands first, or a space does, or nothing. -/
theorem head_content (isName : IsTagName name) (rest : List Char)
    (alone : pairs = [] → name = "" → ∀ c ∈ rest.head?, c ≠ '!' ∧ c ≠ '?' ∧ c ≠ '/') :
    ∀ c ∈ (name.toList ++ writePairs pairs ++ rest).head?, c ≠ '!' ∧ c ≠ '?' ∧ c ≠ '/' := by
  intro c m
  cases h : name.toList with
  | cons d ds =>
    rw [h] at m
    exact isName.head c (by rw [h]; exact m)
  | nil =>
    rw [h, List.nil_append] at m
    cases pairs with
    | nil => exact alone rfl (String.toList_eq_nil_iff.1 h) c m
    | cons p pairs =>
      obtain rfl : ' ' = c := Option.some.inj m
      decide

theorem next?_startTag (isName : IsTagName name) (closed : Passes (name.toList ++ writePairs pairs))
    (noSlash : pairs = [] → name.toList.getLast? ≠ some '/') (rest : Raw) :
    Token.next? (('<' :: (name.toList ++ writePairs pairs)).map some ++ some '>' :: rest) =
      some (.startTag (raw name) ((writePairs pairs).map some), rest) := by
  have head := head_content pairs isName [] fun _ _ => nofun
  rw [List.append_nil] at head
  rw [List.map_cons, List.cons_append, next?_markup, markup?_content closed head,
    ofTag_start isName.blankFree noSlash]

theorem next?_emptyTag (isName : IsTagName name) (closed : Passes (name.toList ++ writePairs pairs))
    (nonempty : pairs = [] → name ≠ "") (rest : Raw) :
    Token.next? (('<' :: (name.toList ++ writePairs pairs)).map some ++
        some '/' :: some '>' :: rest) =
      some (.emptyTag (raw name) ((writePairs pairs).map some), rest) := by
  have passes := closed.append (passes_char (c := '/') (by decide) (by decide) (by decide))
  have head := head_content pairs isName ['/'] fun bare empty =>
    absurd empty (nonempty bare)
  have content := markup?_content passes head rest
  rw [List.map_append, List.append_assoc] at content
  rw [List.map_cons, List.cons_append, next?_markup]
  refine content.trans ?_
  rw [List.map_singleton, ofTag_empty isName.blankFree]

end

section
variable {name : String} (blankFree : ∀ c ∈ name.toList, isSpace (some c) = false)
include blankFree

theorem endName_raw : Token.endName (raw name) = raw name := by
  have all : ∀ a ∈ (raw name).reverse, isSpace a = false := by
    intro a m
    obtain ⟨d, present, rfl⟩ := List.mem_map.1 (List.mem_reverse.1 m)
    exact blankFree d present
  rw [Token.endName]
  split
  · rfl
  · cases e : (raw name).reverse with
    | nil => simpa using e.symm
    | cons a as =>
      rw [List.dropWhile_cons, all a (by rw [e]; exact List.mem_cons_self)]
      simp [← e]

theorem next?_endTag (closed : Passes name.toList) (rest : Raw) :
    Token.next? (('<' :: '/' :: name.toList).map some ++ some '>' :: rest) =
      some (.endTag (raw name), rest) := by
  change (Token.cutTag? none (name.toList.map some ++ some '>' :: rest)).map _ = _
  rw [cutTag?_of_passes closed, Option.map_some]
  exact congrArg (fun n => some (Token.endTag n, rest)) (endName_raw blankFree)

end

/-! ### Written attributes -/

namespace Attributes

theorem text_raw (cs : List Char) : text (cs.map some) = .ok (String.ofList cs) := by
  rw [text, Text.text?_map_some]

theorem value_escapeValue (s : String) : value ((escapeValue s.toList).map some) = .ok s := by
  rw [value, text_raw]
  simp only [ok_bind, String.toList_ofList, unescape_escapeValue, String.ofList_toList]

theorem next?_written {c : Char} {key : List Char}
    (inside : ∀ d ∈ key, d ≠ '=' ∧ isSpace (some d) = false) (value : String) (rest : Raw) :
    next? (some c) ((key ++ '=' :: '"' :: (escapeValue value.toList ++ ['"'])).map some ++ rest) =
      some ((c :: key).map some, (escapeValue value.toList).map some, rest) := by
  have inKey : ∀ a ∈ key.map some, (a != some '=' && !isSpace a) = true :=
    forall_mem_map_some (p := fun a => a != some '=' && !isSpace a) fun d m => by
      simp [inside d m]
  have inValue : ∀ a ∈ (escapeValue value.toList).map some, (a != some '"') = true :=
    forall_mem_map_some (p := (· != some '"')) fun d m => by simp [escapeValue_ne_quote _ d m]
  simp only [List.map_append, List.map_cons, List.map_nil, List.append_assoc, List.cons_append,
    List.nil_append, next?]
  rw [takeWhile_append_stop _ inKey rfl, dropWhile_append_stop _ inKey rfl]
  simp only [List.dropWhile_cons, show isSpace (some '=') = false from rfl,
    show isSpace (some '"') = false from rfl, Bool.false_eq_true, if_false, true_or, if_true]
  rw [takeWhile_append_stop _ inValue rfl, dropWhile_append_stop _ inValue rfl]

/-- One written attribute is read, and the others after it, unless its key came before. -/
theorem list_cons {key : String} (isKey : IsKey key) (value : String) (seen : List Raw)
    (rest : Raw) :
    list seen ((writeAttribute key value).map some ++ rest) =
      if raw key ∈ seen then .error (.attribute "a key comes twice")
      else (list (raw key :: seen) rest).map ((key, value) :: ·) := by
  obtain ⟨c, cs, h⟩ := isKey.cons
  obtain ⟨-, blankFree, equals⟩ := isKey
  rw [h] at blankFree equals
  rw [List.tail_cons] at equals
  have input : ((writeAttribute key value).map some ++ rest).dropWhile isSpace =
      some c :: ((cs ++ '=' :: '"' :: (escapeValue value.toList ++ ['"'])).map some ++ rest) := by
    have space : isSpace (some c) = false := blankFree c List.mem_cons_self
    simp [writeAttribute, h, space, show isSpace (some ' ') = true from rfl]
  have first := next?_written (c := c)
    (fun d m => ⟨equals d m, blankFree d (List.mem_cons_of_mem _ m)⟩) value rest
  have key_eq : (c :: cs).map some = raw key := by rw [raw, h]
  rw [list.eq_def]
  split
  · next e => simp [input] at e
  · next c' rest' e =>
    rw [input] at e
    injection e with e e'
    subst e e'
    split
    · next e =>
      rw [first] at e
      cases e
    · next k v after e =>
      rw [first] at e
      simp only [Option.some.injEq, Prod.mk.injEq] at e
      obtain ⟨rfl, rfl, rfl⟩ := e
      rw [key_eq]
      refine if_congr Iff.rfl rfl ?_
      rw [raw, text_raw, value_escapeValue, String.ofList_toList]
      cases list _ rest <;> rfl

theorem list_cons_ok {key : String} (isKey : IsKey key) {value : String} {seen : List Raw}
    {rest : Raw} {read : List (String × String)}
    (reads : list seen ((writeAttribute key value).map some ++ rest) = .ok read) :
    raw key ∉ seen ∧ ∃ others, list (raw key :: seen) rest = .ok others ∧
      read = (key, value) :: others := by
  rw [list_cons isKey] at reads
  split at reads
  · cases reads
  · next fresh =>
    cases later : list (raw key :: seen) rest with
    | error reason =>
      rw [later] at reads
      cases reads
    | ok others =>
      rw [later] at reads
      exact ⟨fresh, others, rfl, (Except.ok.inj reads).symm⟩

theorem list_blank {seen : List Raw} {input : Raw} (blank : input.dropWhile isSpace = []) :
    list seen input = .ok [] := by
  rw [list.eq_def]
  split
  · rfl
  · next begins =>
    rw [blank] at begins
    cases begins

theorem list_nil (seen : List Raw) : list seen [] = .ok [] :=
  list_blank rfl

theorem raw_injective {s t : String} (same : raw s = raw t) : s = t :=
  String.toList_injective ((List.map_inj_right fun _ _ => Option.some.inj).1 same)

theorem list_writePairs {pairs : List (String × String)} {seen : List Raw}
    (keys : ∀ p ∈ pairs, IsKey p.1) (nodup : (pairs.map Prod.fst).Nodup)
    (fresh : ∀ p ∈ pairs, raw p.1 ∉ seen) :
    list seen ((writePairs pairs).map some) = .ok pairs := by
  induction pairs generalizing seen with
  | nil => exact list_nil seen
  | cons p pairs ih =>
    rw [List.map_cons, List.nodup_cons] at nodup
    have later : ∀ q ∈ pairs, raw q.1 ∉ raw p.1 :: seen := by
      intro q m
      rw [List.mem_cons, not_or]
      refine ⟨fun e => nodup.1 ?_, fresh q (List.mem_cons_of_mem _ m)⟩
      rw [← raw_injective e]
      exact List.mem_map_of_mem m
    rw [writePairs, List.flatMap_cons, List.map_append, list_cons (keys p List.mem_cons_self),
      if_neg (fresh p List.mem_cons_self), ← writePairs,
      ih (fun q m => keys q (List.mem_cons_of_mem _ m)) nodup.2 later]
    rfl

theorem nodup_of_list_writePairs {pairs read : List (String × String)} {seen : List Raw}
    (keys : ∀ p ∈ pairs, IsKey p.1) (reads : list seen ((writePairs pairs).map some) = .ok read) :
    (pairs.map Prod.fst).Nodup ∧ ∀ p ∈ pairs, raw p.1 ∉ seen := by
  induction pairs generalizing seen read with
  | nil => exact ⟨.nil, nofun⟩
  | cons p pairs ih =>
    rw [writePairs, List.flatMap_cons, List.map_append, ← writePairs] at reads
    obtain ⟨fresh, others, later, -⟩ := list_cons_ok (keys p List.mem_cons_self) reads
    obtain ⟨nodup, apart⟩ := ih (fun q m => keys q (List.mem_cons_of_mem _ m)) later
    refine ⟨List.nodup_cons.2 ⟨fun m => ?_, nodup⟩, List.forall_mem_cons.2 ⟨fresh, fun q m => ?_⟩⟩
    · obtain ⟨q, mq, same⟩ := List.mem_map.1 m
      exact apart q mq (by rw [same]; exact List.mem_cons_self)
    · exact fun seenBefore => apart q m (List.mem_cons_of_mem _ seenBefore)

end Attributes

end XRoad.Xml
