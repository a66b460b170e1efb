import XRoad.Text.Utf8

/-!
# Tokens

A document as tags, texts and references. Markup is found before any name or text is looked at, so
a token keeps what it was made of as it was read. Each end tag closes the innermost open start tag;
the list ends early, in `malformed`, where markup does not end or does not fit.
-/

namespace XRoad.Xml

open Text (Raw)

inductive Token where
  /-- A start tag: its name, and what follows the name. -/
  | startTag (name attributes : Raw)
  | emptyTag (name attributes : Raw)
  | endTag (name : Raw)
  | text (content : Raw)
  | cdata (content : Raw)
  /-- A reference: what stands between the ampersand and the semicolon. -/
  | reference (name : Raw)
  /-- A comment, a processing instruction, an XML declaration or a document type. -/
  | aside
  | malformed (reason : String)
  deriving DecidableEq

namespace Token

def isSpace : Option Char → Bool
  | some ' ' | some '\t' | some '\n' | some '\r' => true
  | _ => false

/-- What stands before the first occurrence of a mark, and what stands behind it. -/
def cut? (mark : Raw) : Raw → Option (Raw × Raw)
  | [] => none
  | c :: rest =>
    if mark.isPrefixOf (c :: rest) then some ([], (c :: rest).drop mark.length)
    else (cut? mark rest).map fun (before, after) => (c :: before, after)

/-- What stands before the next `>` outside quotes, and what stands behind it. -/
def cutTag? : (quote : Option Char) → Raw → Option (Raw × Raw)
  | _, [] => none
  | none, c :: rest =>
    if c = some '>' then some ([], rest)
    else
      let quote := if c = some '"' ∨ c = some '\'' then c else none
      (cutTag? quote rest).map fun (before, after) => (c :: before, after)
  | some q, c :: rest =>
    let quote := if c = some q then none else some q
    (cutTag? quote rest).map fun (before, after) => (c :: before, after)

/-- What stands before the `>` that closes as many `<` as are open, and what stands behind it. -/
def cutBalanced? : (opened : Nat) → Raw → Option (Raw × Raw)
  | _, [] => none
  | 0, some '>' :: rest => some ([], rest)
  | n + 1, some '>' :: rest =>
    (cutBalanced? n rest).map fun (before, after) => (some '>' :: before, after)
  | n, c :: rest =>
    (cutBalanced? (if c = some '<' then n + 1 else n) rest).map fun (before, after) => (c :: before, after)

def raw (s : String) : Raw :=
  s.toList.map some

def lowerAscii (r : Raw) : Raw :=
  r.map (·.map Char.toLower)

def ofTag (content : Raw) : Token :=
  if content.getLast? = some (some '/') then
    let content := content.dropLast
    .emptyTag (content.takeWhile (!isSpace ·)) (content.dropWhile (!isSpace ·))
  else .startTag (content.takeWhile (!isSpace ·)) (content.dropWhile (!isSpace ·))

/-- The name of an end tag, from what stands between `</` and `>`. White space behind a name is no
part of it. -/
def endName (content : Raw) : Raw :=
  if content.all isSpace then content else (content.reverse.dropWhile isSpace).reverse

/-- A document type, from what stands behind `<!`: it needs a name. -/
def documentType? (content : Raw) : Option Raw := do
  let (declaration, rest) ← cutBalanced? 0 content
  if lowerAscii (declaration.take 7) = raw "doctype" ∧ !(declaration.drop 7).all isSpace then some rest
  else none

def declaration? (input : Raw) : Option (Token × Raw) :=
  if (raw "--").isPrefixOf input then
    (cut? (raw "-->") (input.drop 2)).map fun (_, rest) => (.aside, rest)
  else if (raw "[CDATA[").isPrefixOf input then
    (cut? (raw "]]>") (input.drop 7)).map fun (content, rest) => (.cdata content, rest)
  else if lowerAscii (input.take 1) = raw "d" then
    (documentType? input).map fun rest => (.aside, rest)
  else none

def instruction? (input : Raw) : Option (Token × Raw) :=
  if input.head? = some (some '>') then none
  else (cut? (raw "?>") input).map fun (_, rest) => (.aside, rest)

def markup? : Raw → Option (Token × Raw)
  | [] => none
  | some '!' :: rest => declaration? rest
  | some '?' :: rest => instruction? rest
  | some '/' :: rest => (cutTag? none rest).map fun (content, rest) => (.endTag (endName content), rest)
  | input => (cutTag? none input).map fun (content, rest) => (ofTag content, rest)

def reference? (input : Raw) : Option (Token × Raw) :=
  let ends (c : Option Char) : Bool := c = some ';' ∨ c = some '&' ∨ c = some '<'
  match input.dropWhile (!ends ·) with
  | some ';' :: rest => some (.reference (input.takeWhile (!ends ·)), rest)
  | _ => none

def next? : Raw → Option (Token × Raw)
  | some '<' :: rest => markup? rest
  | some '&' :: rest => reference? rest
  | input =>
    let isText (c : Option Char) : Bool := c != some '<' && c != some '&'
    some (.text (input.takeWhile isText), input.dropWhile isText)

/-! ### Each token takes something from the input -/

theorem cut?_length {mark input before after : Raw} (needed : mark ≠ [])
    (h : cut? mark input = some (before, after)) : after.length < input.length := by
  induction input generalizing before with
  | nil => simp [cut?] at h
  | cons c rest ih =>
    rw [cut?] at h
    split at h
    · simp only [Option.some.injEq, Prod.mk.injEq] at h
      have := List.length_pos_iff.2 needed
      rw [← h.2, List.length_drop, List.length_cons]
      omega
    · simp only [Option.map_eq_some_iff, Prod.mk.injEq, Prod.exists] at h
      obtain ⟨b, a, h, -, rfl⟩ := h
      exact Nat.lt_succ_of_lt (ih h)

theorem cutTag?_length {quote : Option Char} {input before after : Raw}
    (h : cutTag? quote input = some (before, after)) : after.length < input.length := by
  induction input generalizing quote before with
  | nil => simp [cutTag?] at h
  | cons c rest ih =>
    cases quote with
    | none =>
      simp only [cutTag?] at h
      split at h
      · simp only [Option.some.injEq, Prod.mk.injEq] at h
        simp [← h.2]
      · simp only [Option.map_eq_some_iff, Prod.mk.injEq, Prod.exists] at h
        obtain ⟨b, a, h, -, rfl⟩ := h
        exact Nat.lt_succ_of_lt (ih h)
    | some q =>
      simp only [cutTag?, Option.map_eq_some_iff, Prod.mk.injEq, Prod.exists] at h
      obtain ⟨b, a, h, -, rfl⟩ := h
      exact Nat.lt_succ_of_lt (ih h)

theorem cutBalanced?_length {opened : Nat} {input before after : Raw}
    (h : cutBalanced? opened input = some (before, after)) : after.length < input.length := by
  fun_induction cutBalanced? opened input generalizing before with
  | case1 => simp at h
  | case2 rest =>
    simp only [Option.some.injEq, Prod.mk.injEq] at h
    simp [← h.2]
  | case3 rest n ih =>
    simp only [Option.map_eq_some_iff, Prod.mk.injEq, Prod.exists] at h
    obtain ⟨b, a, h, -, rfl⟩ := h
    exact Nat.lt_succ_of_lt (ih h)
  | case4 n c rest _ _ ih =>
    simp only [Option.map_eq_some_iff, Prod.mk.injEq, Prod.exists] at h
    obtain ⟨b, a, h, -, rfl⟩ := h
    exact Nat.lt_succ_of_lt (ih h)

theorem declaration?_length {input rest : Raw} {token : Token}
    (h : declaration? input = some (token, rest)) : rest.length < input.length := by
  unfold declaration? at h
  split at h
  · simp only [Option.map_eq_some_iff, Prod.mk.injEq, Prod.exists] at h
    obtain ⟨b, a, h, -, rfl⟩ := h
    have := cut?_length (by decide) h
    rw [List.length_drop] at this
    omega
  split at h
  · simp only [Option.map_eq_some_iff, Prod.mk.injEq, Prod.exists] at h
    obtain ⟨b, a, h, -, rfl⟩ := h
    have := cut?_length (by decide) h
    rw [List.length_drop] at this
    omega
  split at h
  · simp only [Option.map_eq_some_iff, Prod.mk.injEq] at h
    obtain ⟨a, h, -, rfl⟩ := h
    simp only [documentType?, Option.bind_eq_bind, Option.bind_eq_some_iff, Prod.exists] at h
    obtain ⟨d, r, h, h'⟩ := h
    split at h'
    · injection h' with h'
      exact h' ▸ cutBalanced?_length h
    · simp at h'
  · simp at h

theorem markup?_length {input rest : Raw} {token : Token}
    (h : markup? input = some (token, rest)) : rest.length < input.length := by
  unfold markup? at h
  split at h
  · simp at h
  · exact Nat.lt_succ_of_lt (declaration?_length h)
  · unfold instruction? at h
    split at h
    · simp at h
    · simp only [Option.map_eq_some_iff, Prod.mk.injEq, Prod.exists] at h
      obtain ⟨b, a, h, -, rfl⟩ := h
      exact Nat.lt_succ_of_lt (cut?_length (by decide) h)
  · simp only [Option.map_eq_some_iff, Prod.mk.injEq, Prod.exists] at h
    obtain ⟨b, a, h, -, rfl⟩ := h
    exact Nat.lt_succ_of_lt (cutTag?_length h)
  · simp only [Option.map_eq_some_iff, Prod.mk.injEq, Prod.exists] at h
    obtain ⟨b, a, h, -, rfl⟩ := h
    exact cutTag?_length h

theorem next?_length {c : Option Char} {input rest : Raw} {token : Token}
    (h : next? (c :: input) = some (token, rest)) : rest.length < (c :: input).length := by
  unfold next? at h
  split at h
  · next heq =>
    injection heq with _ heq
    exact Nat.lt_succ_of_lt (heq ▸ markup?_length h)
  · next heq =>
    injection heq with _ heq
    subst heq
    unfold reference? at h
    simp only at h
    split at h
    · next heq =>
      simp only [Option.some.injEq, Prod.mk.injEq] at h
      have := (List.dropWhile_suffix (fun c => !decide (c = some ';' ∨ c = some '&' ∨ c = some '<'))
        (l := input)).length_le
      simp only [Bool.decide_or] at this heq
      rw [heq] at this
      rw [← h.2, List.length_cons]
      simp only [List.length_cons] at this
      omega
    · simp at h
  · next notTag notReference =>
    simp only [Option.some.injEq, Prod.mk.injEq] at h
    rw [← h.2, List.dropWhile_cons_of_pos]
    · exact Nat.lt_succ_of_le (List.dropWhile_suffix _).length_le
    · simp only [Bool.and_eq_true, bne_iff_ne, ne_eq]
      exact ⟨fun e => notTag _ (by rw [e]), fun e => notReference _ (by rw [e])⟩

/-! ### The tokens of a document -/

/-- The names of the open start tags after a token, innermost first, unless the token closes a tag
that is not the innermost. -/
def opened? (opened : List Raw) : Token → Option (List Raw)
  | .startTag name _ => some (name :: opened)
  | .endTag name => if opened.head? = some name then some opened.tail else none
  | _ => some opened

def list (opened : List Raw) (input : Raw) : List Token :=
  match input with
  | [] => []
  | c :: rest =>
    match _h : next? (c :: rest) with
    | none => [.malformed "markup does not end"]
    | some (token, rest') =>
      match opened? opened token with
      | none => [.malformed "end tag does not match"]
      | some opened => token :: list opened rest'
termination_by input.length
decreasing_by exact next?_length ‹_›

/-- The tokens of a document. A byte order mark at its very start is no part of it. -/
def ofBytes (bytes : List UInt8) : List Token :=
  match Text.Utf8.decode bytes with
  | some '\uFEFF' :: input => list [] input
  | input => list [] input

end Token

end XRoad.Xml
