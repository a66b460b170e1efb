import XRoad.Text.Numeral

/-!
# Escapes

Characters that markup needs are written as references to predefined entities. Reading knows these
and the character references. Main statement: what is escaped is read back.
-/

namespace XRoad.Xml

def entityOf? : Char → Option String
  | '<' => some "lt"
  | '>' => some "gt"
  | '&' => some "amp"
  | '\'' => some "apos"
  | '"' => some "quot"
  | _ => none

def entity? (name : List Char) : Option Char :=
  if name = "lt".toList then some '<'
  else if name = "gt".toList then some '>'
  else if name = "amp".toList then some '&'
  else if name = "apos".toList then some '\''
  else if name = "quot".toList then some '"'
  else none

/-- The character of a character reference, from what stands after the number sign: a decimal
number, or `x` and a hexadecimal one. NUL has no reference. -/
def characterReference? (digits : List Char) : Option Char :=
  let number? := match digits with
    | 'x' :: hex => Text.numeral? 16 hex
    | _ => Text.numeral? 10 digits
  number?.bind fun n => if n ≠ 0 ∧ n.isValidChar then some (Char.ofNat n) else none

def reference? : List Char → Option Char
  | '#' :: digits => characterReference? digits
  | name => entity? name

def escapeChar (c : Char) : List Char :=
  match entityOf? c with
  | some name => '&' :: name.toList ++ [';']
  | none => [c]

def escapeValue (cs : List Char) : List Char :=
  cs.flatMap escapeChar

/-- Text between tags, where quotes stand for themselves. -/
def escapeContent (cs : List Char) : List Char :=
  cs.flatMap fun c => if c = '"' ∨ c = '\'' then [c] else escapeChar c

/-- Reads text with references, from inside a reference when its name so far is given. -/
def unescapeFrom : Option (List Char) → List Char → Option (List Char)
  | none, [] => some []
  | some _, [] => none
  | none, c :: cs => if c = '&' then unescapeFrom (some []) cs else (unescapeFrom none cs).map (c :: ·)
  | some name, c :: cs =>
    if c = ';' then (reference? name).bind fun r => (unescapeFrom none cs).map (r :: ·)
    else if c = '&' then none
    else unescapeFrom (some (name ++ [c])) cs

def unescape (cs : List Char) : Option (List Char) :=
  unescapeFrom none cs

theorem entityOf?_eq_none {c : Char} (h : entityOf? c = none) :
    c ≠ '<' ∧ c ≠ '>' ∧ c ≠ '&' ∧ c ≠ '\'' ∧ c ≠ '"' := by
  refine ⟨?_, ?_, ?_, ?_, ?_⟩ <;> rintro rfl <;> simp [entityOf?] at h

theorem unescape_escapeChar_append (c : Char) (cs : List Char) :
    unescape (escapeChar c ++ cs) = (unescape cs).map (c :: ·) := by
  unfold escapeChar
  split
  · next name h =>
    unfold entityOf? at h
    split at h <;> first | (injection h with h; subst h; rfl) | simp at h
  · next h =>
    have := (entityOf?_eq_none h).2.2.1
    simp [unescape, unescapeFrom, this]

theorem unescape_escapeValue (cs : List Char) : unescape (escapeValue cs) = some cs := by
  induction cs with
  | nil => rfl
  | cons c cs ih => rw [escapeValue, List.flatMap_cons, unescape_escapeChar_append, ← escapeValue, ih]; rfl

end XRoad.Xml
