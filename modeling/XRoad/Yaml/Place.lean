import XRoad.Yaml.Scalar

/-!
# Places

The characters of a stream with their lines and columns. The usual line breaks are all `'\n'`, a
return and a line feed together are one of them, and NUL, which no stream may hold, stands at the
end of every stream.
-/

namespace XRoad.Yaml

structure Place where
  char : Char
  line : Nat
  column : Nat
  index : Nat

abbrev Stream := List Place

/-- Line and paragraph separator, which are line breaks of their own. -/
def isSeparator (c : Char) : Bool :=
  c == '\u2028' || c == '\u2029'

def isBreak (c : Char) : Bool :=
  c == '\n' || isSeparator c

def isBlank (c : Char) : Bool :=
  c == ' ' || c == '\t'

def isLineEnd (c : Char) : Bool :=
  isBreak c || c == '\x00'

def isSpaceOrEnd (c : Char) : Bool :=
  isBlank c || isLineEnd c

/-- A character of anchors and of the names of tags. -/
def isWordChar (c : Char) : Bool :=
  c.isAlphanum || c == '_' || c == '-'

def isAllowed (c : Char) : Bool :=
  let n := c.toNat
  n == 0x09 || n == 0x0A || n == 0x0D || (0x20 ≤ n && n ≤ 0x7E) || n == 0x85 ||
    (0xA0 ≤ n && n ≤ 0xD7FF) || (0xE000 ≤ n && n ≤ 0xFFFD) || 0x10000 ≤ n

namespace Stream

/-- The places of some characters, the first of them at this one. -/
def placesFrom (line column index : Nat) : List Char → Stream
  | [] => [⟨'\x00', line, column, index⟩]
  | '\r' :: '\n' :: rest => ⟨'\n', line, column, index⟩ :: placesFrom (line + 1) 0 (index + 2) rest
  | c :: rest =>
    if isSeparator c then ⟨c, line, column, index⟩ :: placesFrom (line + 1) 0 (index + 1) rest
    else if c == '\r' || c == '\n' || c == '\u0085' then
      ⟨'\n', line, column, index⟩ :: placesFrom (line + 1) 0 (index + 1) rest
    else ⟨c, line, column, index⟩ :: placesFrom line (column + 1) (index + 1) rest

/-- The places of a text. A byte order mark at its beginning is not there, but has its column. -/
def ofChars (cs : List Char) : Stream :=
  match cs with
  | '\uFEFF' :: rest => placesFrom 0 1 1 rest
  | cs => placesFrom 0 0 0 cs

def char (s : Stream) : Char :=
  (s.head?.map (·.char)).getD '\x00'

def charAt (s : Stream) (n : Nat) : Char :=
  char (s.drop n)

def column (s : Stream) : Nat :=
  (s.head?.map (·.column)).getD 0

/-- A mark of three equal characters that stands on a line of its own, begins a line at least. -/
def isMark (c : Char) (s : Stream) : Bool :=
  column s == 0 && char s == c && charAt s 1 == c && charAt s 2 == c && isSpaceOrEnd (charAt s 3)

def isDocumentMark (s : Stream) : Bool :=
  isMark '-' s || isMark '.' s

def span (p : Char → Bool) (s : Stream) : List Char × Stream :=
  ((s.takeWhile (p ·.char)).map (·.char), s.dropWhile (p ·.char))

/-- Without the blanks and the comment up to the end of a line. -/
def skipComment (s : Stream) : Stream :=
  let s := s.dropWhile (isBlank ·.char)
  if char s == '#' then s.dropWhile (!isLineEnd ·.char) else s

end Stream

end XRoad.Yaml
