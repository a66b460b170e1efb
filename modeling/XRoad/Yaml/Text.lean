import XRoad.Yaml.Place

/-!
# The text of scalars

Scalars without quotes, in quotes and in blocks. Between words of one scalar a single line break
counts as a space, and of more breaks the first is dropped.
-/

namespace XRoad.Yaml

inductive Gap where
  | blanks (cs : List Char)
  /-- Line breaks, with the blanks around them left out. -/
  | breaks (first : Char) (more : List Char)
  /-- A line break that was escaped, and those after it. -/
  | escaped (more : List Char)

namespace Gap

def none : Gap := .blanks []

def isBroken : Gap → Bool
  | .blanks _ => false
  | _ => true

def isNone : Gap → Bool
  | .blanks [] => true
  | _ => false

def addBlank (c : Char) : Gap → Gap
  | .blanks cs => .blanks (cs ++ [c])
  | gap => gap

def addBreak (c : Char) : Gap → Gap
  | .blanks _ => .breaks c []
  | .breaks first more => .breaks first (more ++ [c])
  | .escaped more => .escaped (more ++ [c])

def text : Gap → List Char
  | .blanks cs => cs
  | .breaks '\n' [] => [' ']
  | .breaks '\n' more => more
  | .breaks first more => first :: more
  | .escaped more => more

end Gap

/-! ### Without quotes -/

/-- What ends a scalar without quotes in the middle of a word. -/
def endsPlain (flow : Bool) (c next : Char) : Bool :=
  (c == ':' && isSpaceOrEnd next) || (flow && c ∈ [',', '[', ']', '\x7b', '\x7d'])

/-- A colon that must not stand in a scalar inside brackets. -/
def isStrayColon (flow : Bool) (c next : Char) : Bool :=
  flow && c == ':' && next ∈ [',', '?', '[', ']', '\x7b', '\x7d']

/-- The rest of a scalar without quotes, after some text in reverse and a gap. In block context its
lines stand at `indent` at least. Also says whether the scalar ends behind a line break. -/
def plainFrom (flow : Bool) (indent : Nat) (text : List Char) (gap : Gap) :
    Stream → Except Error (List Char × Bool × Stream)
  | [] => .ok (text.reverse, gap.isBroken, [])
  | p :: rest =>
    let outside := !gap.isNone && ((!flow && p.column < indent) ||
      Stream.isDocumentMark (p :: rest) || p.char == '#')
    if p.char == '\t' && gap.isBroken && p.column < indent then
      .error (.malformed "a tab violates the indentation")
    else if isBlank p.char then plainFrom flow indent text (gap.addBlank p.char) rest
    else if isBreak p.char then plainFrom flow indent text (gap.addBreak p.char) rest
    else if p.char == '\x00' || outside || endsPlain flow p.char (Stream.char rest) then
      .ok (text.reverse, gap.isBroken, p :: rest)
    else if isStrayColon flow p.char (Stream.char rest) then .error (.malformed "unexpected ':'")
    else plainFrom flow indent (p.char :: (gap.text.reverse ++ text)) .none rest

/-! ### In quotes -/

def escape? : Char → Option Char
  | '0' => some '\x00'
  | 'a' => some '\x07'
  | 'b' => some '\x08'
  | 't' => some '\t'
  | '\t' => some '\t'
  | 'n' => some '\n'
  | 'v' => some '\x0B'
  | 'f' => some '\x0C'
  | 'r' => some '\r'
  | 'e' => some '\x1B'
  | ' ' => some ' '
  | '"' => some '"'
  | '/' => some '/'
  | '\\' => some '\\'
  | 'N' => some '\u0085'
  | '_' => some '\u00A0'
  | 'L' => some '\u2028'
  | 'P' => some '\u2029'
  | _ => none

def escapeLength? : Char → Option Nat
  | 'x' => some 2
  | 'u' => some 4
  | 'U' => some 8
  | _ => none

def codeEscape? (n : Nat) (s : Stream) : Option Char :=
  let digits := (s.take n).map (·.char)
  if digits.length = n then
    (Text.numeral? 16 digits).bind fun code =>
      if code.isValidChar then some (Char.ofNat code) else none
  else none

/-- The character of the escape after a backslash, and how many places it takes. -/
def escapeAt? (s : Stream) : Option (Char × Nat) :=
  match escapeLength? (Stream.char s) with
  | some n => (codeEscape? n (s.drop 1)).map (·, n + 1)
  | none => (escape? (Stream.char s)).map (·, 1)

/-- The rest of a scalar in quotes. `fuel` is at least the number of places. -/
def quotedFrom (quote : Char) (text : List Char) (gap : Gap) :
    (fuel : Nat) → Stream → Except Error (List Char × Stream)
  | fuel + 1, p :: rest =>
    let before := gap.text.reverse ++ text
    if isBlank p.char then quotedFrom quote text (gap.addBlank p.char) fuel rest
    else if isBreak p.char then quotedFrom quote text (gap.addBreak p.char) fuel rest
    else if p.char == '\x00' then .error (.malformed "a quote is not closed")
    else if Stream.isDocumentMark (p :: rest) then .error (.malformed "a document ends in quotes")
    else if p.char == quote then
      if quote == '\'' && Stream.char rest == '\'' then
        quotedFrom quote ('\'' :: before) .none fuel (rest.drop 1)
      else .ok (before.reverse, rest)
    else if quote == '"' && p.char == '\\' then
      if isBreak (Stream.char rest) then quotedFrom quote before (.escaped []) fuel (rest.drop 1)
      else match escapeAt? rest with
        | some (c, n) => quotedFrom quote (c :: before) .none fuel (rest.drop n)
        | none => .error (.malformed "unknown escape")
    else quotedFrom quote (p.char :: before) .none fuel rest
  | _, _ => .error (.malformed "a quote is not closed")

/-! ### In blocks -/

inductive Chomping where
  | strip
  | clip
  | keep
  deriving DecidableEq

structure BlockHeader where
  chomping : Chomping := .clip
  /-- How much deeper than its surroundings the block is indented, if it is said. -/
  indentation : Option Nat := none

def chomping? : Char → Option Chomping
  | '+' => some .keep
  | '-' => some .strip
  | _ => none

/-- The signs after the mark of a block: one for line breaks and one for the indentation, in either
order. -/
def BlockHeader.read (s : Stream) : BlockHeader × Stream :=
  let indentation? (c : Char) : Option Nat := if c.isDigit then some (c.toNat - 48) else none
  match chomping? (Stream.char s), indentation? (Stream.char s) with
  | some chomping, _ =>
    match indentation? (Stream.charAt s 1) with
    | some n => ({ chomping, indentation := some n }, s.drop 2)
    | none => ({ chomping }, s.drop 1)
  | none, some n =>
    match chomping? (Stream.charAt s 1) with
    | some chomping => ({ chomping, indentation := some n }, s.drop 2)
    | none => ({ indentation := some n }, s.drop 1)
  | none, none => ({}, s)

/-- The empty lines before a line of a block, up to its first character. The result has the line
breaks, and the greatest column at which a line began. -/
def blockBreaks (indent : Option Nat) (widest : Nat) (breaks : List Char) :
    (fuel : Nat) → Stream → Except Error (List Char × Nat × Stream)
  | 0, s => .ok (breaks, widest, s)
  | fuel + 1, s =>
    let outside (p : Place) : Bool := indent.all (p.column < ·)
    let s := s.dropWhile fun p => p.char == ' ' && outside p
    let widest := max widest (Stream.column s)
    if Stream.char s == '\t' && s.head?.any outside then .error (.malformed "a tab in an indentation")
    else if isBreak (Stream.char s) then
      blockBreaks indent widest (breaks ++ [Stream.char s]) fuel (s.drop 1)
    else .ok (breaks, widest, s)

/-- The lines of a block, after some text in reverse, the break of the last line and the empty lines
after it. `blank` says whether the last line began with a blank: only lines that do not are folded. -/
def blockLines (folded : Bool) (indent : Nat) :
    (fuel : Nat) → (text lineBreak emptyLines : List Char) → (blank : Bool) → Stream →
      Except Error (List Char × List Char × List Char × Stream)
  | 0, text, lineBreak, emptyLines, _, s => .ok (text, lineBreak, emptyLines, s)
  | fuel + 1, text, lineBreak, emptyLines, blank, s => do
    if Stream.column s = indent ∧ Stream.char s ≠ '\x00' then
      let blankNow := isBlank (Stream.char s)
      let joint :=
        if folded && lineBreak == ['\n'] && !blank && !blankNow then
          if emptyLines.isEmpty then [' '] else emptyLines
        else lineBreak ++ emptyLines
      let (line, s) := Stream.span (!isLineEnd ·) s
      let text := line.reverse ++ (joint.reverse ++ text)
      let (lineBreak, s) := if isBreak (Stream.char s) then ([Stream.char s], s.drop 1) else ([], s)
      let (emptyLines, _, s) ← blockBreaks (some indent) 0 [] fuel s
      blockLines folded indent fuel text lineBreak emptyLines blankNow s
    else .ok (text, lineBreak, emptyLines, s)

/-- A scalar in a block, after its mark; `outer` is the least column that is inside of what
surrounds it, and `fuel` at least the number of places. -/
def blockText (folded : Bool) (outer fuel : Nat) (s : Stream) : Except Error (List Char × Stream) := do
  let (header, s) := BlockHeader.read s
  if header.indentation = some 0 then .error (.malformed "an indentation of zero")
  else
    let s := s.skipComment
    if !isLineEnd (Stream.char s) then .error (.malformed "a block begins on the line of its mark")
    else
      let s := if isBreak (Stream.char s) then s.drop 1 else s
      let given := header.indentation.map (outer - 1 + ·)
      let (emptyLines, widest, s) ← blockBreaks given 0 [] fuel s
      let indent := given.getD (max widest (max outer 1))
      let (text, lineBreak, emptyLines, s) ←
        blockLines folded indent fuel [] [] emptyLines false s
      let ending := match header.chomping with
        | .strip => []
        | .clip => lineBreak
        | .keep => lineBreak ++ emptyLines
      .ok (text.reverse ++ ending, s)

end XRoad.Yaml
