import XRoad.Text.Utf8
import XRoad.Yaml.Text

/-!
# Tokens

The marks of a stream, with the words that belong to them: the names of anchors, tags and what
directives declare.
-/

namespace XRoad.Yaml

inductive Token where
  /-- The directive that names the version of the language. -/
  | version
  /-- The directive that makes a handle stand for the beginning of tags. -/
  | handle (name start : String)
  | documentStart
  | documentEnd
  | sequenceStart
  | mappingStart
  /-- The end of a collection without brackets or braces. -/
  | blockEnd
  | bracketOpen
  | bracketClose
  | braceOpen
  | braceClose
  | dash
  | comma
  | key
  | value
  | alias (name : String)
  | anchor (name : String)
  | tag (handle suffix : String)
  | scalar (plain : Bool) (text : String)
  deriving DecidableEq

namespace Token

def fail {α : Type} (reason : String) : Except Error α :=
  .error (.malformed reason)

/-! ### Anchors and tags -/

def anchorName (s : Stream) : Except Error (String × Stream) :=
  let (name, rest) := Stream.span isWordChar s
  let next := Stream.char rest
  if name.isEmpty then fail "an anchor has no name"
  else if isSpaceOrEnd next || next ∈ ['?', ':', ',', ']', '\x7d', '%', '@', '`'] then
    .ok (String.ofList name, rest)
  else fail "unexpected character after an anchor"

/-- A character of tags; `flow` allows those that else belong to brackets. -/
def isTagChar (flow : Bool) (c : Char) : Bool :=
  isWordChar c ||
    c ∈ [';', '/', '?', ':', '@', '&', '=', '+', '$', '.', '!', '~', '*', '\'', '(', ')'] ||
    (flow && c ∈ [',', '[', ']'])

/-- The bytes of a tag, in which two hexadecimal digits after `%` are one byte. -/
def tagBytes (flow : Bool) : Stream → Except Error (List UInt8 × Stream)
  | [] => .ok ([], [])
  | p :: rest =>
    if p.char == '%' then
      match rest with
      | q :: r :: rest =>
        match Text.numeral? 16 [q.char, r.char] with
        | some n => do
          let (bytes, rest) ← tagBytes flow rest
          .ok (.ofNat n :: bytes, rest)
        | none => fail "unknown escape in a tag"
      | _ => fail "unknown escape in a tag"
    else if isTagChar flow p.char then do
      let (bytes, rest) ← tagBytes flow rest
      .ok (Text.Utf8.encodeChar p.char ++ bytes, rest)
    else .ok ([], p :: rest)

def tagText (flow : Bool) (s : Stream) : Except Error (String × Stream) := do
  let (bytes, s) ← tagBytes flow s
  match Text.ofBytes? bytes with
  | some text => .ok (text, s)
  | none => fail "a tag is no text"

def tagWord (flow : Bool) (s : Stream) : Except Error (String × Stream) := do
  let (text, s) ← tagText flow s
  if text = "" then fail "a tag is empty" else .ok (text, s)

/-- What a tag begins with: an exclamation mark, a word and perhaps another mark. -/
def handleText (s : Stream) : List Char × Stream :=
  let (word, rest) := Stream.span isWordChar (s.drop 1)
  if Stream.char rest == '!' then ('!' :: word ++ ['!'], rest.drop 1) else ('!' :: word, rest)

/-- A tag: in angle brackets, under a handle of its own, or under the usual one. -/
def tagAt (s : Stream) : Except Error (Token × Stream) := do
  if Stream.charAt s 1 == '<' then
    let (text, s) ← tagWord true (s.drop 2)
    if Stream.char s == '>' then .ok (.tag "" text, s.drop 1) else fail "a tag is not closed"
  else
    let (start, s) := handleText s
    if 1 < start.length ∧ start.getLast? = some '!' then
      let (suffix, s) ← tagWord false s
      .ok (.tag (String.ofList start) suffix, s)
    else
      let (more, s) ← tagText false s
      let suffix := String.ofList (start.drop 1) ++ more
      .ok (if suffix = "" then .tag "" "!" else .tag "!" suffix, s)

/-! ### Directives -/

/-- The version of the language: a one, a point, and a one or a two. -/
def versionAt (s : Stream) : Except Error (Token × Stream) := do
  let (major, s) := Stream.span Char.isDigit s
  let (minor, rest) := Stream.span Char.isDigit (s.drop 1)
  let known := Text.numeral? 10 major = some 1 ∧
    (Text.numeral? 10 minor = some 1 ∨ Text.numeral? 10 minor = some 2)
  if Stream.char s = '.' ∧ major.length ≤ 9 ∧ minor.length ≤ 9 ∧ known then .ok (.version, rest)
  else fail "unknown version"

def handleAt (s : Stream) : Except Error (Token × Stream) := do
  let (name, s) := handleText s
  let (blanks, rest) := Stream.span isBlank s
  let isHandle := name = ['!'] ∨ (1 < name.length ∧ name.getLast? = some '!')
  if isHandle ∧ !blanks.isEmpty then
    let (start, rest) ← tagWord true rest
    if isSpaceOrEnd (Stream.char rest) then .ok (.handle (String.ofList name) start, rest)
    else fail "unexpected character after a tag"
  else fail "a handle is malformed"

def directiveAt (s : Stream) : Except Error (Token × Stream) := do
  let (name, s) := Stream.span isWordChar s
  let rest := s.dropWhile (isBlank ·.char)
  let (token, rest) ←
    if !isSpaceOrEnd (Stream.char s) then fail "unexpected character in a directive"
    else if name = "YAML".toList then versionAt rest
    else if name = "TAG".toList then
      if Stream.char rest == '!' then handleAt rest else fail "a handle is malformed"
    else fail "unknown directive"
  let rest := Stream.skipComment rest
  if isLineEnd (Stream.char rest) then .ok (token, rest)
  else fail "unexpected character after a directive"

end Token

end XRoad.Yaml
