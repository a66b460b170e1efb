import XRoad.Yaml.Token

/-!
# Layout

Where collections begin and end by their indentation, and which nodes are keys of a mapping. Both
show only later: the tokens for a key are put in front of it when its colon is met, and a collection
ends where something stands further left than its beginning.
-/

namespace XRoad.Yaml

/-- A node that becomes a key if a colon follows on its line. -/
structure PendingKey where
  slot : Nat
  place : Place
  /-- Where it stands it can be nothing else. -/
  required : Bool

structure Layout where
  tokens : Array Token := #[]
  /-- The columns of the open collections without brackets, innermost first. -/
  columns : List Nat := []
  pending : Option PendingKey := none
  /-- The pending keys around each open bracket, innermost first. -/
  outside : List (Option PendingKey) := []
  /-- A key may begin here. -/
  keyAllowed : Bool := true

namespace Layout

def inFlow (l : Layout) : Bool :=
  !l.outside.isEmpty

def put (l : Layout) (t : Token) : Layout :=
  { l with tokens := l.tokens.push t }

def inside (l : Layout) : Nat :=
  (l.columns.head?.map (· + 1)).getD 0

/-! ### Collections without brackets -/

def openBlock (l : Layout) (column slot : Nat) (start : Token) : Layout :=
  if !l.inFlow && l.inside ≤ column then
    { l with columns := column :: l.columns, tokens := l.tokens.insertIdxIfInBounds slot start }
  else l

/-- Ends the collections that `p` tells from their columns, from the innermost outwards. -/
def closeBlocks (p : Nat → Bool) (l : Layout) : Layout :=
  if l.inFlow then l
  else
    let closed := (l.columns.takeWhile p).map fun _ => Token.blockEnd
    { l with columns := l.columns.dropWhile p, tokens := l.tokens ++ closed.toArray }

/-! ### Keys -/

def dropKey (l : Layout) : Except Error Layout :=
  if l.pending.any (·.required) then Token.fail "a key has no colon"
  else .ok { l with pending := none }

def noteKey (l : Layout) (p : Place) : Except Error Layout :=
  if l.keyAllowed then do
    let l ← l.dropKey
    let required := !l.inFlow && l.columns.head? == some p.column
    .ok { l with pending := some ⟨l.tokens.size, p, required⟩ }
  else .ok l

/-- A key ends on the line of its beginning, 1024 characters from there at most. -/
def isStale (p : Place) (key : PendingKey) : Bool :=
  key.place.line < p.line || key.place.index + 1024 < p.index

def dropStale (l : Layout) (p : Place) : Except Error Layout :=
  let keys := (l.pending :: l.outside).filterMap id
  if keys.any fun key => isStale p key && key.required then Token.fail "a key has no colon"
  else
    let fresh (key : Option PendingKey) := key.filter (!isStale p ·)
    .ok { l with pending := fresh l.pending, outside := l.outside.map fresh }

/-! ### Marks -/

def openBracket (l : Layout) (p : Place) (t : Token) : Except Error Layout := do
  let l ← l.noteKey p
  .ok (put { l with outside := l.pending :: l.outside, pending := none, keyAllowed := true } t)

def closeBracket (l : Layout) (t : Token) : Except Error Layout := do
  let l ← l.dropKey
  .ok (put { l with
    pending := l.outside.head?.getD none, outside := l.outside.tail, keyAllowed := false } t)

def comma (l : Layout) : Except Error Layout := do
  let l ← l.dropKey
  .ok (put { l with keyAllowed := true } .comma)

/-- A mark of a collection without brackets, where one may stand. -/
def blockMark (l : Layout) (p : Place) (start mark : Token) : Except Error Layout := do
  if !l.inFlow && !l.keyAllowed then Token.fail "a mark stands where none may"
  else
    let l ← (l.openBlock p.column l.tokens.size start).dropKey
    .ok (l.put mark)

def dash (l : Layout) (p : Place) : Except Error Layout := do
  let l ← l.blockMark p .sequenceStart .dash
  .ok { l with keyAllowed := true }

def questionMark (l : Layout) (p : Place) : Except Error Layout := do
  let l ← l.blockMark p .mappingStart .key
  .ok { l with keyAllowed := !l.inFlow }

def colon (l : Layout) (p : Place) : Except Error Layout :=
  match l.pending with
  | some key =>
    let l := { l with tokens := l.tokens.insertIdxIfInBounds key.slot .key }
    let l := l.openBlock key.place.column key.slot .mappingStart
    .ok (put { l with pending := none, keyAllowed := false } .value)
  | none => do
    if !l.inFlow && !l.keyAllowed then Token.fail "a mark stands where none may"
    else
      let l := l.openBlock p.column l.tokens.size .mappingStart
      .ok (put { l with keyAllowed := !l.inFlow } .value)

def boundary (l : Layout) (t : Token) : Except Error Layout := do
  let l ← (l.closeBlocks fun _ => true).dropKey
  .ok (put { l with keyAllowed := false } t)

/-- A token that may be a key or its first part. -/
def node (l : Layout) (p : Place) (t : Token) : Except Error Layout := do
  let l ← l.noteKey p
  .ok (put { l with keyAllowed := false } t)

/-! ### The whole stream -/

/-- Skips white space and comments. Outside brackets a tab is white space only where no key may
begin, and a line break allows a key. -/
def skipSpace (l : Layout) (comment : Bool) : Stream → Layout × Stream
  | [] => (l, [])
  | p :: rest =>
    if isBreak p.char then
      skipSpace { l with keyAllowed := l.keyAllowed || !l.inFlow } false rest
    else if comment && p.char != '\x00' then skipSpace l true rest
    else if p.char == ' ' || (p.char == '\t' && (l.inFlow || !l.keyAllowed)) then
      skipSpace l false rest
    else if p.char == '#' then skipSpace l true rest
    else (l, p :: rest)

def startsPlain (flow : Bool) (c next : Char) : Bool :=
  let indicators := ['-', '?', ':', ',', '[', ']', '\x7b', '\x7d', '#', '&', '*', '!', '|', '>', '\'',
    '"', '%', '@', '`']
  !(isSpaceOrEnd c || c ∈ indicators) || (c == '-' && !isBlank next) ||
    (!flow && (c == '?' || c == ':') && !isSpaceOrEnd next)

/-- A word that stands alone, or a scalar. `fuel` is at least the number of places. -/
def nodeAt (fuel : Nat) (l : Layout) (p : Place) (rest : Stream) : Except Error (Layout × Stream) := do
  let next := Stream.char rest
  match p.char with
  | '*' =>
    let (name, rest) ← Token.anchorName rest
    .ok (← l.node p (.alias name), rest)
  | '&' =>
    let (name, rest) ← Token.anchorName rest
    .ok (← l.node p (.anchor name), rest)
  | '!' =>
    let (tag, rest) ← Token.tagAt (p :: rest)
    if isSpaceOrEnd (Stream.char rest) || (l.inFlow && Stream.char rest == ',') then
      .ok (← l.node p tag, rest)
    else Token.fail "unexpected character after a tag"
  | '"' =>
    let (text, rest) ← quotedFrom '"' [] .none fuel rest
    .ok (← l.node p (.scalar false (String.ofList text)), rest)
  | '\'' =>
    let (text, rest) ← quotedFrom '\'' [] .none fuel rest
    .ok (← l.node p (.scalar false (String.ofList text)), rest)
  | c =>
    if !l.inFlow && (c == '|' || c == '>') then
      let (text, rest) ← blockText (c == '>') l.inside fuel rest
      let l ← l.dropKey
      .ok (put { l with keyAllowed := true } (.scalar false (String.ofList text)), rest)
    else if startsPlain l.inFlow c next then
      let inside := l.inside
      let l ← l.noteKey p
      let (text, broken, rest) ← plainFrom l.inFlow inside [] .none (p :: rest)
      .ok (put { l with keyAllowed := broken } (.scalar true (String.ofList text)), rest)
    else Token.fail "unexpected character"

def step (fuel : Nat) (l : Layout) (p : Place) (rest : Stream) : Except Error (Layout × Stream) := do
  let lone := isSpaceOrEnd (Stream.char rest)
  if p.column = 0 ∧ p.char = '%' then
    let (token, rest) ← Token.directiveAt rest
    .ok (← l.boundary token, rest)
  else if Stream.isMark '-' (p :: rest) then .ok (← l.boundary .documentStart, rest.drop 2)
  else if Stream.isMark '.' (p :: rest) then .ok (← l.boundary .documentEnd, rest.drop 2)
  else match p.char with
    | '[' => .ok (← l.openBracket p .bracketOpen, rest)
    | '\x7b' => .ok (← l.openBracket p .braceOpen, rest)
    | ']' => .ok (← l.closeBracket .bracketClose, rest)
    | '\x7d' => .ok (← l.closeBracket .braceClose, rest)
    | ',' => .ok (← l.comma, rest)
    | c =>
      if c == '-' && lone then .ok (← l.dash p, rest)
      else if c == '?' && (l.inFlow || lone) then .ok (← l.questionMark p, rest)
      else if c == ':' && (l.inFlow || lone) then .ok (← l.colon p, rest)
      else l.nodeAt fuel p rest

/-- The tokens of the rest of a stream. `fuel` is at least its length. -/
def run : (fuel : Nat) → Layout → Stream → Except Error (Array Token)
  | 0, _, _ => Token.fail "the stream does not end"
  | fuel + 1, l, s => do
    match l.skipSpace false s with
    | (l, p :: rest) =>
      let l ← l.dropStale p
      let l := l.closeBlocks (p.column < ·)
      if p.char = '\x00' then
        let l ← (l.closeBlocks fun _ => true).dropKey
        .ok l.tokens
      else
        let (l, rest) ← l.step fuel p rest
        run fuel l rest
    | (_, []) => Token.fail "the stream does not end"

end Layout

def Token.ofChars (cs : List Char) : Except Error (List Token) := do
  if cs.all isAllowed then
    let s := Stream.ofChars cs
    .ok (← Layout.run s.length {} s).toList
  else fail "a character is not allowed"

end XRoad.Yaml
