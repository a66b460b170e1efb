import XRoad.Yaml.Layout

/-!
# Nodes

A document as it is written: scalars with their style, collections, aliases and tags. Anchors are
numbered by the count of names that are known where they stand, and of nodes with one number the
last is meant by it.
-/

namespace XRoad.Yaml

structure NodeMarks where
  anchor : Option Nat := none
  tag : Option String := none

inductive Node where
  | alias (anchor : Nat)
  | scalar (marks : NodeMarks) (plain : Bool) (text : String)
  | sequence (marks : NodeMarks) (items : List Node)
  | mapping (marks : NodeMarks) (entries : List (Node × Node))
  deriving Inhabited

namespace Node

def absent : Node :=
  .scalar {} true ""

def anchor? : Node → Option Nat
  | .alias _ => none
  | .scalar marks .. => marks.anchor
  | .sequence marks _ => marks.anchor
  | .mapping marks _ => marks.anchor

mutual

/-- The nodes with an anchor, in the order of the document. -/
def anchored (n : Node) : List (Nat × Node) :=
  let own := (n.anchor?.map fun id => (id, n)).toList
  match n with
  | .sequence _ items => own ++ anchoredItems items
  | .mapping _ entries => own ++ anchoredEntries entries
  | _ => own

def anchoredItems : List Node → List (Nat × Node)
  | [] => []
  | n :: rest => n.anchored ++ anchoredItems rest

def anchoredEntries : List (Node × Node) → List (Nat × Node)
  | [] => []
  | e :: rest => anchoredEntry e ++ anchoredEntries rest

def anchoredEntry : Node × Node → List (Nat × Node)
  | (k, v) => k.anchored ++ v.anchored

end

mutual

/-- The number of aliases, scalars, and beginnings and ends of collections. -/
def size : Node → Nat
  | .sequence _ items => 2 + sizeItems items
  | .mapping _ entries => 2 + sizeEntries entries
  | _ => 1

def sizeItems : List Node → Nat
  | [] => 0
  | n :: rest => n.size + sizeItems rest

def sizeEntries : List (Node × Node) → Nat
  | [] => 0
  | e :: rest => sizeEntry e + sizeEntries rest

def sizeEntry : Node × Node → Nat
  | (k, v) => k.size + v.size

end

end Node

/-! ### From tokens -/

structure TokenReading where
  tokens : List Token
  handles : List (String × String) := []
  /-- The anchors so far, each name once. -/
  anchors : List (String × Nat) := []

abbrev NodeReader := StateT TokenReading (Except Error)

namespace NodeReader

def fail {α : Type} (reason : String) : NodeReader α :=
  throw (.malformed reason)

def peek : NodeReader (Option Token) := do
  return (← get).tokens.head?

def skip : NodeReader Unit :=
  modify fun r => { r with tokens := r.tokens.tail }

def isAt (ts : List Token) : NodeReader Bool := do
  return (← peek).any (· ∈ ts)

/-- Whether the next token is this one, which is then skipped. -/
def takes (t : Token) : NodeReader Bool := do
  if ← isAt [t] then
    skip
    return true
  else return false

def expect (t : Token) : NodeReader Unit := do
  if ← takes t then return () else fail "another token was expected"

/-! ### Anchors and tags -/

def numberAnchor (name : String) : NodeReader Nat := do
  let r ← get
  let id := r.anchors.length
  let others := r.anchors.filter (·.1 ≠ name)
  set { r with anchors := (name, id) :: others }
  return id

def aliasNumber (name : String) : NodeReader Nat := do
  match (← get).anchors.lookup name with
  | some id => return id
  | none => throw (.unknownAnchor name)

def tagOf (handle suffix : String) : NodeReader String := do
  if handle = "" then return suffix
  else match (← get).handles.lookup handle with
    | some start => return start ++ suffix
    | none => fail "a handle is not declared"

def readAnchor : NodeReader (Option Nat) := do
  match ← peek with
  | some (.anchor name) =>
    skip
    return some (← numberAnchor name)
  | _ => return none

def readTag : NodeReader (Option String) := do
  match ← peek with
  | some (.tag handle suffix) =>
    skip
    return some (← tagOf handle suffix)
  | _ => return none

/-- An anchor and a tag, in either order. -/
def readMarks : NodeReader NodeMarks := do
  match ← readAnchor with
  | some id => return { anchor := some id, tag := ← readTag }
  | none =>
    let tag ← readTag
    return { anchor := ← readAnchor, tag }

/-! ### Nodes -/

/-- A lone exclamation mark is no tag of a scalar. -/
def scalarMarks (m : NodeMarks) : NodeMarks :=
  { m with tag := m.tag.filter (· ≠ "!") }

mutual

/-- A node. Outside brackets it may be a collection without them, and as part of a mapping a sequence
that is not indented. -/
def node (block bare : Bool) : (fuel : Nat) → NodeReader Node
  | 0 => fail "nodes are too deep"
  | fuel + 1 => do
    match ← peek with
    | some (.alias name) =>
      skip
      return .alias (← aliasNumber name)
    | _ =>
      let marks ← readMarks
      match ← peek with
      | some (.scalar plain text) =>
        skip
        return .scalar (scalarMarks marks) plain text
      | some .bracketOpen =>
        skip
        return .sequence marks (← bracketItems true fuel)
      | some .braceOpen =>
        skip
        return .mapping marks (← braceEntries true fuel)
      | token =>
        if token = some .dash ∧ bare then return .sequence marks (← bareItems fuel)
        else if token = some .sequenceStart ∧ block then
          skip
          return .sequence marks (← blockItems fuel)
        else if token = some .mappingStart ∧ block then
          skip
          return .mapping marks (← blockEntries fuel)
        else if marks.anchor.isSome ∨ marks.tag.isSome then return .scalar marks true ""
        else fail "a node was expected"

/-- A node, or none before certain tokens. -/
def nodeUnless (ends : List Token) (block bare : Bool) : (fuel : Nat) → NodeReader Node
  | 0 => fail "nodes are too deep"
  | fuel + 1 => do if ← isAt ends then return .absent else node block bare fuel

/-- A value after its colon, or none without a colon. -/
def valueUnless (ends : List Token) (block bare : Bool) : (fuel : Nat) → NodeReader Node
  | 0 => fail "nodes are too deep"
  | fuel + 1 => do if ← takes .value then nodeUnless ends block bare fuel else return .absent

def blockItems : (fuel : Nat) → NodeReader (List Node)
  | 0 => fail "nodes are too deep"
  | fuel + 1 => do
    if ← takes .blockEnd then return []
    else
      expect .dash
      let item ← nodeUnless [.dash, .blockEnd] true false fuel
      return item :: (← blockItems fuel)

/-- The items of a sequence that is not indented. -/
def bareItems : (fuel : Nat) → NodeReader (List Node)
  | 0 => fail "nodes are too deep"
  | fuel + 1 => do
    if ← takes .dash then
      let item ← nodeUnless [.dash, .key, .value, .blockEnd] true false fuel
      return item :: (← bareItems fuel)
    else return []

def blockEntries : (fuel : Nat) → NodeReader (List (Node × Node))
  | 0 => fail "nodes are too deep"
  | fuel + 1 => do
    if ← takes .blockEnd then return []
    else
      expect .key
      let key ← nodeUnless [.key, .value, .blockEnd] true true fuel
      let value ← valueUnless [.key, .value, .blockEnd] true true fuel
      return (key, value) :: (← blockEntries fuel)

/-- The items between brackets, of which a key with its value is a mapping. A key that is left out
takes the place of the token after its mark. -/
def bracketItems (first : Bool) : (fuel : Nat) → NodeReader (List Node)
  | 0 => fail "nodes are too deep"
  | fuel + 1 => do
    if ← takes .bracketClose then return []
    else
      if !first then expect .comma
      if ← takes .bracketClose then return []
      else if ← takes .key then
        let gap ← isAt [.value, .comma, .bracketClose]
        if gap then skip
        let key ← if gap then pure .absent else node false false fuel
        let value ← valueUnless [.comma, .bracketClose] false false fuel
        return .mapping {} [(key, value)] :: (← bracketItems false fuel)
      else
        let item ← node false false fuel
        return item :: (← bracketItems false fuel)

def braceEntries (first : Bool) : (fuel : Nat) → NodeReader (List (Node × Node))
  | 0 => fail "nodes are too deep"
  | fuel + 1 => do
    if ← takes .braceClose then return []
    else
      if !first then expect .comma
      if ← takes .braceClose then return []
      else if ← takes .key then
        let key ← nodeUnless [.value, .comma, .braceClose] false false fuel
        let value ← valueUnless [.comma, .braceClose] false false fuel
        return (key, value) :: (← braceEntries false fuel)
      else
        let key ← node false false fuel
        return (key, .absent) :: (← braceEntries false fuel)

end

/-! ### Documents -/

def directives (versioned : Bool) : (fuel : Nat) → NodeReader Unit
  | 0 => return ()
  | fuel + 1 => do
    match ← peek with
    | some .version =>
      if versioned then fail "a version is given twice"
      else
        skip
        directives true fuel
    | some (.handle name start) =>
      let r ← get
      if (r.handles.lookup name).isSome then fail "a handle is declared twice"
      else
        set { r with tokens := r.tokens.tail, handles := r.handles ++ [(name, start)] }
        directives versioned fuel
    | _ => return ()

/-- The handles of every document, which may be declared anew. -/
def usualHandles : List (String × String) :=
  [("!", "!"), ("!!", coreTag)]

def documentEnds : (fuel : Nat) → NodeReader Unit
  | 0 => return ()
  | fuel + 1 => do if ← takes .documentEnd then documentEnds fuel

/-- A stream of one document, which is left out if there are no tokens. -/
def document : NodeReader Node := do
  let count := (← get).tokens.length
  directives false count
  let declared := (← get).tokens.length < count
  modify fun r => { r with handles := r.handles ++ usualHandles }
  let marked ← takes .documentStart
  if declared ∧ !marked then fail "a document was expected"
  else
    let next ← peek
    let empty := count == 0 || (marked && (next == none || next == some .documentEnd))
    let root ← if empty then pure .absent else node true false (4 * count + 4)
    documentEnds count
    if (← peek).isSome then throw .severalDocuments else return root

end NodeReader

def Node.ofTokens (ts : List Token) : Except Error Node :=
  NodeReader.document.run' { tokens := ts }

end XRoad.Yaml
