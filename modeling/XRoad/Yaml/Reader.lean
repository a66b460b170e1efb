import XRoad.Yaml.Node

/-!
# Reading values

A document as a value. Aliases stand for the nodes they name; nesting and the use of aliases have a
limit.
-/

namespace XRoad.Yaml

/-- A tag of its own begins with an exclamation mark, which is no part of its name unless it is all
of it. -/
def tagName? (tag : String) : Option String :=
  match tag.toList with
  | '!' :: rest =>
    match rest with
    | [] | ['!'] => some "!"
    | '!' :: more => some (String.ofList more)
    | rest => some (String.ofList rest)
  | _ => none

def scalarValue (tag : Option String) (plain : Bool) (text : String) : Except Error Value :=
  match tag.map fun t => (t, tagName? t) with
  | some (_, some name) => do
    .ok (.tagged name (← if plain then plainValue text else .ok (.text text)))
  | some (tag, none) => coreValue tag text
  | none => if plain then plainValue text else .ok (.text text)

def withTag (tag : Option String) (v : Value) : Value :=
  match tag.bind tagName? with
  | some name => .tagged name v
  | none => v

/-- The entries of a mapping, no key of which may be given twice. -/
def distinct : (known : List Value) → Entries → Except Error Entries
  | _, [] => .ok []
  | known, (k, v) :: rest => do
    if known.any k.same then .error .duplicateKey
    else .ok ((k, v) :: (← distinct (k :: known) rest))

/-- How many collections may stand within each other. -/
def maxDepth : Nat := 128

/-- How many aliases a document of this size may have, each counted as often as it is met. -/
def maxAliases (size : Nat) : Nat := 100 * size

structure Anchors where
  /-- The nodes with their numbers, the last of the document first. -/
  targets : List (Nat × Node)
  limit : Nat

def Anchors.ofRoot (root : Node) : Anchors where
  targets := root.anchored.reverse
  limit := maxAliases root.size

namespace Node

def resolve (anchors : Anchors) : Node → StateT Nat (Except Error) Node
  | .alias id => do
    let count ← getModify (· + 1)
    if anchors.limit ≤ count then throw .tooManyAliases
    else match anchors.targets.lookup id with
      | some target => return target
      | none => throw (.unknownAnchor (toString id))
  | n => return n

/-- The value of a node, at most `depth` collections deep. The state counts the aliases. -/
def value (anchors : Anchors) : (depth : Nat) → Node → StateT Nat (Except Error) Value
  | 0, n => do
    match ← resolve anchors n with
    | .scalar marks plain text => scalarValue marks.tag plain text
    | _ => throw .tooDeep
  | depth + 1, n => do
    match ← resolve anchors n with
    | .scalar marks plain text => scalarValue marks.tag plain text
    | .sequence marks items =>
      let items ← items.mapM (value anchors depth)
      return withTag marks.tag (.sequence items)
    | .mapping marks entries =>
      let entries ← entries.mapM fun e => do
        return (← value anchors depth e.1, ← value anchors depth e.2)
      return withTag marks.tag (.mapping (← distinct [] entries))
    | .alias _ => throw .tooDeep

end Node

def parse (bytes : List UInt8) : Except Error Value := do
  match Text.ofBytes? bytes with
  | none => .error .encoding
  | some text =>
    let root ← Node.ofTokens (← Token.ofChars text.toList)
    (Node.value (.ofRoot root) maxDepth root).run' 0

def parseText (text : String) : Except Error Value :=
  parse (Text.bytes text)

end XRoad.Yaml
