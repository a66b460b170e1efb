import XRoad.Yaml.Reader

/-!
# Writing values

A value as a document: collections without brackets, each two columns further right than what it
belongs to, and scalars on one line.
-/

namespace XRoad.Yaml

/-! ### Scalars -/

def codeEscape (n : Nat) : List Char :=
  ['\\', 'u'] ++ [n / 4096, n / 256 % 16, n / 16 % 16, n % 16].map Text.hexDigit

/-- A character in quotes that may stand for itself. -/
def isPrintable (c : Char) : Bool :=
  isAllowed c && !isBreak c && !(c ∈ ['"', '\\', '\t', '\r', '\u0085', '\uFEFF'])

def escapeChar (c : Char) : List Char :=
  if isPrintable c then [c]
  else match c with
    | '"' => ['\\', '"']
    | '\\' => ['\\', '\\']
    | '\n' => ['\\', 'n']
    | '\t' => ['\\', 't']
    | '\r' => ['\\', 'r']
    | c => codeEscape c.toNat

def quote (s : String) : List Char :=
  '"' :: s.toList.flatMap escapeChar ++ ['"']

/-- A text that needs no quotes: letters, digits and a few signs that never end a scalar, with a
letter or digit at both ends, which stand for nothing but themselves. -/
def isBare (s : String) : Bool :=
  let isEnd (c : Option Char) : Bool := c.any (·.isAlphanum)
  isEnd s.toList.head? && isEnd s.toList.getLast? &&
    s.toList.all (fun c => c.isAlphanum || c ∈ ['.', '_', '-', '/', ':']) &&
    match plainValue s with
    | .ok (.text _) => true
    | _ => false

def scalarText (s : String) : List Char :=
  if isBare s then s.toList else quote s

/-- A tag of its own, with every character of its name escaped that is not a word character. -/
def tagMark (name : String) : List Char :=
  '!' :: name.toList.flatMap fun c =>
    if isWordChar c then [c]
    else (Text.Utf8.encodeChar c).flatMap fun b =>
      ['%', Text.hexDigit (b.toNat / 16), Text.hexDigit (b.toNat % 16)]

/-! ### Values -/

/-- A value that is written on one line without a tag. -/
def lineText : Value → List Char
  | .null => "null".toList
  | .bool b => (if b then "true" else "false").toList
  | .number n => n.text.toList
  | .text s => scalarText s
  | .sequence _ => "[]".toList
  | .mapping _ => "\x7b\x7d".toList
  | .tagged .. => []

def margin (level : Nat) : List Char :=
  List.replicate (2 * level) ' '

def isShortKey : Value → Bool
  | .text s => s.length ≤ 128
  | .null | .bool _ | .number _ => true
  | _ => false

mutual

/-- What follows a mark, up to the end of its last line. -/
def block (level : Nat) : Value → List Char
  | .tagged tag v => ' ' :: tagMark tag ++ block level v
  | .sequence (v :: vs) => '\n' :: blockItems level (v :: vs)
  | .mapping (e :: es) => '\n' :: blockEntries level (e :: es)
  | v => ' ' :: lineText v ++ ['\n']

def blockItems (level : Nat) : List Value → List Char
  | [] => []
  | v :: vs => margin level ++ '-' :: block (level + 1) v ++ blockItems level vs

def blockEntries (level : Nat) : Entries → List Char
  | [] => []
  | e :: es => blockEntry level e ++ blockEntries level es

def blockEntry (level : Nat) : Value × Value → List Char
  | (k, v) =>
    margin level ++
      (if isShortKey k then lineText k
        else '?' :: block (level + 1) k ++ margin level) ++
      ':' :: block (level + 1) v

end

/-- A key that is taken for the beginning of its mapping where the mapping has no other entry: a
value with a tag, or a mapping of one entry. -/
def isLone : Value → Bool
  | .tagged .. => true
  | .mapping [_] => true
  | _ => false

def hasLoneKey : Entries → Bool
  | [(k, _)] => isLone k
  | _ => false

mutual

/-- The value has a document; `tagged` says that it stands right within a tag. A tag may not stand
right within another, and a lone key only in a mapping with a tag. -/
def isWritable (tagged : Bool) : Value → Bool
  | .tagged _ v => !tagged && isWritable true v
  | .sequence vs => areWritable vs
  | .mapping es => (tagged || !hasLoneKey es) && entriesWritable es
  | _ => true

def areWritable : List Value → Bool
  | [] => true
  | v :: vs => isWritable false v && areWritable vs

def entriesWritable : Entries → Bool
  | [] => true
  | e :: es => entryWritable e && entriesWritable es

def entryWritable : Value × Value → Bool
  | (k, v) => isWritable false k && isWritable false v

end

def write? (v : Value) : Option String :=
  if isWritable false v then some (String.ofList ("---".toList ++ block 0 v)) else none

end XRoad.Yaml
