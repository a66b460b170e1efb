import XRoad.Text.CaseTable

/-!
# Upper and lower case

The full case mappings: one character may become several, and a sigma at the end of a word has a
lower-case form of its own.
-/

namespace XRoad.Text

def shifted? (table : List Shift) (n : Nat) : Option Char :=
  (table.find? fun s => s.first ≤ n && n ≤ s.last && (n - s.first) % s.step == 0).map
    fun s => Char.ofNat ((n : Int) + s.offset).toNat

def mapped (long : List (Nat × List Nat)) (table : List Shift) (c : Char) : List Char :=
  match long.lookup c.toNat with
  | some ns => ns.map Char.ofNat
  | none => [(shifted? table c.toNat).getD c]

def upperChar (c : Char) : List Char :=
  if c.toNat < 0x80 then [c.toUpper] else mapped CaseTable.upperLong CaseTable.upper c

def lowerChar (c : Char) : List Char :=
  if c.toNat < 0x80 then [c.toLower] else mapped CaseTable.lowerLong CaseTable.lower c

def isIn (ranges : List (Nat × Nat)) (c : Char) : Bool :=
  ranges.any fun r => r.1 ≤ c.toNat && c.toNat ≤ r.2

/-- The first character that is not case-ignorable is a cased one. -/
def meetsCased (cs : List Char) : Bool :=
  match cs.dropWhile (isIn CaseTable.caseIgnorable) with
  | [] => false
  | c :: _ => isIn CaseTable.cased c

def upper (s : String) : String :=
  String.ofList (s.toList.flatMap upperChar)

/-- Lower case of the characters after `before`, which stands in reverse. A sigma is final when a
cased character comes before it and none after it. -/
def lowerChars : (before : List Char) → List Char → List Char
  | _, [] => []
  | before, c :: rest =>
    (if c == 'Σ' then
      if meetsCased before && !meetsCased rest then ['ς'] else ['σ']
    else lowerChar c) ++ lowerChars (c :: before) rest

def lower (s : String) : String :=
  String.ofList (lowerChars [] s.toList)

/-- Equal up to the case of ASCII letters. -/
def sameLetters (s t : String) : Bool :=
  s.toList.map Char.toLower == t.toList.map Char.toLower

end XRoad.Text
