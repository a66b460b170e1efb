import XRoad.Text.Numeral

/-!
# JSON text

Values with the fields of objects in a fixed order, and their indented text.
-/

namespace XRoad

inductive Json where
  | null
  | bool (b : Bool)
  | text (s : String)
  | list (items : List Json)
  | object (fields : List (String × Json))

namespace Json

def ofOption {α : Type} (f : α → Json) : Option α → Json
  | none => .null
  | some a => f a

def textOrNull : Option String → Json :=
  ofOption .text

def escapeChar (c : Char) : List Char :=
  if c = '"' then ['\\', '"']
  else if c = '\\' then ['\\', '\\']
  else if c.toNat = 8 then ['\\', 'b']
  else if c.toNat = 9 then ['\\', 't']
  else if c.toNat = 10 then ['\\', 'n']
  else if c.toNat = 12 then ['\\', 'f']
  else if c.toNat = 13 then ['\\', 'r']
  else if c.toNat < 32 then
    ['\\', 'u', '0', '0', Text.hexDigit (c.toNat / 16), Text.hexDigit (c.toNat % 16)]
  else [c]

def quote (s : String) : List Char :=
  '"' :: s.toList.flatMap escapeChar ++ ['"']

/-- A new line, indented by two spaces for each level. -/
def newline (level : Nat) : List Char :=
  '\n' :: List.replicate (2 * level) ' '

mutual

def print (level : Nat) : Json → List Char
  | .null => "null".toList
  | .bool b => (if b then "true" else "false").toList
  | .text s => quote s
  | .list [] => ['[', ']']
  | .list items => '[' :: printItems (level + 1) items ++ newline level ++ [']']
  | .object [] => "\x7b\x7d".toList
  | .object fields => '\x7b' :: printFields (level + 1) fields ++ newline level ++ ['\x7d']

def printItems (level : Nat) : List Json → List Char
  | [] => []
  | [item] => newline level ++ print level item
  | item :: rest => newline level ++ print level item ++ ',' :: printItems level rest

def printFields (level : Nat) : List (String × Json) → List Char
  | [] => []
  | [(key, value)] => newline level ++ quote key ++ ": ".toList ++ print level value
  | (key, value) :: rest =>
    newline level ++ quote key ++ ": ".toList ++ print level value ++ ',' :: printFields level rest

end

def pretty (j : Json) : String :=
  String.ofList (print 0 j)

end Json

end XRoad
