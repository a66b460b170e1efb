import XRoad.Text.Numeral
import XRoad.Yaml.Value

/-!
# Scalars

What a scalar without quotes stands for: null, a truth value, a number, and else its text. A tag of
the core schema asks for one of these kinds.
-/

namespace XRoad.Yaml

inductive Error where
  | encoding
  | malformed (reason : String)
  | unknownAnchor (name : String)
  | duplicateKey
  | tooDeep
  | tooManyAliases
  | severalDocuments
  /-- A scalar is not of the kind that its tag says, or is an integer out of range. -/
  | unreadable (scalar : String)
  deriving DecidableEq

/-! ### Numbers -/

def splitSign : List Char → Option Char × List Char
  | '+' :: rest => (some '+', rest)
  | '-' :: rest => (some '-', rest)
  | cs => (none, cs)

/-- More than one digit with a zero in front, which makes a text. -/
def isPadded (cs : List Char) : Bool :=
  match (splitSign cs).2 with
  | '0' :: c :: rest => (c :: rest).all Char.isDigit
  | _ => false

/-- A number without a sign: in a radix that its beginning names, or decimal. -/
def magnitude? (cs : List Char) : Option Nat :=
  let digits := match cs with
    | '0' :: 'x' :: rest => (16, rest)
    | '0' :: 'o' :: rest => (8, rest)
    | '0' :: 'b' :: rest => (2, rest)
    | cs => (10, cs)
  Text.numeral? digits.1 digits.2

def integer? (cs : List Char) : Option Int :=
  if isPadded cs then none
  else match splitSign cs with
    | (some '-', rest) => (magnitude? rest).map fun n => -(n : Int)
    | (_, rest) => (magnitude? rest).map Int.ofNat

def exponent? : List Char → Option Int
  | [] => some 0
  | c :: rest =>
    if c = 'e' ∨ c = 'E' then
      match splitSign rest with
      | (some '-', digits) => (Text.numeral? 10 digits).map fun n => -(n : Int)
      | (_, digits) => (Text.numeral? 10 digits).map Int.ofNat
    else none

/-- A decimal without a sign: digits with perhaps a point among them, and perhaps an exponent. -/
def decimal? (negative : Bool) (cs : List Char) : Option Binary64 :=
  let whole := cs.takeWhile Char.isDigit
  let rest := cs.dropWhile Char.isDigit
  let (fraction, rest) := match rest with
    | '.' :: rest => (rest.takeWhile Char.isDigit, rest.dropWhile Char.isDigit)
    | rest => ([], rest)
  (Text.numeral? 10 (whole ++ fraction)).bind fun digits =>
    (exponent? rest).map fun e => Binary64.ofDecimal negative digits (e - fraction.length)

def float? (cs : List Char) : Option Binary64 :=
  let (sign, rest) := splitSign cs
  if rest ∈ [".inf".toList, ".Inf".toList, ".INF".toList] then some (.infinity (sign == some '-'))
  else if cs ∈ [".nan".toList, ".NaN".toList, ".NAN".toList] then some .nan
  else match decimal? (sign == some '-') rest with
    | some (.finite negative units) => some (.finite negative units)
    | _ => none

/-- The range of the integers that are kept. -/
def isKept (n : Int) : Bool :=
  -(Nat.pow 2 63 : Nat) ≤ n && n < (Nat.pow 2 64 : Nat)

/-- The range of the integers that are recognised. -/
def isRecognised (n : Int) : Bool :=
  -(Nat.pow 2 127 : Nat) ≤ n && n < (Nat.pow 2 128 : Nat)

/-! ### Kinds -/

def isNull (text : String) : Bool :=
  text ∈ ["null", "Null", "NULL", "~"]

def bool? (text : String) : Option Bool :=
  if text ∈ ["true", "True", "TRUE"] then some true
  else if text ∈ ["false", "False", "FALSE"] then some false
  else none

/-- The integer that a text is, none if it is no integer; one out of range is an error. -/
def integerValue? (text : String) : Except Error (Option Value) :=
  match (integer? text.toList).filter isRecognised with
  | none => .ok none
  | some n => if isKept n then .ok (some (.number (.integer n))) else .error (.unreadable text)

def floatValue? (text : String) : Option Value :=
  (float? text.toList).map fun x => .number (.float x)

def plainValue (text : String) : Except Error Value :=
  if text = "" ∨ isNull text then .ok .null
  else match bool? text with
    | some b => .ok (.bool b)
    | none => do
      match ← integerValue? text with
      | some v => .ok v
      | none =>
        if isPadded text.toList then .ok (.text text)
        else .ok ((floatValue? text).getD (.text text))

def coreTag : String := "tag:yaml.org,2002:"

def require (text : String) : Option Value → Except Error Value
  | some v => .ok v
  | none => .error (.unreadable text)

/-- What a scalar with a tag of the core schema stands for; other tags make a text of it. -/
def coreValue (tag text : String) : Except Error Value :=
  if tag = coreTag ++ "bool" then require text ((bool? text).map .bool)
  else if tag = coreTag ++ "int" then do require text (← integerValue? text)
  else if tag = coreTag ++ "float" then require text (floatValue? text)
  else if tag = coreTag ++ "null" then require text (if isNull text then some .null else none)
  else .ok (.text text)

end XRoad.Yaml
