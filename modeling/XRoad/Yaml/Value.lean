import XRoad.Decimal.Binary64

/-!
# YAML values

Mappings keep the order of their keys, which may be any values. Keys are told apart by `same`, to
which the order of a mapping does not matter.
-/

namespace XRoad.Yaml

inductive Number where
  | integer (n : Int)
  | float (x : Binary64)
  deriving DecidableEq

namespace Number

/-- Equal as numbers of one kind; not-a-number is equal to itself, and the zeros to each other. -/
def same : Number → Number → Bool
  | .integer m, .integer n => m == n
  | .float (.finite _ 0), .float (.finite _ 0) => true
  | .float x, .float y => x == y
  | _, _ => false

def text : Number → String
  | .integer n => toString n
  | .float x => String.ofList x.write

end Number

inductive Value where
  | null
  | bool (b : Bool)
  | number (n : Number)
  | text (s : String)
  | sequence (items : List Value)
  | mapping (entries : List (Value × Value))
  | tagged (tag : String) (value : Value)
  deriving Inhabited

abbrev Entries := List (Value × Value)

namespace Value

mutual

/-- Equal up to the order of mappings. -/
def same : Value → Value → Bool
  | .null, .null => true
  | .bool a, .bool b => a == b
  | .number m, .number n => m.same n
  | .text s, .text t => s == t
  | .sequence as, .sequence bs => sameItems as bs
  | .mapping as, .mapping bs => as.length == bs.length && sameEntries as bs
  | .tagged s a, .tagged t b => s == t && same a b
  | _, _ => false

def sameItems : List Value → List Value → Bool
  | [], [] => true
  | a :: as, b :: bs => same a b && sameItems as bs
  | _, _ => false

def sameEntries : Entries → Entries → Bool
  | [], _ => true
  | e :: rest, bs => bs.any (fun f => sameEntry e f) && sameEntries rest bs

def sameEntry : Value × Value → Value × Value → Bool
  | (k, v), (l, w) => same k l && same v w

end

end Value

namespace Entries

def get? (es : Entries) (key : Value) : Option Value :=
  (es.find? fun e => key.same e.1).map (·.2)

/-- Gives a key a value made from the one it has; a new key comes after all others. -/
def alter (key : Value) (f : Option Value → Value) : Entries → Entries
  | [] => [(key, f none)]
  | (k, v) :: rest => if key.same k then (k, f (some v)) :: rest else (k, v) :: alter key f rest

def set (es : Entries) (key value : Value) : Entries :=
  alter key (fun _ => value) es

end Entries

end XRoad.Yaml
