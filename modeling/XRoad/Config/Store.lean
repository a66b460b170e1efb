import XRoad.Text.Case
import XRoad.Yaml.Value

/-!
# Stores of settings

Settings are values under paths of keys. Keys are compared after their letters are made lower case,
which the store's own keys are already.
-/

namespace XRoad.Config

open Yaml (Value Entries)

/-- Why nothing is found at a path. The path ends where the search ended. -/
inductive LookupError where
  | notMapping (path : List String)
  | missing (path : List String)
  deriving DecidableEq

def LookupError.message : LookupError → String
  | .notMapping path => "Path " ++ ".".intercalate path ++ " is not a Config"
  | .missing path => "Path " ++ ".".intercalate path ++ " does not exist"

def storedKey (key : String) : Value :=
  .text (Text.lower key)

def lookupFrom (walked : List String) : List String → Value → Except LookupError Value
  | [], v => .ok v
  | key :: rest, .mapping es =>
    match Entries.get? es (storedKey key) with
    | some v => lookupFrom (walked ++ [key]) rest v
    | none => .error (.missing (walked ++ [key]))
  | _ :: _, _ => .error (.notMapping walked)

def lookup (path : List String) (data : Value) : Except LookupError Value :=
  lookupFrom [] path data

/-- Sets the value at a path, with new mappings where none are yet; none if something else is in the
way. -/
def set? (value : Value) : List String → Value → Option Value
  | [], _ => some value
  | key :: rest, .mapping es =>
    let inner := (Entries.get? es (storedKey key)).getD (.mapping [])
    (set? value rest inner).map fun v => .mapping (Entries.set es (storedKey key) v)
  | _ :: _, _ => none

/-- Sets a value in place. Every level that is missing is made on the way down, and what is made stays
also when the path cannot be followed to its end, which the second result tells. -/
def setInPlace (value : Value) : List String → Value → Value × Bool
  | [], _ => (value, true)
  | [key], .mapping es => (.mapping (Entries.set es (storedKey key) value), true)
  | key :: rest, .mapping es =>
    let made := Entries.alter (storedKey key) (·.getD (.mapping [])) es
    let step := setInPlace value rest ((Entries.get? made (storedKey key)).getD (.mapping []))
    (.mapping (Entries.set made (storedKey key) step.1), step.2)
  | _ :: _, d => (d, false)

/-! ### Whole stores -/

def lowerKey : Value → Value
  | .text s => .text (Text.lower s)
  | k => k

mutual

/-- The letters of all keys in lower case. Of keys that are then equal the last gives the value, in
the place of the first. -/
def lowerKeys : Value → Value
  | .mapping es => .mapping ((lowerEntries es).foldl (fun done e => Entries.set done e.1 e.2) [])
  | .sequence vs => .sequence (lowerItems vs)
  | v => v

def lowerItems : List Value → List Value
  | [] => []
  | v :: vs => lowerKeys v :: lowerItems vs

def lowerEntries : Entries → Entries
  | [] => []
  | e :: es => lowerEntry e :: lowerEntries es

def lowerEntry : Value × Value → Value × Value
  | (k, v) => (lowerKey k, lowerKeys v)

end

mutual

/-- The second value over the first: mappings are merged key by key, all else is replaced. -/
def merge : Value → Value → Value
  | .mapping es, .mapping fs => .mapping (mergeEntries es fs)
  | _, v => v

def mergeEntries : Entries → Entries → Entries
  | es, [] => es
  | es, f :: fs => mergeEntries (mergeEntry es f) fs

def mergeEntry : Entries → Value × Value → Entries
  | es, (k, v) => Entries.alter k (fun
    | some old => merge old v
    | none => v) es

end

/-! ### Variables -/

def overrideStart : String := "XRDCODEC_CONFIG__"

/-- The pieces of a text between its pairs of low lines. -/
def splitKeys : List Char → List (List Char)
  | [] => [[]]
  | '_' :: '_' :: rest => [] :: splitKeys rest
  | c :: rest =>
    match splitKeys rest with
    | piece :: pieces => (c :: piece) :: pieces
    | [] => [[c]]

def overridePath? (name : String) : Option (List String) :=
  if overrideStart.toList.isPrefixOf name.toList then
    some ((splitKeys (name.toList.drop overrideStart.length)).map String.ofList)
  else none

/-- Sets what a variable overrides, where that is possible. `read` makes a value of its text. -/
def override (read : String → Value) (data : Value) (setting : String × String) : Value :=
  match overridePath? setting.1 with
  | some path => (set? (read setting.2) path data).getD data
  | none => data

def overrideAll (read : String → Value) (environment : List (String × String)) (data : Value) : Value :=
  environment.foldl (override read) data

end XRoad.Config
