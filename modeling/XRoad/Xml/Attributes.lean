import XRoad.Xml.Error
import XRoad.Xml.Escape
import XRoad.Xml.Token

/-!
# Attributes of a tag

The attributes that stand behind the name in a tag, in order. A key runs to an equals sign or a
space, a value from a quote to the same quote, and no key may come twice.
-/

namespace XRoad.Xml

open Text (Raw)
open Token (isSpace)

namespace Attributes

/-- The key, the value and the input behind the first attribute of input that begins with the
character `c` of a key. -/
def next? (c : Option Char) (input : Raw) : Option (Raw × Raw × Raw) :=
  let inKey (c : Option Char) : Bool := c != some '=' && !isSpace c
  match (input.dropWhile inKey).dropWhile isSpace with
  | some '=' :: rest =>
    match rest.dropWhile isSpace with
    | q :: rest =>
      if q = some '"' ∨ q = some '\'' then
        match rest.dropWhile (· != q) with
        | _ :: after => some (c :: input.takeWhile inKey, rest.takeWhile (· != q), after)
        | [] => none
      else none
    | [] => none
  | _ => none

theorem length_dropWhile_le (p : Option Char → Bool) (input : Raw) :
    (input.dropWhile p).length ≤ input.length :=
  (List.dropWhile_suffix p).length_le

theorem next?_length {c : Option Char} {input key value after : Raw}
    (h : next? c input = some (key, value, after)) : after.length < input.length := by
  unfold next? at h
  simp only at h
  split at h
  · next rest e =>
    have l := length_dropWhile_le isSpace (input.dropWhile fun c => c != some '=' && !isSpace c)
    have l' := length_dropWhile_le (fun c => c != some '=' && !isSpace c) input
    rw [e, List.length_cons] at l
    split at h
    · next q rest' e' =>
      have m := length_dropWhile_le isSpace rest
      rw [e', List.length_cons] at m
      split at h
      · split at h
        · next x after' e'' =>
          have n := length_dropWhile_le (· != q) rest'
          rw [e'', List.length_cons] at n
          simp only [Option.some.injEq, Prod.mk.injEq] at h
          rw [← h.2.2]
          omega
        · simp at h
      · simp at h
    · simp at h
  · simp at h

def text (raw : Raw) : Except Error String :=
  match raw.text? with
  | some s => .ok s
  | none => .error (.encoding "bytes are not UTF-8")

/-- The value of an attribute, its references resolved. -/
def value (raw : Raw) : Except Error String := do
  let s ← text raw
  match unescape s.toList with
  | some cs => .ok (String.ofList cs)
  | none => .error (.attribute "a reference in the value cannot be read")

/-- The keys and values in a tag, behind the attributes with the keys `seen`. -/
def list (seen : List Raw) (input : Raw) : Except Error (List (String × String)) :=
  match _e : input.dropWhile isSpace with
  | [] => .ok []
  | c :: rest =>
    match _h : next? c rest with
    | none => .error (.attribute "a key needs a quoted value")
    | some (k, v, after) =>
      if k ∈ seen then .error (.attribute "a key comes twice")
      else do
        let key ← text k
        let value ← value v
        let others ← list (k :: seen) after
        .ok ((key, value) :: others)
termination_by input.length
decreasing_by
  have l := length_dropWhile_le isSpace input
  have m := next?_length ‹next? c rest = _›
  rw [‹input.dropWhile isSpace = _›, List.length_cons] at l
  omega

end Attributes

end XRoad.Xml
