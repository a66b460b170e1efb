/-!
# UTF-8

Characters as bytes and back. `encode` writes; `decode` reads any bytes at all, and a byte that
belongs to no character stands in its result as `none`. `text?` is the text when there is no such
byte.
-/

namespace XRoad.Text

/-- Bytes read as characters, `none` for each byte that is part of no character. -/
abbrev Raw := List (Option Char)

def Raw.text? (raw : Raw) : Option String :=
  (raw.mapM id).map String.ofList

/-- The text with U+FFFD for each stray byte. -/
def Raw.lossy (raw : Raw) : String :=
  String.ofList (raw.map (·.getD '\uFFFD'))

namespace Utf8

def encodeChar (c : Char) : List UInt8 :=
  if c.toNat < 0x80 then [.ofNat c.toNat]
  else if c.toNat < 0x800 then [.ofNat (0xC0 + c.toNat / 64), .ofNat (0x80 + c.toNat % 64)]
  else if c.toNat < 0x10000 then
    [.ofNat (0xE0 + c.toNat / 4096), .ofNat (0x80 + c.toNat / 64 % 64), .ofNat (0x80 + c.toNat % 64)]
  else
    [.ofNat (0xF0 + c.toNat / 262144), .ofNat (0x80 + c.toNat / 4096 % 64),
      .ofNat (0x80 + c.toNat / 64 % 64), .ofNat (0x80 + c.toNat % 64)]

def encode (cs : List Char) : List UInt8 :=
  cs.flatMap encodeChar

def tail? (b : UInt8) : Option Nat :=
  if 0x80 ≤ b.toNat ∧ b.toNat < 0xC0 then some (b.toNat - 0x80) else none

/-- The character of a number, if it is a scalar value of at least `least`. -/
def scalar? (least n : Nat) : Option Char :=
  if least ≤ n ∧ n.isValidChar then some (Char.ofNat n) else none

/-- The number that begins with the bits of `n` and goes on in the next `k` continuation bytes. -/
def continued? : (k n : Nat) → List UInt8 → Option Nat
  | 0, n, _ => some n
  | k + 1, n, b :: rest => (tail? b).bind fun x => continued? k (n * 64 + x) rest
  | _ + 1, _, [] => none

/-- The character that begins with byte `b`, and how many of the bytes after it are its own. -/
def lead? (b : UInt8) (rest : List UInt8) : Option (Char × Nat) :=
  let n := b.toNat
  if n < 0x80 then some (Char.ofNat n, 0)
  else if n < 0xC2 then none
  else if n < 0xE0 then ((continued? 1 (n - 0xC0) rest).bind (scalar? 0x80)).map (·, 1)
  else if n < 0xF0 then ((continued? 2 (n - 0xE0) rest).bind (scalar? 0x800)).map (·, 2)
  else if n < 0xF8 then ((continued? 3 (n - 0xF0) rest).bind (scalar? 0x10000)).map (·, 3)
  else none

/-- `decode` of the bytes after the first `skip`, which belong to the character before. -/
def decodeAfter : Nat → List UInt8 → Raw
  | _, [] => []
  | skip + 1, _ :: rest => decodeAfter skip rest
  | 0, b :: rest =>
    match lead? b rest with
    | some (c, skip) => some c :: decodeAfter skip rest
    | none => none :: decodeAfter 0 rest

def decode (bytes : List UInt8) : Raw :=
  decodeAfter 0 bytes

theorem decodeAfter_eq (skip : Nat) (bytes : List UInt8) :
    decodeAfter skip bytes = decode (bytes.drop skip) := by
  induction bytes generalizing skip with
  | nil => simp [decodeAfter, decode]
  | cons b rest ih =>
    cases skip with
    | zero => rfl
    | succ skip => rw [decodeAfter, ih, List.drop_succ_cons]

theorem toNat_ofNat {n : Nat} (h : n < 256) : (UInt8.ofNat n).toNat = n := by
  simp [Nat.mod_eq_of_lt h]

theorem tail?_ofNat {n : Nat} (h : n < 64) : tail? (.ofNat (0x80 + n)) = some n := by
  rw [tail?, toNat_ofNat (by omega), if_pos (by omega), Nat.add_sub_cancel_left]

theorem continued?_ofNat {k n x : Nat} (h : x < 64) (rest : List UInt8) :
    continued? (k + 1) n (.ofNat (0x80 + x) :: rest) = continued? k (n * 64 + x) rest := by
  rw [continued?, tail?_ofNat h, Option.bind_some]

theorem scalar?_toNat {c : Char} {least : Nat} (h : least ≤ c.toNat) :
    scalar? least c.toNat = some c := by
  rw [scalar?, if_pos ⟨h, c.valid⟩, Char.ofNat_toNat]

/-- An encoded character is read back, whatever bytes follow it. -/
theorem lead?_encodeChar (c : Char) (rest : List UInt8) :
    ∃ b tail, encodeChar c = b :: tail ∧ lead? b (tail ++ rest) = some (c, tail.length) := by
  have size : c.toNat < 0x110000 := by
    have valid := c.valid
    simp only [UInt32.isValidChar, Nat.isValidChar] at valid
    change c.val.toNat < _
    omega
  by_cases one : c.toNat < 0x80
  · refine ⟨.ofNat c.toNat, [], by simp [encodeChar, one], ?_⟩
    simp only [lead?, toNat_ofNat (show c.toNat < 256 by omega), one, if_true, Char.ofNat_toNat]
    rfl
  by_cases two : c.toNat < 0x800
  · refine ⟨_, _, by simp only [encodeChar, one, two, if_true, if_false]; rfl, ?_⟩
    simp only [lead?, List.cons_append, List.nil_append]
    rw [toNat_ofNat (by omega), if_neg (by omega), if_neg (by omega), if_pos (by omega),
      Nat.add_sub_cancel_left, continued?_ofNat (by omega), continued?,
      show c.toNat / 64 * 64 + c.toNat % 64 = c.toNat by omega, Option.bind_some,
      scalar?_toNat (by omega), Option.map_some]
    rfl
  by_cases three : c.toNat < 0x10000
  · refine ⟨_, _, by simp only [encodeChar, one, two, three, if_true, if_false]; rfl, ?_⟩
    simp only [lead?, List.cons_append, List.nil_append]
    rw [toNat_ofNat (by omega), if_neg (by omega), if_neg (by omega), if_neg (by omega),
      if_pos (by omega), Nat.add_sub_cancel_left, continued?_ofNat (by omega),
      continued?_ofNat (by omega), continued?,
      show (c.toNat / 4096 * 64 + c.toNat / 64 % 64) * 64 + c.toNat % 64 = c.toNat by omega,
      Option.bind_some, scalar?_toNat (by omega), Option.map_some]
    rfl
  · refine ⟨_, _, by simp only [encodeChar, one, two, three, if_false]; rfl, ?_⟩
    simp only [lead?, List.cons_append, List.nil_append]
    rw [toNat_ofNat (by omega), if_neg (by omega), if_neg (by omega), if_neg (by omega),
      if_neg (by omega), if_pos (by omega), Nat.add_sub_cancel_left, continued?_ofNat (by omega),
      continued?_ofNat (by omega), continued?_ofNat (by omega), continued?,
      show ((c.toNat / 262144 * 64 + c.toNat / 4096 % 64) * 64 + c.toNat / 64 % 64) * 64 +
        c.toNat % 64 = c.toNat by omega,
      Option.bind_some, scalar?_toNat (by omega), Option.map_some]
    rfl

theorem decode_encodeChar_append (c : Char) (rest : List UInt8) :
    decode (encodeChar c ++ rest) = some c :: decode rest := by
  obtain ⟨b, tail, written, read⟩ := lead?_encodeChar c rest
  rw [written, List.cons_append, decode, decodeAfter, read]
  simp [decodeAfter_eq]

theorem decode_encode (cs : List Char) : decode (encode cs) = cs.map some := by
  induction cs with
  | nil => rfl
  | cons c cs ih =>
    rw [encode, List.flatMap_cons, decode_encodeChar_append, ← encode, ih, List.map_cons]

end Utf8

def bytes (s : String) : List UInt8 :=
  Utf8.encode s.toList

def ofBytes? (bs : List UInt8) : Option String :=
  (Utf8.decode bs).text?

theorem text?_map_some (cs : List Char) : Raw.text? (cs.map some) = some (String.ofList cs) := by
  have all : (cs.map some).mapM id = some cs := by
    induction cs with
    | nil => rfl
    | cons c cs ih => simp [ih]
  rw [Raw.text?, all, Option.map_some]

theorem ofBytes?_bytes (s : String) : ofBytes? (bytes s) = some s := by
  rw [ofBytes?, bytes, Utf8.decode_encode, text?_map_some, String.ofList_toList]

end XRoad.Text
