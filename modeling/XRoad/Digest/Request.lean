import XRoad.Digest.Base64
import XRoad.Digest.Sha512
import XRoad.Text.Numeral

/-!
# Request hashes

The hash of a message as a header announces it, and the identifiers that messages are told apart by.
-/

namespace XRoad.Digest

def algorithm : String := "SHA-512"

def requestHash (bytes : List UInt8) : String :=
  String.ofList (base64 (sha512 bytes))

def hexByte (b : UInt8) : List Char :=
  [Text.hexDigit (b.toNat / 16), Text.hexDigit (b.toNat % 16)]

/-- A random identifier, version 4 of the standard form, from sixteen random bytes: the seventh and
ninth give up some of their bits to the version and the variant. -/
def uuid (random : List UInt8) : String :=
  let byte (i : Nat) : UInt8 :=
    let b := random.getD i 0
    if i = 6 then 0x40 ||| (b &&& 0x0F) else if i = 8 then 0x80 ||| (b &&& 0x3F) else b
  let group (first last : Nat) : List Char :=
    (List.range' first (last - first)).flatMap fun i => hexByte (byte i)
  String.ofList (group 0 4 ++ '-' :: group 4 6 ++ '-' :: group 6 8 ++ '-' :: group 8 10 ++
    '-' :: group 10 16)

end XRoad.Digest
