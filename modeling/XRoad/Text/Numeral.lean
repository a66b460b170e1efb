/-!
# Numerals

Digits of a radix up to sixteen read as a number, and a number written with them.
-/

namespace XRoad.Text

def digitValue? (radix : Nat) (c : Char) : Option Nat :=
  let n := c.toNat
  let v :=
    if 48 ≤ n ∧ n ≤ 57 then n - 48
    else if 97 ≤ n ∧ n ≤ 102 then n - 87
    else if 65 ≤ n ∧ n ≤ 70 then n - 55
    else radix
  if v < radix then some v else none

def numeralFrom? (radix : Nat) : Nat → List Char → Option Nat
  | n, [] => some n
  | n, c :: cs => (digitValue? radix c).bind fun d => numeralFrom? radix (n * radix + d) cs

/-- The number that one or more digits write. -/
def numeral? (radix : Nat) (cs : List Char) : Option Nat :=
  if cs.isEmpty then none else numeralFrom? radix 0 cs

def hexDigit (n : Nat) : Char :=
  if n < 10 then Char.ofNat (48 + n) else Char.ofNat (87 + n)

end XRoad.Text
