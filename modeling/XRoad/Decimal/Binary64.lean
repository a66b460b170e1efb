/-!
# Binary floating point

Numbers of 64 bits in exact arithmetic. A finite number is a count of units of 2⁻¹⁰⁷⁴, of which the
first 53 binary digits may differ from zero. Decimals are rounded to the nearest such number, and a
number is written with the fewest digits that are rounded back to it.
-/

namespace XRoad

inductive Binary64 where
  | nan
  | infinity (negative : Bool)
  /-- So many units of 2⁻¹⁰⁷⁴. -/
  | finite (negative : Bool) (units : Nat)
  deriving DecidableEq

namespace Binary64

def twoTo (n : Nat) : Nat :=
  Nat.pow 2 n

def tenTo (n : Nat) : Nat :=
  Nat.pow 10 n

def bitLength (n : Nat) : Nat :=
  if n = 0 then 0 else n.log2 + 1

/-- How many low binary digits of a number must be zero. -/
def spareBits (n : Nat) : Nat :=
  bitLength n - 53

/-- The quotient to the nearest whole number, a half to the even one. -/
def roundedDiv (n d : Nat) : Nat :=
  let q := n / d
  let r := 2 * (n % d)
  if r < d ∨ (r = d ∧ q % 2 = 0) then q else q + 1

def nearestUnits (n d : Nat) : Nat :=
  let step := twoTo (spareBits (n * twoTo 1074 / d))
  roundedDiv (n * twoTo 1074) (d * step) * step

def unitLimit : Nat :=
  twoTo (1024 + 1074)

def ofDecimal (negative : Bool) (digits : Nat) (exponent : Int) : Binary64 :=
  let size := (Nat.toDigits 10 digits).length
  if digits = 0 ∨ exponent + size < -330 then .finite negative 0
  else if 310 < exponent + size then .infinity negative
  else
    let units :=
      if exponent < 0 then nearestUnits digits (tenTo (-exponent).toNat)
      else nearestUnits (digits * tenTo exponent.toNat) 1
    if units < unitLimit then .finite negative units else .infinity negative

/-! ### Shortest decimals -/

/-- `digits * 10 ^ exponent`. -/
structure Decimal where
  digits : Nat
  exponent : Int
  deriving DecidableEq

/-- Four times the units of a decimal as a quotient. -/
def Decimal.scaled (d : Decimal) : Nat × Nat :=
  if d.exponent < 0 then (4 * d.digits * twoTo 1074, tenTo (-d.exponent).toNat)
  else (4 * d.digits * tenTo d.exponent.toNat * twoTo 1074, 1)

/-- The decimal is rounded to this count of units: it lies between the middles to the numbers on
either side, or on one of them when the number is even. -/
def readsAs (units : Nat) (d : Decimal) : Bool :=
  let (n, m) := d.scaled
  let spare := spareBits units
  let leading := units / twoTo spare
  let below := if leading = twoTo 52 ∧ spare ≠ 0 then twoTo spare else 2 * twoTo spare
  let low := (4 * units - below) * m
  let high := (4 * units + 2 * twoTo spare) * m
  if leading % 2 = 0 then low ≤ n && n ≤ high else low < n && n < high

def leadingExponent (units : Nat) : Int :=
  ((Nat.toDigits 10 (units * tenTo 324 / twoTo 1074)).length : Int) - 325

/-- The two decimals of a last digit's exponent on either side of a number, the nearer one first,
and of two as near the even one. -/
def neighbours (units : Nat) (exponent : Int) : List Decimal :=
  let (n, m) :=
    if exponent < 0 then (units * tenTo (-exponent).toNat, twoTo 1074)
    else (units, twoTo 1074 * tenTo exponent.toNat)
  let below : Decimal := ⟨n / m, exponent⟩
  let above : Decimal := ⟨n / m + 1, exponent⟩
  if roundedDiv n m = n / m then [below, above] else [above, below]

/-- The shortest decimal that is read as a number, the nearest of those. `n` more digits are tried. -/
def shortestFrom (units : Nat) (exponent : Int) : (n : Nat) → Decimal
  | 0 => ⟨0, 0⟩
  | n + 1 =>
    match (neighbours units exponent).find? (readsAs units) with
    | some d => d
    | none => shortestFrom units (exponent - 1) n

def Decimal.trimmed (d : Decimal) : Decimal :=
  let zeros := ((Nat.toDigits 10 d.digits).reverse.takeWhile (· == '0')).length
  if d.digits = 0 then d else ⟨d.digits / tenTo zeros, d.exponent + zeros⟩

def shortest (units : Nat) : Decimal :=
  (shortestFrom units (leadingExponent units) 17).trimmed

/-- A decimal written out when its point stands at most five digits before its first digit and
sixteen behind it, and else with an exponent. A whole number keeps a zero behind the point. -/
def Decimal.write (d : Decimal) : List Char :=
  let digits := Nat.toDigits 10 d.digits
  let point := d.exponent + digits.length
  if 0 ≤ d.exponent ∧ point ≤ 16 then
    digits ++ List.replicate d.exponent.toNat '0' ++ ".0".toList
  else if 0 < point ∧ point ≤ 16 then
    digits.take point.toNat ++ '.' :: digits.drop point.toNat
  else if -5 < point ∧ point ≤ 0 then
    "0.".toList ++ List.replicate (-point).toNat '0' ++ digits
  else
    let mantissa := match digits with
      | first :: second :: rest => first :: '.' :: second :: rest
      | short => short
    mantissa ++ 'e' :: (toString (point - 1)).toList

/-- The text of a number, with a point before the words for those that are not finite. -/
def write : Binary64 → List Char
  | .nan => ".nan".toList
  | .infinity negative => (if negative then "-.inf" else ".inf").toList
  | .finite negative units =>
    (if negative then ['-'] else []) ++
      if units = 0 then "0.0".toList else (shortest units).write

end Binary64

end XRoad
