/-!
# SHA-512

The hash of a byte list. The constants of the algorithm are the first 64 bits after the point of
the square and cube roots of the first primes, and are computed here from that rule.
-/

namespace XRoad.Digest

/-- The greatest number with `r ^ k ≤ n` that is `r` plus a number of so many bits. -/
def rootFrom (k n : Nat) : (bits : Nat) → (r : Nat) → Nat
  | 0, r => r
  | bits + 1, r => rootFrom k n bits (if Nat.pow (r + Nat.pow 2 bits) k ≤ n then r + Nat.pow 2 bits else r)

theorem rootFrom_pow_le {k n bits r : Nat} (h : Nat.pow r k ≤ n) :
    Nat.pow (rootFrom k n bits r) k ≤ n := by
  induction bits generalizing r with
  | zero => exact h
  | succ bits ih => rw [rootFrom]; split <;> exact ih (by assumption)

/-- The first 64 bits after the point of the `k`-th root of a number below 512. -/
def rootFraction (k n : Nat) : UInt64 :=
  .ofNat (rootFrom k (n * Nat.pow 2 (64 * k)) 69 0)

def isPrime (n : Nat) : Bool :=
  2 ≤ n && (List.range n).all fun d => d < 2 || n % d != 0

def primes : List Nat :=
  (List.range 410).filter isPrime

structure State where
  a : UInt64
  b : UInt64
  c : UInt64
  d : UInt64
  e : UInt64
  f : UInt64
  g : UInt64
  h : UInt64

namespace State

def ofWords : List UInt64 → State
  | a :: b :: c :: d :: e :: f :: g :: h :: _ => ⟨a, b, c, d, e, f, g, h⟩
  | _ => ⟨0, 0, 0, 0, 0, 0, 0, 0⟩

def words (s : State) : List UInt64 :=
  [s.a, s.b, s.c, s.d, s.e, s.f, s.g, s.h]

def add (s t : State) : State :=
  ofWords (s.words.zipWith (· + ·) t.words)

end State

def roundConstants : List UInt64 :=
  primes.map (rootFraction 3)

def start : State :=
  .ofWords (primes.map (rootFraction 2))

def rotate (x n : UInt64) : UInt64 :=
  (x >>> n) ||| (x <<< (64 - n))

def round (s : State) (constant word : UInt64) : State :=
  let choice := (s.e &&& s.f) ^^^ ((~~~s.e) &&& s.g)
  let majority := (s.a &&& s.b) ^^^ (s.a &&& s.c) ^^^ (s.b &&& s.c)
  let mixedE := rotate s.e 14 ^^^ rotate s.e 18 ^^^ rotate s.e 41
  let mixedA := rotate s.a 28 ^^^ rotate s.a 34 ^^^ rotate s.a 39
  let t := s.h + mixedE + choice + constant + word
  ⟨t + mixedA + majority, s.a, s.b, s.c, s.d + t, s.e, s.f, s.g⟩

/-- The next word of the schedule, from the sixteen before it, the nearest first. -/
def nextWord (recent : List UInt64) : UInt64 :=
  let back (n : Nat) : UInt64 := recent.getD (n - 1) 0
  let x := back 15
  let y := back 2
  back 16 + (rotate x 1 ^^^ rotate x 8 ^^^ (x >>> 7)) + back 7 +
    (rotate y 19 ^^^ rotate y 61 ^^^ (y >>> 6))

/-- The words of a block, and as many after them as `constants` asks for, each used in a round.
`words` are the words of the block that are left, `recent` the last sixteen that were used. -/
def rounds : (constants words recent : List UInt64) → State → State
  | [], _, _, s => s
  | k :: ks, w :: words, recent, s => rounds ks words ((w :: recent).take 16) (round s k w)
  | k :: ks, [], recent, s =>
    let w := nextWord recent
    rounds ks [] ((w :: recent).take 16) (round s k w)

def wordOf (bytes : List UInt8) : UInt64 :=
  bytes.foldl (fun w b => w <<< 8 ||| b.toUInt64) 0

def bytesOfWord (w : UInt64) : List UInt8 :=
  ([56, 48, 40, 32, 24, 16, 8, 0] : List UInt64).map fun n => (w >>> n).toUInt8

/-- A list in pieces of `n + 1`, the last one perhaps shorter. -/
def pieces {α : Type} (n : Nat) (as : List α) : List (List α) :=
  match as with
  | [] => []
  | a :: rest => (a :: rest.take n) :: pieces n (rest.drop n)
termination_by as.length
decreasing_by simp only [List.length_drop, List.length_cons]; omega

/-- The bytes with a set bit, zeros and their own length in bits after them, whole blocks in all. -/
def padded (bytes : List UInt8) : List UInt8 :=
  let n := bytes.length
  let zeros := (239 - n % 128) % 128
  bytes ++ 0x80 :: List.replicate zeros 0 ++
    (List.replicate 8 0 ++ bytesOfWord (.ofNat (n * 8)))

def absorb (s : State) (block : List UInt8) : State :=
  s.add (rounds roundConstants ((pieces 7 block).map wordOf) [] s)

def sha512 (bytes : List UInt8) : List UInt8 :=
  ((pieces 127 (padded bytes)).foldl absorb start).words.flatMap bytesOfWord

end XRoad.Digest
