/-!
# Base64

Three bytes as four characters, with padding for a last group that is not full.
-/

namespace XRoad.Digest

def sextet (n : Nat) : Char :=
  let n := n % 64
  if n < 26 then Char.ofNat (65 + n)
  else if n < 52 then Char.ofNat (71 + n)
  else if n < 62 then Char.ofNat (n - 4)
  else if n = 62 then '+'
  else '/'

def base64 : List UInt8 → List Char
  | [] => []
  | [a] =>
    let n := a.toNat * 16
    [sextet (n / 64), sextet n, '=', '=']
  | [a, b] =>
    let n := (a.toNat * 256 + b.toNat) * 4
    [sextet (n / 4096), sextet (n / 64), sextet n, '=']
  | a :: b :: c :: rest =>
    let n := (a.toNat * 256 + b.toNat) * 256 + c.toNat
    sextet (n / 262144) :: sextet (n / 4096) :: sextet (n / 64) :: sextet n :: base64 rest

theorem length_base64 (bytes : List UInt8) : (base64 bytes).length = (bytes.length + 2) / 3 * 4 := by
  fun_induction base64 bytes with
  | case4 a b c rest n ih => simp only [List.length_cons, ih]; omega
  | _ => simp

end XRoad.Digest
