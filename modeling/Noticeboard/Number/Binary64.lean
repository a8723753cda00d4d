/-!
Numbers of the binary64 format as exact values. A decimal is read as the nearest number of
the format, a half going to the even neighbour, and a number too large for the format
becomes an infinity.
-/

namespace Noticeboard

/-- A finite number is its mantissa times two to the exponent. The mantissa is below `2 ^ 53`
and the exponent at least `-1074`; a mantissa below `2 ^ 52` has that least exponent. -/
inductive Binary64
  | finite (negative : Bool) (mantissa : Nat) (exponent : Int)
  | infinite (negative : Bool)
  | nan
  deriving DecidableEq, Repr, Inhabited

namespace Binary64

/-- The integer nearest to `num / den`, a half going to the even one. -/
def nearest (num den : Nat) : Nat :=
  let q := num / den
  let r := num % den
  if 2 * r < den then q else if den < 2 * r then q + 1 else q + q % 2

def inUnits (num den : Nat) (e : Int) : Nat × Nat :=
  (num <<< (-e).toNat, den <<< e.toNat)

/-- The exponent of the highest binary digit of `num / den`, for positive arguments. -/
def magnitude (num den : Nat) : Int :=
  let guess : Int := (Nat.log2 num : Int) - Nat.log2 den
  let (n, d) := inUnits num den guess
  if d ≤ n then guess else guess - 1

def ofRatio (negative : Bool) (num den : Nat) : Binary64 :=
  if num = 0 then .finite negative 0 (-1074)
  else
    let e := max (magnitude num den - 52) (-1074)
    let (n, d) := inUnits num den e
    let m := nearest n d
    let (m, e) := if m = 1 <<< 53 then (1 <<< 52, e + 1) else (m, e)
    if 971 < e then .infinite negative else .finite negative m e

def tenTo (k : Nat) : Nat := Nat.pow 10 k

/-- The number of the format nearest to `digits` times ten to the exponent. Decimals far
outside the range of the format are settled without computing the power. -/
def ofDecimal (negative : Bool) (digits : Nat) (exponent : Int) : Binary64 :=
  if digits = 0 ∨ exponent < -(Nat.log2 digits + 400 : Int) then .finite negative 0 (-1074)
  else if 400 < exponent then .infinite negative
  else ofRatio negative (digits * tenTo exponent.toNat) (tenTo (-exponent).toNat)

def ratio (mantissa : Nat) (exponent : Int) : Nat × Nat :=
  (mantissa <<< exponent.toNat, 1 <<< (-exponent).toNat)

def integerPart? : Binary64 → Option Int
  | .finite negative m e =>
      let (n, d) := ratio m e
      some (if negative then -((n / d : Nat) : Int) else (n / d : Nat))
  | _ => none

end Binary64

end Noticeboard
