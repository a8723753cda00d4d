import Noticeboard.Number.Binary64

/-!
The shortest decimal that reads back as a given binary64 number. Among the decimals that
round to the number, those on the coarsest grid of powers of ten have the fewest digits, and
of the two grid points beside the number the nearer is taken.
-/

namespace Noticeboard.Binary64

/-- The decimals that round to a number: those between `low / den` and `high / den`, ends
included when `closed`; the number itself is `mid / den`. -/
structure Basin where
  low : Nat
  mid : Nat
  high : Nat
  den : Nat
  closed : Bool
  deriving Repr

/-- The basin of the positive number `mantissa * 2 ^ exponent`. The gap below a power of two
is half the gap above it. -/
def basin (mantissa : Nat) (exponent : Int) : Basin :=
  let below := if mantissa = 1 <<< 52 ∧ -1074 < exponent then 1 else 2
  let unit := exponent - 2
  let scale := 1 <<< unit.toNat
  { low := (4 * mantissa - below) * scale
    mid := 4 * mantissa * scale
    high := (4 * mantissa + 2) * scale
    den := 1 <<< (-unit).toNat
    closed := mantissa % 2 = 0 }

def Basin.holds (b : Basin) (n d : Nat) : Bool :=
  if b.closed then b.low * d ≤ n * b.den && n * b.den ≤ b.high * d
  else b.low * d < n * b.den && n * b.den < b.high * d

/-- The multiple of ten to the power `k` that stands for the number on that grid, if one does. -/
def Basin.onGrid? (b : Basin) (k : Int) : Option Nat :=
  let up := tenTo k.toNat
  let down := tenTo (-k).toNat
  -- the number in units of the grid is `n / d`
  let n := b.mid * down
  let d := b.den * up
  let q := n / d
  let below := b.holds (q * up) down
  let above := b.holds ((q + 1) * up) down
  match below, above with
  | false, false => none
  | true, false => some q
  | false, true => some (q + 1)
  | true, true => some (nearest n d)

/-- The first grid that holds a decimal of the basin, from ten to the power `k` down. -/
def Basin.search (b : Basin) : Nat → Int → Nat × Int
  | 0, k => (b.mid / b.den, k)
  | fuel + 1, k =>
      match b.onGrid? k with
      | some digits => (digits, k)
      | none => b.search fuel (k - 1)

/-- The digits and the decimal exponent of the shortest decimal for a positive number. Every
number of the format lies below ten to the power 309, and the grid of ten to the power -343
is finer than any of its gaps. -/
def shortest (mantissa : Nat) (exponent : Int) : Nat × Int :=
  (basin mantissa exponent).search 653 309

end Noticeboard.Binary64
