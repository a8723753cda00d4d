/-!
The integers that a stored creation time, a limit or an offset may be: those of a signed
64-bit word, from `-2 ^ 63` to `2 ^ 63 - 1`.
-/

namespace Noticeboard.Int64

def least : Int := -9223372036854775808

def greatest : Int := 9223372036854775807

def fits (n : Int) : Bool := least ≤ n && n ≤ greatest

theorem fits_iff {n : Int} : fits n ↔ least ≤ n ∧ n ≤ greatest := by simp [fits]

end Noticeboard.Int64
