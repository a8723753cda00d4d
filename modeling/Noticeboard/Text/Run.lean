/-!
Runs of code points, of which the tables of characters are made. A run goes in steps of one or
two, because letters of both cases often stand in turns.
-/

namespace Noticeboard.Text

/-- The code points from `first` to `last` in steps of `step`. -/
structure Run where
  first : Nat
  last : Nat
  step : Nat
  deriving DecidableEq, Repr

namespace Run

def has (r : Run) (n : Nat) : Bool := r.first ≤ n && n ≤ r.last && (n - r.first) % r.step = 0

def anyHas (runs : List Run) (c : Char) : Bool := runs.any (·.has c.toNat)

end Run

end Noticeboard.Text
