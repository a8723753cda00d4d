import Noticeboard.Json.Basic

/-!
Lifetimes of tokens, in microseconds. A lifetime given in seconds is rounded to the nearest
microsecond, a half to the even one; the fraction of a second is first turned into
microseconds in binary64 arithmetic.
-/

namespace Noticeboard.Token

abbrev Span := Int

def Span.ofSeconds (n : Int) : Span := n * 1000000

def Span.ofMinutes (n : Int) : Span := Span.ofSeconds (60 * n)

/-- The microseconds in `num / den` seconds, for a fraction below one. -/
def fractionMicros (num den : Nat) : Nat :=
  match Binary64.ofRatio false (num * 1000000) den with
  | .finite _ m e =>
      let (n, d) := Binary64.ratio m e
      Binary64.nearest n d
  | _ => 0

def Span.ofReal? : Binary64 → Option Span
  | .finite negative m e =>
      let (n, d) := Binary64.ratio m e
      let micros := n / d * 1000000 + fractionMicros (n % d) d
      some (if negative then -(micros : Int) else micros)
  | _ => none

end Noticeboard.Token
