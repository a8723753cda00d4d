import Noticeboard.Text.Numeral

/-!
Whole numbers in settings. A text that is not a plain numeral is tidied and read once more:
white space and a plus go, zeros in front of the number go together with underscores among
them, and so do a fraction of zeros and single underscores between digits. A minus may stand
before the zeros or after them.
-/

namespace Noticeboard.Settings.Whole

/-- Why a text is no whole number. -/
inductive Fault
  | malformed
  | tooLong
  deriving DecidableEq, Repr

/-- Whether there is a minus in front, and what follows it. -/
def minus : List Char → Bool × List Char
  | '-' :: cs => (true, cs)
  | cs => (false, cs)

def isDigit (c : Char) : Bool := (Text.asciiDigit? c).isSome

/-- A minus or none, and digits that begin with zero only if nothing follows it. -/
def plain? (cs : List Char) : Option Int :=
  let (negative, body) := minus cs
  match Text.Numeral.digitsOf Text.asciiDigit? body with
  | none | some [] | some (0 :: _ :: _) => none
  | some digits =>
      if digits.length ≤ Text.maxDigits then
        some (Text.Numeral.signed negative (Text.Numeral.ofDigits digits))
      else none

/-- Whether the text begins as a plain numeral does, but with too many digits. -/
def isOverlong (cs : List Char) : Bool :=
  let body := (minus cs).2
  body.head? ≠ some '0' && Text.maxDigits < (body.takeWhile isDigit).length

/-- What follows zeros and underscores, if it can go on with the number; `last` is the
character before, and stays when nothing else is left of the whole part. -/
def afterZeros (last : Char) : List Char → Option (List Char)
  | [] => some [last]
  | c :: cs =>
      if c = '0' || c = '_' then afterZeros c cs
      else if c = '.' then some (last :: c :: cs)
      else if c = '-' || isDigit c then some (c :: cs)
      else none

def withoutZeros? : List Char → Option (List Char)
  | [] => none
  | c :: cs =>
      if c = '0' then afterZeros c cs
      else if c = '-' || isDigit c then some (c :: cs)
      else none

def withoutFraction (cs : List Char) : List Char :=
  match cs.span (· ≠ '.') with
  | (whole, _ :: c :: zeros) => if (c :: zeros).all (· = '0') then whole else cs
  | _ => cs

def hasDoubled : List Char → Bool
  | '_' :: '_' :: _ => true
  | _ :: cs => hasDoubled cs
  | [] => false

/-- A numeral without underscores, unless one is at an end or next to another. -/
def ungrouped (cs : List Char) : List Char :=
  if cs.head? = some '_' || cs.getLast? = some '_' || hasDoubled cs then cs
  else cs.filter (· ≠ '_')

def tidyBody? (cs : List Char) : Option (List Char) :=
  (withoutZeros? cs).map fun cs => ungrouped (withoutFraction cs)

def tidy? (cs : List Char) : Option (List Char) :=
  match Text.trim Text.isWhite cs with
  | '+' :: '-' :: _ => none
  | '+' :: body => tidyBody? body
  | '-' :: body => (tidyBody? body).map ('-' :: ·)
  | body => tidyBody? body

/-- The whole number that a text spells. A number of too many digits is called so only if the
text begins with it. -/
def read (s : String) : Except Fault Int :=
  let cs := s.toList
  match plain? cs with
  | some n => .ok n
  | none =>
      if isOverlong cs then .error .tooLong
      else ((tidy? cs).bind plain?).elim (.error .malformed) .ok

end Noticeboard.Settings.Whole
