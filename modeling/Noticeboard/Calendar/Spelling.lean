import Noticeboard.Text.Digit

/-!
Offsets that a name spells: `UTC` or `GMT` in any letter case, a sign, hours, and perhaps minutes,
with or without a colon before them. The digits may be of any script. Two digits are tried for the
hours before one, and minutes before none.
-/

namespace Noticeboard.Calendar.Spelling

/-- What a name that spells an offset says. -/
structure Reading where
  negative : Bool
  hours : Nat
  minutes : Nat
  deriving DecidableEq, Repr

/-- The offset in minutes, of which there may be more than fill an hour. -/
def Reading.offset (r : Reading) : Int :=
  let amount : Int := 60 * r.hours + r.minutes
  if r.negative then -amount else amount

/-- The number that the first `width` characters spell in decimal, after digits worth `n`, and the
characters that follow. -/
def digits? : Nat → Nat → List Char → Option (Nat × List Char)
  | 0, n, cs => some (n, cs)
  | _ + 1, _, [] => none
  | width + 1, n, c :: cs =>
      match Text.digitValue? c with
      | some d => digits? width (10 * n + d) cs
      | none => none

/-- Whether nothing follows but perhaps one line feed. -/
def atEnd (cs : List Char) : Bool := cs = [] || cs = ['\n']

/-- Two digits for the minutes, and the end. -/
def twoMinutes? (cs : List Char) : Option Nat :=
  match digits? 2 0 cs with
  | some (minutes, rest) => if atEnd rest then some minutes else none
  | none => none

/-- Minutes after a colon. -/
def colonMinutes? : List Char → Option Nat
  | ':' :: rest => twoMinutes? rest
  | _ => none

/-- What follows the hours: minutes after a colon, else minutes at once, else the end. -/
def minutes? (cs : List Char) : Option Nat :=
  (colonMinutes? cs).or ((twoMinutes? cs).or (if atEnd cs then some 0 else none))

/-- Hours of `width` digits, and minutes. -/
def timeAt? (width : Nat) (cs : List Char) : Option (Nat × Nat) :=
  match digits? width 0 cs with
  | some (hours, rest) => (minutes? rest).map (hours, ·)
  | none => none

def time? (cs : List Char) : Option (Nat × Nat) := (timeAt? 2 cs).or (timeAt? 1 cs)

/-- Whether a sign is that of a negative number. -/
def negative? (c : Char) : Option Bool :=
  if c = '+' then some false else if c = '-' then some true else none

def reading? : List Char → Option Reading
  | a :: b :: c :: sign :: rest =>
      let word := [a, b, c].map Char.toUpper
      if word = ['U', 'T', 'C'] ∨ word = ['G', 'M', 'T'] then
        match negative? sign, time? rest with
        | some negative, some (hours, minutes) => some { negative, hours, minutes }
        | _, _ => none
      else none
  | _ => none

end Noticeboard.Calendar.Spelling
