import Noticeboard.Text.Blank
import Noticeboard.Text.Digit

/-!
Decimal numerals: the spellings of integers that are read apart from JSON and settings. A
query numeral is an optional sign and digits `0` to `9`. A relaxed numeral may have white
space around it, single underscores between digits, and digits of any script. Each reader has
its own way to refuse a numeral with more than `maxDigits` digits.
-/

namespace Noticeboard.Text

/-- The most digits that a numeral may have. -/
def maxDigits : Nat := 4300

namespace Numeral

/-- The number with the given decimal digits, the highest first. -/
def ofDigits (digits : List Nat) : Nat := digits.foldl (fun n d => n * 10 + d) 0

/-- A sign in front of a numeral: whether it is negative, and the rest. -/
def sign : List Char → Bool × List Char
  | '-' :: cs => (true, cs)
  | '+' :: cs => (false, cs)
  | cs => (false, cs)

def signed (negative : Bool) (n : Nat) : Int := if negative then -(n : Int) else n

/-- All the values that `f` gives to the characters, or nothing if it gives none to one. -/
def digitsOf (f : Char → Option Nat) : List Char → Option (List Nat)
  | [] => some []
  | c :: cs =>
      match f c, digitsOf f cs with
      | some d, some ds => some (d :: ds)
      | _, _ => none

/-- Digits with single underscores between them; `afterDigit` tells whether a digit came
just before. -/
def grouped (f : Char → Option Nat) (afterDigit : Bool) : List Char → Option (List Nat)
  | [] => if afterDigit then some [] else none
  | c :: cs =>
      match f c with
      | some d => (grouped f true cs).map (d :: ·)
      | none => if afterDigit && c = '_' then grouped f false cs else none

/-- A decimal numeral in ASCII, and nothing else: its sign and digits. -/
def query? (cs : List Char) : Option (Bool × List Nat) :=
  let (negative, body) := sign cs
  match digitsOf asciiDigit? body with
  | some (d :: ds) => some (negative, d :: ds)
  | _ => none

def relaxed? (s : String) : Option Int :=
  let (negative, body) := sign (trim isWhite s.toList)
  match grouped digitValue? false body with
  | some digits =>
      if digits.length ≤ maxDigits then some (signed negative (ofDigits digits)) else none
  | none => none

/-- `n` in decimal, filled with zeros on the left to `width` digits. -/
def padded (width n : Nat) : String :=
  let digits := Nat.toDigits 10 n
  String.ofList (List.replicate (width - digits.length) '0' ++ digits)

end Numeral

end Noticeboard.Text
