/-!
The Gregorian calendar, carried back to year 1. Days are numbered from 0, which is the first
of January of year 1, a Monday.
-/

namespace Noticeboard.Calendar

def isLeap (year : Nat) : Bool := year % 4 = 0 && (year % 100 ≠ 0 || year % 400 = 0)

def monthLengths (year : Nat) : List Nat :=
  [31, if isLeap year then 29 else 28, 31, 30, 31, 30, 31, 31, 30, 31, 30, 31]

structure Date where
  year : Nat
  month : Nat
  day : Nat
  deriving DecidableEq, Repr

/-- The number of days before the first of January of a year. -/
def daysBefore (year : Nat) : Nat :=
  let y := year - 1
  365 * y + y / 4 - y / 100 + y / 400

def daysIn : List Nat → Nat
  | [] => 0
  | length :: rest => length + daysIn rest

def Date.number (d : Date) : Nat :=
  daysBefore d.year + daysIn ((monthLengths d.year).take (d.month - 1)) + (d.day - 1)

/-- The year that holds a day, and the place of the day in it, counted from 0. Whole cycles
of 400, 100, 4 and 1 years are taken off in turn; the last day of a cycle that ends in a leap
year would begin one cycle too many. -/
def splitYear (n : Nat) : Nat × Nat :=
  let cycles := n / 146097
  let r := n % 146097
  let centuries := min (r / 36524) 3
  let r := r - 36524 * centuries
  let fours := r / 1461
  let r := r % 1461
  let ones := min (r / 365) 3
  (400 * cycles + 100 * centuries + 4 * fours + ones + 1, r - 365 * ones)

/-- The month that holds the day at place `n`, counted from 0, and the place in it. -/
def splitMonth (n : Nat) : List Nat → Nat × Nat
  | [] => (0, n)
  | length :: rest =>
      if n < length then (0, n)
      else
        let (month, day) := splitMonth (n - length) rest
        (month + 1, day)

def Date.ofNumber (n : Nat) : Date :=
  let (year, place) := splitYear n
  let (month, day) := splitMonth place (monthLengths year)
  { year, month := month + 1, day := day + 1 }

def sundayFrom (n : Nat) : Nat := n + (6 - n % 7)

/-- The number of days in the years 1 to 9999. -/
def dayCount : Nat := 3652059

/-- The day of the epoch, the first of January 1970. -/
def epochDay : Nat := 719162

end Noticeboard.Calendar
