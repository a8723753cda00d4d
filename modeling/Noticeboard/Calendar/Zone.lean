import Noticeboard.Calendar.Date

/-!
Time zones. A zone has an offset from UTC at every moment. Offsets are in whole seconds and always
less than a day.
-/

namespace Noticeboard.Calendar

/-- How far clocks are ahead of UTC, in seconds. -/
structure Offset where
  seconds : Int
  withinDay : seconds.natAbs < 86400
  deriving DecidableEq, Repr

namespace Offset

def ofMinutes (minutes : Int) (h : minutes.natAbs < 1440 := by decide) : Offset :=
  ⟨60 * minutes, by omega⟩

/-- The offset of so many minutes, unless that is a day or more. -/
def ofMinutes? (minutes : Int) : Option Offset :=
  if h : minutes.natAbs < 1440 then some (ofMinutes minutes h) else none

end Offset

/-- A yearly moment: so many seconds after the start of the first Sunday, in UTC, on or after
a day of a month. -/
structure Turn where
  month : Nat
  day : Nat
  seconds : Int
  deriving DecidableEq, Repr

/-- The moment of the turn in a year, in seconds after the epoch. -/
def Turn.inYear (t : Turn) (year : Nat) : Int :=
  let sunday := sundayFrom (Date.number { year, month := t.month, day := t.day })
  ((sunday : Int) - epochDay) * 86400 + t.seconds

/-- The part of each year in which a zone keeps another offset. -/
structure Season where
  start : Turn
  stop : Turn
  offset : Offset
  deriving DecidableEq, Repr

/-- The year, in UTC, of a moment given in seconds after the epoch. -/
def yearOf (seconds : Int) : Nat := (splitYear (seconds / 86400 + epochDay).toNat).1

/-- Whether a moment, given in seconds after the epoch, lies in the season of its year. -/
def Season.holds (s : Season) (seconds : Int) : Prop :=
  s.start.inYear (yearOf seconds) ≤ seconds ∧ seconds < s.stop.inYear (yearOf seconds)

instance (s : Season) (seconds : Int) : Decidable (s.holds seconds) :=
  inferInstanceAs (Decidable (_ ∧ _))

/-- A zone: its offset at each moment, which is given in seconds after the epoch. -/
structure Zone where
  offsetAt : Int → Offset

namespace Zone

def fixed (offset : Offset) : Zone := ⟨fun _ => offset⟩

def utc : Zone := fixed ⟨0, by decide⟩

/-- The zone that keeps its standard offset outside its season. -/
def seasonal (standard : Offset) (season : Season) : Zone :=
  ⟨fun seconds => if season.holds seconds then season.offset else standard⟩

end Zone

end Noticeboard.Calendar
