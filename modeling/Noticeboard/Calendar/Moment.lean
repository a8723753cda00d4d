import Noticeboard.Calendar.Selection
import Noticeboard.Text.Numeral

/-!
Moments as a zone's clocks show them. A moment is a number of milliseconds after the epoch;
its local time is shown only if both it and the moment itself, in UTC, lie in the years 1 to
9999.
-/

namespace Noticeboard.Calendar

/-- What a zone's clocks and calendars show, and the zone's offset. -/
structure LocalTime where
  date : Date
  hour : Nat
  minute : Nat
  second : Nat
  micro : Nat
  offset : Offset
  deriving DecidableEq, Repr

inductive Failure
  /-- The moment lies outside the years 1 to 9999. -/
  | outOfYears
  | zone (refusal : Zone.Refusal)
  deriving DecidableEq, Repr

def millisPerDay : Int := 86400000

/-- Whether a number of milliseconds after the epoch lies in the years 1 to 9999. -/
def inYears (millis : Int) : Bool :=
  let day := millis / millisPerDay + epochDay
  0 ≤ day && day < dayCount

/-- The local time whose calendar and clock stand `millis` after those of the epoch. -/
def LocalTime.ofMillis (millis : Int) (offset : Offset) : LocalTime :=
  let rest := (millis % millisPerDay).toNat
  { date := Date.ofNumber (millis / millisPerDay + epochDay).toNat
    hour := rest / 3600000
    minute := rest / 60000 % 60
    second := rest / 1000 % 60
    micro := 1000 * (rest % 1000)
    offset }

def localTime (zone : Zone) (millis : Int) : Except Failure LocalTime :=
  let offset := zone.offsetAt (millis / 1000)
  let shown := millis + 1000 * offset.seconds
  if inYears millis && inYears shown then .ok (.ofMillis shown offset) else .error .outOfYears

/-- The local time of a moment in the zone that a text selects. A moment outside the years
is reported before a text that is refused. -/
def localTimeIn (zoneName : String) (millis : Int) (database : Zone.Database := .bundled) :
    Except Failure LocalTime :=
  if inYears millis then
    match Zone.select zoneName database with
    | .ok zone => localTime zone millis
    | .error refusal => .error (.zone refusal)
  else .error .outOfYears

open Text.Numeral (padded)

/-- Sign, hours and minutes, and the seconds unless they are zero. -/
def Offset.text (offset : Offset) : String :=
  let n := offset.seconds.natAbs
  (if offset.seconds < 0 then "-" else "+") ++ padded 2 (n / 3600) ++ ":" ++
    padded 2 (n / 60 % 60) ++ (if n % 60 = 0 then "" else ":" ++ padded 2 (n % 60))

/-- Date, time and offset; a fraction of a second is shown in six digits unless it is
zero. -/
def LocalTime.iso (t : LocalTime) : String :=
  padded 4 t.date.year ++ "-" ++ padded 2 t.date.month ++ "-" ++ padded 2 t.date.day ++ "T" ++
    padded 2 t.hour ++ ":" ++ padded 2 t.minute ++ ":" ++ padded 2 t.second ++
    (if t.micro = 0 then "" else "." ++ padded 6 t.micro) ++ t.offset.text

def monthNames : List String :=
  ["Jan", "Feb", "Mar", "Apr", "May", "Jun", "Jul", "Aug", "Sep", "Oct", "Nov", "Dec"]

/-- Month, day and time, without year and offset. -/
def LocalTime.fullStamp (t : LocalTime) : String :=
  monthNames.getD (t.date.month - 1) "" ++ " " ++ padded 2 t.date.day ++ " " ++
    padded 2 t.hour ++ ":" ++ padded 2 t.minute ++ ":" ++ padded 2 t.second ++ "." ++
    padded 6 t.micro

/-- The stamp for people: the full one without its last three digits. -/
def LocalTime.stamp (t : LocalTime) : String :=
  let cs := t.fullStamp.toList
  String.ofList (cs.take (cs.length - 3))

/-- The stamp of a moment in the zone that a text selects. -/
def stampIn (zoneName : String) (millis : Int) (database : Zone.Database := .bundled) :
    Except Failure String :=
  (localTimeIn zoneName millis database).map LocalTime.stamp

end Noticeboard.Calendar
