import Noticeboard.Calendar.Database
import Noticeboard.Calendar.Spelling
import Noticeboard.Text.Blank

/-!
The zone that a text selects: the zone of that name, or else the offset that the text spells, or
else UTC. Refused are an offset of a day or more, the name of a region, and an overlong name.
-/

namespace Noticeboard.Calendar.Zone

/-- Why a text selects no zone. -/
inductive Refusal
  | dayOrMore
  | region
  | overlong
  deriving DecidableEq, Repr

/-- The name that is meant: blanks around it do not count, and no name is `UTC`. -/
def nameOf (text : String) : String :=
  let name := Text.strip text
  if name = "" then "UTC" else name

def select (text : String) (database : Database := .bundled) : Except Refusal Zone :=
  let name := nameOf text
  match database.answer name with
  | .zone zone => .ok zone
  | .region => .error .region
  | .overlong => .error .overlong
  | .unknown =>
      match Spelling.reading? name.toList with
      | none => .ok utc
      | some reading =>
          match Offset.ofMinutes? reading.offset with
          | some offset => .ok (fixed offset)
          | none => .error .dayOrMore

end Noticeboard.Calendar.Zone
