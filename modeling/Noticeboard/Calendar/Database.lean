import Noticeboard.Calendar.Zone

/-!
Databases of zones. Looking up a name may end without a zone in three ways: the name is not known,
it is that of a region in which zones lie, or it is too long to be looked up. The bundled database
holds a few zones of every kind.
-/

namespace Noticeboard.Calendar.Zone

inductive Answer
  | zone (zone : Zone)
  | unknown
  | region
  | overlong

/-- A database may lack the name `UTC`, but it has no other zone of that name. -/
structure Database where
  answer : String → Answer
  utc : answer "UTC" = .zone .utc ∨ answer "UTC" = .unknown

/-! ## Bundled zones -/

def newYork : Zone :=
  seasonal (.ofMinutes (-300))
    { start := ⟨3, 8, 25200⟩, stop := ⟨11, 1, 21600⟩, offset := .ofMinutes (-240) }

def berlin : Zone :=
  seasonal (.ofMinutes 60)
    { start := ⟨3, 25, 3600⟩, stop := ⟨10, 25, 3600⟩, offset := .ofMinutes 120 }

def lordHowe : Zone :=
  seasonal (.ofMinutes 660)
    { start := ⟨4, 1, -32400⟩, stop := ⟨10, 1, -30600⟩, offset := .ofMinutes 630 }

def known : List (String × Zone) :=
  [("UTC", utc), ("GMT", utc), ("GMT0", utc), ("GMT+0", utc), ("GMT-0", utc), ("Etc/UTC", utc),
   ("Etc/GMT+5", fixed (.ofMinutes (-300))), ("Etc/GMT-14", fixed (.ofMinutes 840)),
   ("Asia/Tokyo", fixed (.ofMinutes 540)), ("Asia/Kolkata", fixed (.ofMinutes 330)),
   ("Asia/Kathmandu", fixed (.ofMinutes 345)), ("America/New_York", newYork),
   ("Europe/Berlin", berlin), ("Australia/Lord_Howe", lordHowe)]

/-- The regions in which zones lie. The name of such a zone begins with that of its region
and a slash. -/
def regions : List String :=
  ["Africa", "America", "America/Argentina", "America/Indiana", "America/Kentucky",
   "America/North_Dakota", "Antarctica", "Arctic", "Asia", "Atlantic", "Australia", "Brazil",
   "Canada", "Chile", "Etc", "Europe", "Indian", "Mexico", "Pacific", "US"]

/-- The most bytes that the name of a zone within its region may have. -/
def maxNameBytes : Nat := 255

/-- The region that a name names, and the name within it; there is no region without a
slash. -/
def parts (name : List Char) : Option (List Char) × List Char :=
  match name.reverse.span (· ≠ '/') with
  | (last, []) => (none, last.reverse)
  | (last, _ :: region) => (some region.reverse, last.reverse)

/-- Whether a name leads to a region, or to none, and is too long to be looked up there. No
name with a null character is looked up. -/
def isOverlong (name : String) : Bool :=
  let (region, last) := parts name.toList
  region.all (fun r => regions.contains (String.ofList r)) &&
    !name.toList.contains '\x00' && maxNameBytes < (String.ofList last).utf8ByteSize

def Database.bundled : Database where
  answer name :=
    match known.lookup name with
    | some zone => .zone zone
    | none =>
        if regions.contains name then .region
        else if isOverlong name then .overlong
        else .unknown
  utc := .inl rfl

end Noticeboard.Calendar.Zone
