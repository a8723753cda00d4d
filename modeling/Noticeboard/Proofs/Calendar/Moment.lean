import Noticeboard.Calendar.Moment
import Noticeboard.Proofs.Calendar.Date

/-!
Local times of instants. What a zone's clocks show at an instant, less the zone's offset, is that
instant again, so that no two instants have the same local time in a zone. Where an instant lies
outside the years 1 to 9999, in UTC or in the zone, it has no local time.
-/

namespace Noticeboard.Calendar

/-! ## Years -/

/-- The first instant of a year, in milliseconds after the epoch. -/
def yearStart (year : Nat) : Int :=
  ((Date.number ⟨year, 1, 1⟩ : Int) - Date.number ⟨1970, 1, 1⟩) * millisPerDay

/-- Whether an instant lies in the years from one to another. -/
def LiesIn (first last : Nat) (millis : Int) : Prop :=
  yearStart first ≤ millis ∧ millis < yearStart (last + 1)

instance (first last : Nat) (millis : Int) : Decidable (LiesIn first last millis) :=
  inferInstanceAs (Decidable (_ ∧ _))

/-- The years 1 to 9999, told by their days. -/
theorem liesIn_iff_day (millis : Int) :
    LiesIn 1 9999 millis ↔
      0 ≤ millis / 86400000 + 719162 ∧ millis / 86400000 + 719162 < 3652059 := by
  have hfirst : yearStart 1 = -719162 * 86400000 := by decide
  have hlast : yearStart (9999 + 1) = (3652059 - 719162) * 86400000 := by decide
  rw [LiesIn, hfirst, hlast]
  omega

theorem inYears_iff (millis : Int) : inYears millis = true ↔ LiesIn 1 9999 millis := by
  rw [liesIn_iff_day, inYears, Bool.and_eq_true, decide_eq_true_eq, decide_eq_true_eq]
  rfl

/-! ## Local times -/

/-- Whether a local time is in the calendar and on the clock, in the years 1 to 9999. -/
structure LocalTime.WellFormed (t : LocalTime) : Prop where
  date : t.date.WellFormed
  year : t.date.year ≤ 9999
  hour : t.hour < 24
  minute : t.minute < 60
  second : t.second < 60
  micro : t.micro < 1000000

/-- What calendar and clock show, in microseconds after they showed the epoch. -/
def LocalTime.micros (t : LocalTime) : Int :=
  let days : Int := (t.date.number : Int) - Date.number ⟨1970, 1, 1⟩
  (((days * 24 + t.hour) * 60 + t.minute) * 60 + t.second) * 1000000 + t.micro

/-- Whether a local time is that of an instant at which clocks are ahead of UTC by an offset. -/
structure LocalTime.IsAt (t : LocalTime) (millis : Int) (offset : Offset) : Prop where
  wellFormed : t.WellFormed
  offset_eq : t.offset = offset
  instant : t.micros - 1000000 * offset.seconds = 1000 * millis
  micro : (t.micro : Int) = 1000 * (millis % 1000)

theorem LocalTime.micros_ofMillis {millis : Int} (h : LiesIn 1 9999 millis) (offset : Offset) :
    (ofMillis millis offset).micros = 1000 * millis := by
  have hepoch : Date.number ⟨1970, 1, 1⟩ = 719162 := by decide
  obtain ⟨hfirst, -⟩ := (liesIn_iff_day millis).mp h
  simp only [micros, ofMillis, Date.number_ofNumber, hepoch, millisPerDay, epochDay]
  omega

theorem LocalTime.wellFormed_ofMillis {millis : Int} (h : LiesIn 1 9999 millis)
    (offset : Offset) : (ofMillis millis offset).WellFormed := by
  obtain ⟨hfirst, hlast⟩ := (liesIn_iff_day millis).mp h
  have hyear : (ofMillis millis offset).date.year < 10000 := by
    refine Date.year_ofNumber_lt ?_
    have hdays : daysBefore 10000 = 3652059 := by decide
    simp only [hdays, millisPerDay, epochDay]
    omega
  refine ⟨Date.wellFormed_ofNumber _, Nat.le_of_lt_succ hyear, ?_, ?_, ?_, ?_⟩ <;>
  · simp only [ofMillis, millisPerDay]
    omega

/-- Offsets are whole seconds, so that the milliseconds are those of the instant. -/
theorem LocalTime.isAt_ofMillis {millis : Int} {offset : Offset}
    (h : LiesIn 1 9999 (millis + 1000 * offset.seconds)) :
    (ofMillis (millis + 1000 * offset.seconds) offset).IsAt millis offset := by
  refine ⟨wellFormed_ofMillis h offset, rfl, ?_, ?_⟩
  · rw [micros_ofMillis h]
    omega
  · simp only [ofMillis, millisPerDay]
    omega

theorem LocalTime.IsAt.unique {t : LocalTime} {a b : Int} {offset : Offset} (ha : t.IsAt a offset)
    (hb : t.IsAt b t.offset) : a = b := by
  have hinstant := ha.instant
  rw [← ha.offset_eq, hb.instant] at hinstant
  omega

/-! ## Zones -/

/-- What a zone's clocks show at an instant, in milliseconds after they showed the epoch. -/
def Zone.shown (zone : Zone) (millis : Int) : Int :=
  millis + 1000 * (zone.offsetAt (millis / 1000)).seconds

/-- Whether an instant lies in the years 1 to 9999 both in UTC and in a zone. -/
def Zone.Dates (zone : Zone) (millis : Int) : Prop :=
  LiesIn 1 9999 millis ∧ LiesIn 1 9999 (zone.shown millis)

instance (zone : Zone) (millis : Int) : Decidable (zone.Dates millis) :=
  inferInstanceAs (Decidable (_ ∧ _))

/-- An offset is less than a day, and so less than the years 1 and 9999 are long. -/
theorem Zone.dates_of_liesIn (zone : Zone) {millis : Int} (h : LiesIn 2 9998 millis) :
    zone.Dates millis := by
  have hfirst : yearStart 2 = yearStart 1 + 365 * 86400000 := by decide
  have hlast : yearStart (9998 + 1) + 365 * 86400000 = yearStart (9999 + 1) := by decide
  have hday := (zone.offsetAt (millis / 1000)).withinDay
  simp only [Dates, LiesIn, shown] at h ⊢
  omega

section

variable {text : String} {database : Zone.Database} {zone : Zone} {millis : Int}

theorem localTimeIn_eq (h : Zone.select text database = .ok zone) :
    localTimeIn text millis database =
      if zone.Dates millis then
        .ok (.ofMillis (zone.shown millis) (zone.offsetAt (millis / 1000)))
      else .error .outOfYears := by
  simp only [localTimeIn, h, localTime, Zone.Dates, ← inYears_iff, Zone.shown, Bool.and_eq_true]
  by_cases hmillis : inYears millis = true
  · rw [if_pos hmillis]
  · rw [if_neg hmillis, if_neg fun hdates => hmillis hdates.1]

theorem exists_localTimeIn (h : Zone.select text database = .ok zone) (hdates : zone.Dates millis) :
    ∃ t, localTimeIn text millis database = .ok t ∧
      t.IsAt millis (zone.offsetAt (millis / 1000)) :=
  ⟨_, (localTimeIn_eq h).trans (if_pos hdates), LocalTime.isAt_ofMillis hdates.2⟩

theorem isAt_of_localTimeIn {t : LocalTime} (h : Zone.select text database = .ok zone)
    (ht : localTimeIn text millis database = .ok t) :
    t.IsAt millis (zone.offsetAt (millis / 1000)) := by
  rw [localTimeIn_eq h] at ht
  split at ht
  · next hdates =>
      cases ht
      exact LocalTime.isAt_ofMillis hdates.2
  · cases ht

theorem localTimeIn_of_refused {refusal : Zone.Refusal}
    (h : Zone.select text database = .error refusal) (hmillis : LiesIn 1 9999 millis) :
    localTimeIn text millis database = .error (.zone refusal) := by
  rw [localTimeIn, if_pos ((inYears_iff millis).mpr hmillis), h]

theorem stampIn_of_localTimeIn {t : LocalTime} (h : localTimeIn text millis database = .ok t) :
    stampIn text millis database = .ok t.stamp := by
  rw [stampIn, h, Except.map]

/-- Every instant in the years has a local time from which it can be told, and every other instant
has none. -/
theorem instant_kept (h : Zone.select text database = .ok zone) :
    (∀ millis, zone.Dates millis → ∃ t, localTimeIn text millis database = .ok t ∧
      t.IsAt millis (zone.offsetAt (millis / 1000))) ∧
    (∀ millis, ¬ zone.Dates millis → localTimeIn text millis database = .error .outOfYears) ∧
    ∀ a b t, localTimeIn text a database = .ok t → localTimeIn text b database = .ok t → a = b := by
  refine ⟨fun millis hdates => exists_localTimeIn h hdates, fun millis hdates => ?_,
    fun a b t ha hb => ?_⟩
  · rw [localTimeIn_eq h, if_neg hdates]
  · have hata := isAt_of_localTimeIn h ha
    have hatb := isAt_of_localTimeIn h hb
    exact hata.unique (hatb.offset_eq ▸ hatb)

/-- The first instant of summer time in New York in 2024. -/
theorem summer_begins_in_newYork :
    Zone.select "America/New_York" = .ok .newYork ∧ Zone.newYork.Dates 1710054000000 ∧
      ∃ t, localTimeIn "America/New_York" 1710054000000 = .ok t ∧
        t.IsAt 1710054000000 (.ofMinutes (-240)) := by
  have hselect : Zone.select "America/New_York" = .ok .newYork := rfl
  have hdates : Zone.newYork.Dates 1710054000000 := by decide +kernel
  have hoffset : Zone.newYork.offsetAt (1710054000000 / 1000) = .ofMinutes (-240) := by
    decide +kernel
  exact ⟨hselect, hdates, hoffset ▸ (instant_kept hselect).1 _ hdates⟩

end

end Noticeboard.Calendar
