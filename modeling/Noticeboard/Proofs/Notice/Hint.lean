import Noticeboard.Notice.Hint
import Noticeboard.Proofs.Calendar.Moment
import Noticeboard.Proofs.Calendar.Selection

/-!
Hints in log records. A hint between the years 2 and 9998 is shown wherever a zone is selected, since
no offset takes it out of the calendar. No zone is selected by the text that spells a day or more, or
that cannot be looked up, and then no hint is shown.
-/

namespace Noticeboard.Hint

open Calendar
open Text (strip)

variable {text : String} {database : Zone.Database}

/-- Whether both moments of a hint lie in the years 2 to 9998. -/
def Dated (h : Hint) : Prop := LiesIn 2 9998 h.createdAt ∧ LiesIn 2 9998 h.notifyAt

/-- A hint as it is shown when its moments have local times. -/
def shownAt (h : Hint) (createdAt notifyAt : LocalTime) : Shown where
  blockType := h.blockType
  block := h.block
  modifiedBy := h.modifiedBy
  createdAt := createdAt.stamp
  notifyAt := notifyAt.stamp

theorem shown_of_select {zone : Zone} (hselect : Zone.select text database = .ok zone) {h : Hint}
    (hdated : h.Dated) :
    ∃ t u, localTimeIn text h.createdAt database = .ok t ∧
      localTimeIn text h.notifyAt database = .ok u ∧
      h.shown text database = .ok (h.shownAt t u) := by
  obtain ⟨t, ht, -⟩ := exists_localTimeIn hselect (zone.dates_of_liesIn hdated.1)
  obtain ⟨u, hu, -⟩ := exists_localTimeIn hselect (zone.dates_of_liesIn hdated.2)
  refine ⟨t, u, ht, hu, ?_⟩
  rw [shown, stampIn_of_localTimeIn ht, stampIn_of_localTimeIn hu]
  rfl

theorem shown_of_refused {refusal : Zone.Refusal}
    (hselect : Zone.select text database = .error refusal) {h : Hint} (hdated : h.Dated) :
    h.shown text database = .error (.zone refusal) := by
  have hmillis := (Zone.utc.dates_of_liesIn hdated.1).1
  rw [shown, stampIn, localTimeIn_of_refused hselect hmillis]
  rfl

/-- A text that is not refused selects the zone of that name, the offset that it spells, or UTC, and
shows every hint; one that is refused selects no zone and shows none. -/
theorem zone_resolves_unless_refused (database : Zone.Database) (text : String) :
    (¬ database.Refuses (strip text) →
      (∃ zone, Zone.Chosen database (strip text) (.ok zone) ∧
        Zone.select text database = .ok zone) ∧
      ∀ h : Hint, h.Dated → ∃ t u, localTimeIn text h.createdAt database = .ok t ∧
        localTimeIn text h.notifyAt database = .ok u ∧
        h.shown text database = .ok (h.shownAt t u)) ∧
    (database.Refuses (strip text) → ∃ refusal, Zone.select text database = .error refusal ∧
      ∀ h : Hint, h.Dated → h.shown text database = .error (.zone refusal)) := by
  constructor
  · intro hrefuses
    obtain ⟨zone, hchosen, hselect⟩ := Zone.exists_select_of_not_refuses hrefuses
    exact ⟨⟨zone, hchosen, hselect⟩, fun h hdated => shown_of_select hselect hdated⟩
  · intro hrefuses
    obtain ⟨refusal, hselect⟩ := Zone.exists_refusal_of_refuses hrefuses
    exact ⟨refusal, hselect, fun h hdated => shown_of_refused hselect hdated⟩

/-- An offset of a day is spelled, but it is none. -/
theorem day_long_offset_selects_nothing :
    (¬ ∀ text, ∃ zone, Zone.select text = .ok zone) ∧
      ¬ ∀ (text : String) (h : Hint), h.Dated → ∃ shown, h.shown text = .ok shown := by
  have hselect : Zone.select "UTC+24" = .error .dayOrMore := rfl
  constructor
  · intro hall
    obtain ⟨zone, hzone⟩ := hall "UTC+24"
    cases hselect.symm.trans hzone
  · intro hall
    have hdated : Hint.Dated ⟨some "card", some "c1", some "u1", 0, 0⟩ := ⟨by decide, by decide⟩
    obtain ⟨shown, hshown⟩ := hall "UTC+24" _ hdated
    cases (shown_of_refused hselect hdated).symm.trans hshown

end Noticeboard.Hint
