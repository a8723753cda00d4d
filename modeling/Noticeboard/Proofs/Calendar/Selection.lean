import Noticeboard.Calendar.Selection
import Noticeboard.Proofs.Calendar.Spelling

/-!
What a text selects. Without the blanks around it a text is nothing, the name of a zone, a name that
cannot be looked up, or the spelling of an offset, or else it selects UTC; which of these it is decides
what becomes of it. An offset that is spelled is taken in one way only.
-/

namespace Noticeboard.Calendar

open Spelling (Spells Reading)
open Text (strip trim dropEndWhile isBlank)

/-! ## Stripped texts -/

theorem not_suffix_trim {p : Char → Bool} {c : Char} (hc : p c = true) (cs : List Char) :
    ¬ [c] <:+ trim p cs := by
  rw [trim, dropEndWhile, ← List.reverse_prefix, List.reverse_reverse]
  rintro ⟨rest, hrest⟩
  have hhead := List.head?_dropWhile_not p (cs.dropWhile p).reverse
  rw [← hrest] at hhead
  exact absurd hc (by simpa using hhead)

theorem not_suffix_strip (text : String) : ¬ ['\n'] <:+ (strip text).toList := by
  rw [strip, String.toList_ofList]
  exact not_suffix_trim (by decide) _

/-! ## Offsets -/

/-- The amount that is spelled, in minutes. -/
def Spelling.Reading.amount (r : Reading) : Nat := 60 * r.hours + r.minutes

theorem Spelling.Reading.natAbs_offset (r : Reading) : r.offset.natAbs = r.amount := by
  rw [offset, amount]
  split <;> omega

/-- The offset that is spelled, sign and amount. -/
theorem Spelling.Reading.offset_eq (r : Reading) :
    r.offset = (if r.negative then -1 else 1) * (60 * r.hours + r.minutes) := by
  rw [offset]
  split <;> omega

namespace Zone

variable {database : Database}

/-- What becomes of a name. -/
inductive Chosen (database : Database) (name : String) : Except Refusal Zone → Prop
  | empty (hname : name = "") : Chosen database name (.ok utc)
  | zone {zone : Zone} (hname : name ≠ "") (h : database.answer name = .zone zone) :
      Chosen database name (.ok zone)
  | region (hname : name ≠ "") (h : database.answer name = .region) :
      Chosen database name (.error .region)
  | overlong (hname : name ≠ "") (h : database.answer name = .overlong) :
      Chosen database name (.error .overlong)
  | offset {r : Reading} (hname : name ≠ "") (h : database.answer name = .unknown)
      (hspells : Spells name.toList r) (hday : r.offset.natAbs < 1440) :
      Chosen database name (.ok (fixed (.ofMinutes r.offset hday)))
  | dayOrMore {r : Reading} (hname : name ≠ "") (h : database.answer name = .unknown)
      (hspells : Spells name.toList r) (hday : 1440 ≤ r.offset.natAbs) :
      Chosen database name (.error .dayOrMore)
  | other (hname : name ≠ "") (h : database.answer name = .unknown)
      (hspells : ∀ r, ¬ Spells name.toList r) : Chosen database name (.ok utc)

theorem select_empty {text : String} (h : strip text = "") : select text database = .ok utc := by
  rw [select, nameOf, h]
  rcases database.utc with hutc | hutc
  · simp only [if_true, hutc]
  · simp only [if_true, hutc]
    rfl

theorem select_eq_of_chosen {text : String} {outcome : Except Refusal Zone}
    (h : Chosen database (strip text) outcome) : select text database = outcome := by
  have hreads (r : Reading) : Spelling.reading? (strip text).toList = some r ↔ Spells _ r :=
    Spelling.reading?_eq_some_iff (not_suffix_strip text)
  cases h with
  | empty hname => exact select_empty hname
  | zone hname h | region hname h | overlong hname h =>
      simp only [select, nameOf, if_neg hname, h]
  | offset hname h hspells hday =>
      simp only [select, nameOf, if_neg hname, h, (hreads _).mpr hspells, Offset.ofMinutes?,
        dif_pos hday]
  | dayOrMore hname h hspells hday =>
      simp only [select, nameOf, if_neg hname, h, (hreads _).mpr hspells, Offset.ofMinutes?,
        dif_neg (Nat.not_lt.mpr hday)]
  | other hname h hspells =>
      have hread : Spelling.reading? (strip text).toList = none :=
        Option.eq_none_iff_forall_ne_some.mpr fun r hr => hspells r ((hreads r).mp hr)
      simp only [select, nameOf, if_neg hname, h, hread]

/-- Something becomes of every name. -/
theorem exists_chosen (database : Database) (name : String) :
    ∃ outcome, Chosen database name outcome := by
  by_cases hname : name = ""
  · exact ⟨_, .empty hname⟩
  · cases h : database.answer name with
    | zone zone => exact ⟨_, .zone hname h⟩
    | region => exact ⟨_, .region hname h⟩
    | overlong => exact ⟨_, .overlong hname h⟩
    | unknown =>
        by_cases hspells : ∃ r, Spells name.toList r
        · obtain ⟨r, hspells⟩ := hspells
          rcases Nat.lt_or_ge r.offset.natAbs 1440 with hday | hday
          · exact ⟨_, .offset hname h hspells hday⟩
          · exact ⟨_, .dayOrMore hname h hspells hday⟩
        · exact ⟨_, .other hname h fun r hr => hspells ⟨r, hr⟩⟩

theorem chosen_select (text : String) (database : Database) :
    Chosen database (strip text) (select text database) := by
  obtain ⟨outcome, h⟩ := exists_chosen database (strip text)
  rwa [select_eq_of_chosen h]

/-! ## Refusals -/

/-- Whether looking up a name breaks off. -/
def Database.BreaksOff (database : Database) (name : String) : Prop :=
  name ≠ "" ∧ (database.answer name = .region ∨ database.answer name = .overlong)

/-- Whether a name selects no zone: looking it up breaks off, or it spells a day or more. -/
def Database.Refuses (database : Database) (name : String) : Prop :=
  database.BreaksOff name ∨
    database.answer name = .unknown ∧ ∃ r, Spells name.toList r ∧ 1440 ≤ r.amount

theorem ne_empty_of_spells {name : String} {r : Reading} (h : Spells name.toList r) : name ≠ "" := by
  rintro rfl
  cases h.reading?

theorem exists_refusal_of_refuses {text : String} (h : database.Refuses (strip text)) :
    ∃ refusal, select text database = .error refusal := by
  rcases h with ⟨hname, h | h⟩ | ⟨h, r, hspells, hday⟩
  · exact ⟨_, select_eq_of_chosen (.region hname h)⟩
  · exact ⟨_, select_eq_of_chosen (.overlong hname h)⟩
  · exact ⟨_, select_eq_of_chosen (.dayOrMore (ne_empty_of_spells hspells) h hspells
      (r.natAbs_offset ▸ hday))⟩

theorem exists_select_of_not_refuses {text : String} (h : ¬ database.Refuses (strip text)) :
    ∃ zone, Chosen database (strip text) (.ok zone) ∧ select text database = .ok zone := by
  have hchosen := chosen_select text database
  cases hselect : select text database with
  | ok zone => exact ⟨zone, hselect ▸ hchosen, rfl⟩
  | error refusal =>
      rw [hselect] at hchosen
      refine absurd ?_ h
      cases hchosen with
      | region hname hanswer => exact .inl ⟨hname, .inl hanswer⟩
      | overlong hname hanswer => exact .inl ⟨hname, .inr hanswer⟩
      | @dayOrMore r _ hanswer hspells hday =>
          exact .inr ⟨hanswer, r, hspells, r.natAbs_offset ▸ hday⟩

/-! ## Spelled offsets -/

theorem answer_eq_unknown {name : String} (hname : name ≠ "")
    (hzone : ∀ zone, database.answer name ≠ .zone zone) (h : ¬ database.BreaksOff name) :
    database.answer name = .unknown := by
  cases hanswer : database.answer name with
  | zone zone => exact absurd hanswer (hzone zone)
  | unknown => rfl
  | region => exact absurd ⟨hname, .inl hanswer⟩ h
  | overlong => exact absurd ⟨hname, .inr hanswer⟩ h

/-- A text that is not the name of a zone says at most one offset. It selects that offset if it is less
than a day, and UTC if it says none; but where looking it up breaks off, it is refused whatever it
says. -/
theorem offset_names_read_one_way {text : String}
    (hzone : ∀ zone, database.answer (strip text) ≠ .zone zone) :
    (∀ r r', Spells (strip text).toList r → Spells (strip text).toList r' → r = r') ∧
    (¬ database.BreaksOff (strip text) →
      (∀ r, Spells (strip text).toList r → r.amount < 1440 → ∃ offset : Offset,
        offset.seconds = 60 * ((if r.negative then -1 else 1) * (60 * r.hours + r.minutes)) ∧
          select text database = .ok (fixed offset)) ∧
      (∀ r, Spells (strip text).toList r → 1440 ≤ r.amount →
        select text database = .error .dayOrMore) ∧
      ((∀ r, ¬ Spells (strip text).toList r) → select text database = .ok utc)) ∧
    (database.BreaksOff (strip text) →
      select text database = .error .region ∨ select text database = .error .overlong) := by
  refine ⟨fun r r' h h' => h.unique h', fun hsound => ⟨?_, ?_, ?_⟩, ?_⟩
  · intro r hspells hamount
    have hname := ne_empty_of_spells hspells
    have hday : r.offset.natAbs < 1440 := r.natAbs_offset ▸ hamount
    exact ⟨.ofMinutes r.offset hday, by rw [← r.offset_eq]; rfl, select_eq_of_chosen
      (.offset hname (answer_eq_unknown hname hzone hsound) hspells hday)⟩
  · intro r hspells hamount
    have hname := ne_empty_of_spells hspells
    exact select_eq_of_chosen (.dayOrMore hname (answer_eq_unknown hname hzone hsound) hspells
      (r.natAbs_offset ▸ hamount))
  · intro hspells
    by_cases hname : strip text = ""
    · exact select_empty hname
    · exact select_eq_of_chosen
        (.other hname (answer_eq_unknown hname hzone hsound) hspells)
  · rintro ⟨hname, h | h⟩
    · exact .inl (select_eq_of_chosen (.region hname h))
    · exact .inr (select_eq_of_chosen (.overlong hname h))

/-- Of three digits the first stands for the hours. -/
theorem three_digits_read :
    (∀ zone, Database.bundled.answer (strip " utc-530 ") ≠ .zone zone) ∧
      Spells (strip " utc-530 ").toList ⟨true, 5, 30⟩ ∧
      ∃ offset : Offset, offset.seconds = -19800 ∧ select " utc-530 " = .ok (fixed offset) := by
  have hunknown : Database.bundled.answer (strip " utc-530 ") = .unknown := rfl
  have hzone (zone : Zone) : Database.bundled.answer (strip " utc-530 ") ≠ .zone zone := by
    rw [hunknown]
    nofun
  have hsound : ¬ Database.bundled.BreaksOff (strip " utc-530 ") := by
    rintro ⟨-, h | h⟩ <;> cases hunknown.symm.trans h
  have hspells : Spells (strip " utc-530 ").toList ⟨true, 5, 30⟩ :=
    Spelling.spells_of_reading? (not_suffix_strip _) (by decide +kernel)
  exact ⟨hzone, hspells,
    ((offset_names_read_one_way hzone).2.1 hsound).1 _ hspells (by decide)⟩

/-- The name of a region is neither that of a zone nor an offset, and yet it does not select UTC. -/
theorem region_selects_nothing :
    ¬ ∀ text, (∀ zone, Database.bundled.answer (strip text) ≠ .zone zone) →
      (∀ r, ¬ Spells (strip text).toList r) → select text = .ok utc := by
  intro h
  have hregion : Database.bundled.answer (strip "Europe") = .region := rfl
  have hspells (r : Reading) : ¬ Spells (strip "Europe").toList r := fun hr => by
    cases (show Spelling.reading? (strip "Europe").toList = none by decide +kernel).symm.trans
      hr.reading?
  have hutc := h "Europe" (fun zone => by rw [hregion]; nofun) hspells
  cases (show select "Europe" = .error .region from rfl).symm.trans hutc

end Zone

end Noticeboard.Calendar
