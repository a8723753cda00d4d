import Noticeboard.Calendar.Date

/-!
Dates and their numbers. Every number is that of the date which is made from it, and this date is in
the calendar: its month is one of the twelve, and its day is no later than the last of that month in
its year.
-/

namespace Noticeboard.Calendar

/-! ## Years -/

def yearLength (year : Nat) : Nat := if isLeap year then 366 else 365

theorem daysIn_monthLengths (year : Nat) : daysIn (monthLengths year) = yearLength year := by
  cases hleap : isLeap year <;> simp [monthLengths, yearLength, daysIn, hleap]

theorem isLeap_iff (year : Nat) :
    isLeap year = true ↔ year % 4 = 0 ∧ (year % 100 ≠ 0 ∨ year % 400 = 0) := by
  simp [isLeap]

theorem daysBefore_succ {year : Nat} (h : 1 ≤ year) :
    daysBefore (year + 1) = daysBefore year + yearLength year := by
  obtain ⟨y, rfl⟩ : ∃ y, year = y + 1 := ⟨year - 1, by omega⟩
  have fours : (y + 1) / 4 = y / 4 + if (y + 1) % 4 = 0 then 1 else 0 := by split <;> omega
  have centuries : (y + 1) / 100 = y / 100 + if (y + 1) % 100 = 0 then 1 else 0 := by
    split <;> omega
  have cycles : (y + 1) / 400 = y / 400 + if (y + 1) % 400 = 0 then 1 else 0 := by
    split <;> omega
  simp only [daysBefore, yearLength, isLeap_iff, Nat.add_sub_cancel, fours, centuries, cycles]
  -- Every fourth year is a leap year, no hundredth one but every four hundredth one.
  by_cases h4 : (y + 1) % 4 = 0
  · by_cases h100 : (y + 1) % 100 = 0
    · by_cases h400 : (y + 1) % 400 = 0
      · rw [if_pos h4, if_pos h100, if_pos h400, if_pos ⟨h4, .inr h400⟩]
        omega
      · rw [if_pos h4, if_pos h100, if_neg h400, if_neg (by omega)]
        omega
    · rw [if_pos h4, if_neg h100, if_neg (by omega), if_pos ⟨h4, .inl h100⟩]
      omega
  · rw [if_neg h4, if_neg (by omega), if_neg (by omega), if_neg (by omega)]
    omega

theorem daysBefore_mono {a b : Nat} (h : a ≤ b) : daysBefore a ≤ daysBefore b := by
  induction h with
  | refl => exact Nat.le_refl _
  | @step b _ ih =>
      refine Nat.le_trans ih ?_
      by_cases hb : 1 ≤ b
      · rw [daysBefore_succ hb]
        exact Nat.le_add_right _ _
      · obtain rfl : b = 0 := by omega
        exact Nat.le_refl _

section Cycles

variable {centuries fours ones : Nat}

theorem daysBefore_cycles (cycles : Nat) (hcenturies : centuries ≤ 3) (hfours : fours ≤ 24)
    (hones : ones ≤ 3) :
    daysBefore (400 * cycles + 100 * centuries + 4 * fours + ones + 1) =
      146097 * cycles + 36524 * centuries + 1461 * fours + 365 * ones := by
  simp only [daysBefore]
  omega

/-- The last year of four is a leap year, but not that of a century, unless it ends a cycle. -/
theorem yearLength_cycles (cycles : Nat) (hcenturies : centuries ≤ 3) (hfours : fours ≤ 24)
    (hones : ones ≤ 3) :
    yearLength (400 * cycles + 100 * centuries + 4 * fours + ones + 1) =
      if ones = 3 ∧ (fours < 24 ∨ centuries = 3) then 366 else 365 := by
  have hleap : isLeap (400 * cycles + 100 * centuries + 4 * fours + ones + 1) = true ↔
      ones = 3 ∧ (fours < 24 ∨ centuries = 3) := by
    rw [isLeap_iff]
    omega
  simp only [yearLength, hleap]

end Cycles

theorem splitYear_spec (n : Nat) :
    1 ≤ (splitYear n).1 ∧ daysBefore (splitYear n).1 + (splitYear n).2 = n ∧
      (splitYear n).2 < yearLength (splitYear n).1 := by
  obtain ⟨r, hr⟩ : ∃ r, r = n % 146097 := ⟨_, rfl⟩
  obtain ⟨centuries, hcenturies⟩ : ∃ k, k = min (r / 36524) 3 := ⟨_, rfl⟩
  obtain ⟨s, hs⟩ : ∃ s, s = r - 36524 * centuries := ⟨_, rfl⟩
  obtain ⟨ones, hones⟩ : ∃ o, o = min (s % 1461 / 365) 3 := ⟨_, rfl⟩
  have hsplit : splitYear n =
      (400 * (n / 146097) + 100 * centuries + 4 * (s / 1461) + ones + 1,
        s % 1461 - 365 * ones) := by
    simp only [splitYear, hones, hs, hcenturies, hr]
  have hfours : s / 1461 ≤ 24 := by omega
  rw [hsplit, daysBefore_cycles _ (by omega) hfours (by omega),
    yearLength_cycles _ (by omega) hfours (by omega)]
  refine ⟨by omega, by omega, ?_⟩
  dsimp only
  split <;> omega

/-! ## Months -/

theorem splitMonth_spec (lengths : List Nat) {n : Nat} (h : n < daysIn lengths) :
    (splitMonth n lengths).1 < lengths.length ∧
      (splitMonth n lengths).2 < lengths.getD (splitMonth n lengths).1 0 ∧
      daysIn (lengths.take (splitMonth n lengths).1) + (splitMonth n lengths).2 = n := by
  induction lengths generalizing n with
  | nil => cases h
  | cons length rest ih =>
      rw [splitMonth]
      by_cases hn : n < length
      · rw [if_pos hn]
        exact ⟨Nat.succ_pos _, hn, Nat.zero_add n⟩
      · rw [if_neg hn]
        have hrest : n - length < daysIn rest := by
          rw [daysIn] at h
          omega
        obtain ⟨hmonth, hday, hsum⟩ := ih hrest
        refine ⟨Nat.succ_lt_succ hmonth, hday, ?_⟩
        simp only [List.take_succ_cons, daysIn]
        omega

/-! ## Dates -/

/-- Whether a date is in the calendar. -/
structure Date.WellFormed (d : Date) : Prop where
  year : 1 ≤ d.year
  month : 1 ≤ d.month ∧ d.month ≤ 12
  day : 1 ≤ d.day ∧ d.day ≤ (monthLengths d.year).getD (d.month - 1) 0

theorem monthLengths_le {year length : Nat} (h : length ∈ monthLengths year) : length ≤ 31 := by
  simp only [monthLengths, List.mem_cons, List.not_mem_nil, or_false] at h
  have hfebruary : (if isLeap year then 29 else 28) ≤ 31 := by split <;> decide
  omega

theorem Date.WellFormed.day_le {d : Date} (h : d.WellFormed) : d.day ≤ 31 := by
  refine Nat.le_trans h.day.2 ?_
  rw [List.getD_eq_getElem?_getD]
  cases hlength : (monthLengths d.year)[d.month - 1]? with
  | none => exact Nat.zero_le _
  | some length => exact monthLengths_le (List.mem_of_getElem? hlength)

theorem Date.ofNumber_eq (n : Nat) :
    Date.ofNumber n =
      { year := (splitYear n).1
        month := (splitMonth (splitYear n).2 (monthLengths (splitYear n).1)).1 + 1
        day := (splitMonth (splitYear n).2 (monthLengths (splitYear n).1)).2 + 1 } := by
  rw [Date.ofNumber]

theorem Date.ofNumber_spec (n : Nat) :
    (Date.ofNumber n).WellFormed ∧ (Date.ofNumber n).number = n := by
  obtain ⟨hyear, hplace, hlength⟩ := splitYear_spec n
  rw [← daysIn_monthLengths] at hlength
  obtain ⟨hmonth, hday, hsum⟩ := splitMonth_spec _ hlength
  rw [ofNumber_eq]
  refine ⟨⟨hyear, ⟨Nat.succ_pos _, hmonth⟩, ⟨Nat.succ_pos _, hday⟩⟩, ?_⟩
  simp only [Date.number, Nat.add_sub_cancel]
  rw [Nat.add_assoc, hsum, hplace]

example : Date.ofNumber 738944 = ⟨2024, 2, 29⟩ := by decide

theorem Date.wellFormed_ofNumber (n : Nat) : (Date.ofNumber n).WellFormed := (ofNumber_spec n).1

theorem Date.number_ofNumber (n : Nat) : (Date.ofNumber n).number = n := (ofNumber_spec n).2

theorem Date.daysBefore_le_number (d : Date) : daysBefore d.year ≤ d.number := by
  rw [Date.number]
  omega

/-- A day before the first of January of a year is in an earlier year. -/
theorem Date.year_ofNumber_lt {n year : Nat} (h : n < daysBefore year) :
    (Date.ofNumber n).year < year := by
  refine Nat.not_le.mp fun hle => ?_
  have hnumber := daysBefore_le_number (Date.ofNumber n)
  rw [number_ofNumber] at hnumber
  exact absurd (Nat.le_trans (daysBefore_mono hle) hnumber) (Nat.not_le.mpr h)

end Noticeboard.Calendar
