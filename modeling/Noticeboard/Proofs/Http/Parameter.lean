import Noticeboard.Http.Parameter
import Noticeboard.Proofs.Text.Numeral

/-!
Whole numbers among the parameters of a query. A parameter that is a text stands for the integer of
which it is a numeral, if that has 64 bits; any other text is refused with a reason, unless it is a
numeral with more digits than are read.
-/

namespace Noticeboard.Http

open Text.Numeral (Denotes Sign)

/-! ## Numerals -/

section Numerals

variable {s : String} {v : Int}

theorem filled?_of_denotes (h : Denotes s.toList v) : filled? (some s) = some s := by
  refine if_neg fun hs => ?_
  subst hs
  obtain ⟨negative, ds, hquery, -⟩ := Text.Numeral.query?_of_denotes h
  cases hquery

theorem parameter_of_denotes (h : Denotes s.toList v) (name : String) (default : Int) :
    parameter name default (some s) =
      if 4300 < s.toList.countP Char.isDigit then .error .tooManyDigits
      else if Int64.fits v then .ok v else .error (.outOfRange name s) := by
  obtain ⟨negative, ds, hquery, rfl, hlength⟩ := Text.Numeral.query?_of_denotes h
  rw [parameter, filled?_of_denotes h]
  simp only [hquery, hlength, Text.maxDigits]

theorem parameter_of_not_denotes (hs : s ≠ "") (h : ¬ ∃ v, Denotes s.toList v) (name : String)
    (default : Int) : parameter name default (some s) = .error (.notInteger name s) := by
  have hfilled : filled? (some s) = some s := if_neg hs
  rw [parameter, hfilled]
  simp only [Text.Numeral.query?_eq_none_iff.mpr h]

end Numerals

/-- What is read of a parameter that is a text: the integer of which it is a numeral, or why there
is none. -/
structure ReadsNumeral (name : String) (default : Int) (s : String) : Prop where
  value : ∀ v : Int, parameter name default (some s) = .ok v ↔
    Denotes s.toList v ∧ -9223372036854775808 ≤ v ∧ v ≤ 9223372036854775807
  malformed : (¬ ∃ v, Denotes s.toList v) →
    ∃ f, parameter name default (some s) = .error f ∧ f.category? = some .invalid ∧
      f.message = name ++ " must be an integer, got " ++ Text.quoted s
  outOfRange : ∀ v : Int, Denotes s.toList v →
    ¬ (-9223372036854775808 ≤ v ∧ v ≤ 9223372036854775807) →
    ∃ f, parameter name default (some s) = .error f ∧ f.category? = some .invalid ∧
      f.message = name ++ " is out of range, got " ++ Text.quoted s

/-- A parameter that is a text of at most 4300 digits is read as the integer of which it is a
numeral, if that has 64 bits, and any other such text is refused for its form or for its range.
Zeros in front of the digits and a plus sign make no difference. -/
theorem numerals_read (name : String) (default : Int) :
    (∀ s : String, s ≠ "" → s.toList.countP Char.isDigit ≤ 4300 → ReadsNumeral name default s) ∧
      ∀ (v : Int) (zeros : Nat) (front : List Char), -9223372036854775808 ≤ v →
        v ≤ 9223372036854775807 → Sign (v < 0) front →
        zeros + (Nat.toDigits 10 v.natAbs).length ≤ 4300 →
        parameter name default (some (String.ofList
          (front ++ (List.replicate zeros '0' ++ Nat.toDigits 10 v.natAbs)))) = .ok v := by
  have reading {s : String} {v : Int} (h : Denotes s.toList v)
      (hcount : s.toList.countP Char.isDigit ≤ 4300) :
      parameter name default (some s) =
        if Int64.fits v then .ok v else .error (.outOfRange name s) :=
    (parameter_of_denotes h name default).trans (if_neg (Nat.not_lt.mpr hcount))
  refine ⟨fun s hs hcount => ⟨fun v => ⟨fun hv => ?_, fun hv => ?_⟩, ?_, fun v h hrange => ?_⟩, ?_⟩
  · -- A value is read of a numeral only.
    by_cases h : ∃ v, Denotes s.toList v
    · obtain ⟨w, hw⟩ := h
      rw [reading hw hcount] at hv
      split at hv
      · next hfits =>
          cases hv
          exact ⟨hw, Int64.fits_iff.mp hfits⟩
      · cases hv
    · cases (parameter_of_not_denotes hs h name default).symm.trans hv
  · exact (reading hv.1 hcount).trans (if_pos (Int64.fits_iff.mpr hv.2))
  · exact fun h => ⟨_, parameter_of_not_denotes hs h name default, rfl, rfl⟩
  · exact ⟨_, (reading h hcount).trans (if_neg fun hfits => hrange (Int64.fits_iff.mp hfits)), rfl,
      rfl⟩
  · intro v zeros front hleast hgreatest hfront hlength
    have hcount := Text.Numeral.countP_numeral hfront
      (Text.Numeral.digits_zeros zeros v.natAbs)
    have h := Text.Numeral.denotes_zeros hfront zeros
    rw [← String.toList_ofList (l := front ++ _)] at h hcount
    rw [List.length_append, List.length_replicate] at hcount
    exact (reading h (hcount ▸ hlength)).trans
      (if_pos (Int64.fits_iff.mpr ⟨hleast, hgreatest⟩))

/-- The least integer of 64 bits is read with zeros in front of it, and a numeral with a line feed
after it is none. -/
theorem least_word_read :
    ("5\n" ≠ "" ∧ "5\n".toList.countP Char.isDigit ≤ 4300) ∧ ReadsNumeral "limit" 50 "5\n" ∧
    Sign ((-9223372036854775808 : Int) < 0) ['-'] ∧
    2 + (Nat.toDigits 10 (-9223372036854775808 : Int).natAbs).length ≤ 4300 ∧
    parameter "limit" 50 (some "-009223372036854775808") = .ok (-9223372036854775808) := by
  have hlength : 2 + (Nat.toDigits 10 (-9223372036854775808 : Int).natAbs).length ≤ 4300 := by
    decide
  have hsign : Sign ((-9223372036854775808 : Int) < 0) ['-'] := by
    rw [decide_eq_true (by decide)]
    exact .minus
  exact ⟨by decide, (numerals_read "limit" 50).1 "5\n" (by decide) (by decide), hsign, hlength,
    (numerals_read "limit" 50).2 (-9223372036854775808) 2 ['-'] (by decide) (by decide) hsign
      hlength⟩

end Noticeboard.Http
