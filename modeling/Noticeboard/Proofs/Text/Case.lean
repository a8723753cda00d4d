import Mathlib
import Noticeboard.Text.Case

/-!
Lower case in ASCII. No text in lower case has a capital letter of ASCII, and a text in ASCII
without one is in lower case.
-/

namespace Noticeboard.Text

theorem isUpper_ofNat {n : Nat} (h : 0x5a < n) : (Char.ofNat n).isUpper = false := by
  rw [Char.ofNat]
  split
  · next hvalid =>
      refine Bool.eq_false_iff.mpr fun hupper => ?_
      simp only [Char.isUpper, decide_eq_true_eq, UInt32.le_iff_toNat_le] at hupper
      have hle : n ≤ 0x5a := hupper.2
      omega
  · rfl

theorem isUpper_of_mem_lowerAlone {a c : Char} (h : c ∈ lowerAlone a) : c.isUpper = false := by
  have hruns : ∀ p ∈ upperRuns, 0x5a < p.1.first + p.2 := by decide +kernel
  rw [lowerAlone] at h
  split at h
  · rcases List.mem_cons.mp h with rfl | h
    · rfl
    · obtain rfl := List.mem_singleton.mp h
      rfl
  · split at h
    · next run distance hfind =>
        obtain rfl := List.mem_singleton.mp h
        have hrun : 0x5a < run.first + distance := hruns _ (List.mem_of_find?_eq_some hfind)
        have hhas := List.find?_some hfind
        simp only [Run.has, Bool.and_eq_true, decide_eq_true_eq] at hhas
        exact isUpper_ofNat (by omega)
    · obtain rfl := List.mem_singleton.mp h
      exact Char.isUpper_toLower_eq_false a

theorem isUpper_of_mem_lowerFrom {inWord : Bool} {cs : List Char} {c : Char}
    (h : c ∈ lowerFrom inWord cs) : c.isUpper = false := by
  induction cs generalizing inWord with
  | nil => cases h
  | cons a cs ih =>
      rw [lowerFrom] at h
      rcases List.mem_append.mp h with h | h
      · split at h
        · split at h <;> obtain rfl := List.mem_singleton.mp h <;> rfl
        · exact isUpper_of_mem_lowerAlone h
      · exact ih h

theorem isUpper_of_mem_lower {cs : List Char} {c : Char} (h : c ∈ lower cs) : c.isUpper = false :=
  isUpper_of_mem_lowerFrom h

/-- All letters that have their lower case from a run lie outside ASCII. -/
theorem lowerAlone_of_ascii {c : Char} (hascii : c.toNat < 0x80) (hlower : c.isUpper = false) :
    lowerAlone c = [c] := by
  have hfirst : ∀ p ∈ upperRuns, 0x80 ≤ p.1.first := by decide +kernel
  have hnone : upperRuns.find? (·.1.has c.toNat) = none := by
    refine List.find?_eq_none.mpr fun p hp hhas => ?_
    simp only [Run.has, Bool.and_eq_true, decide_eq_true_eq] at hhas
    have := hfirst p hp
    omega
  have hdot : c ≠ '\u0130' := by
    rintro rfl
    exact absurd hascii (by decide)
  have halone : c.toLower = c := Char.toLower_eq_of_not_isUpper (Bool.eq_false_iff.mp hlower)
  rw [lowerAlone, if_neg hdot, hnone]
  exact congrArg (fun x => [x]) halone

theorem lowerFrom_of_ascii {cs : List Char} (h : ∀ c ∈ cs, c.toNat < 0x80 ∧ c.isUpper = false)
    (inWord : Bool) : lowerFrom inWord cs = cs := by
  induction cs generalizing inWord with
  | nil => rfl
  | cons c cs ih =>
      obtain ⟨⟨hascii, hlower⟩, hcs⟩ := List.forall_mem_cons.mp h
      have hsigma : c ≠ 'Σ' := by
        rintro rfl
        exact absurd hascii (by decide)
      rw [lowerFrom, if_neg hsigma, lowerAlone_of_ascii hascii hlower, ih hcs]
      rfl

theorem lower_of_ascii {cs : List Char} (h : ∀ c ∈ cs, c.toNat < 0x80 ∧ c.isUpper = false) :
    lower cs = cs :=
  lowerFrom_of_ascii h false

end Noticeboard.Text
