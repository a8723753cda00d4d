import Mathlib.Algebra.Group.Nat.Defs
import Noticeboard.Text.Numeral

/-!
Numbers in a fixed width. A number that fits its width is written in exactly that many digits, zeros
in front included, and these tell it.
-/

namespace Noticeboard.Text.Numeral

/-- The last `width` decimal digits of a number. -/
def lastDigits : Nat → Nat → List Char
  | 0, _ => []
  | width + 1, n => lastDigits width (n / 10) ++ [(n % 10).digitChar]

@[simp]
theorem length_lastDigits (width n : Nat) : (lastDigits width n).length = width := by
  induction width generalizing n with
  | zero => rfl
  | succ width ih => rw [lastDigits, List.length_append, ih, List.length_singleton]

theorem lastDigits_zero (width : Nat) : lastDigits width 0 = List.replicate width '0' := by
  induction width with
  | zero => rfl
  | succ width ih => rw [lastDigits, Nat.zero_div, ih, List.replicate_succ']; rfl

/-- The last digits of a number are the last ones of what its highest digits leave. -/
theorem lastDigits_add (width more n : Nat) :
    lastDigits (width + more) n = lastDigits width (n / 10 ^ more) ++ lastDigits more n := by
  induction more generalizing n with
  | zero => rw [Nat.pow_zero, Nat.div_one, lastDigits, List.append_nil, Nat.add_zero]
  | succ more ih =>
      rw [← Nat.add_assoc, lastDigits, ih, lastDigits, List.append_assoc, Nat.div_div_eq_div_mul,
        Nat.pow_succ']

theorem ofDigitChars_lastDigits (width n : Nat) :
    Nat.ofDigitChars 10 (lastDigits width n) 0 = n % 10 ^ width := by
  induction width generalizing n with
  | zero => rw [lastDigits, Nat.ofDigitChars_nil, Nat.pow_zero, Nat.mod_one]
  | succ width ih =>
      rw [lastDigits, Nat.ofDigitChars_append, ih,
        Nat.ofDigitChars_cons_digitChar_of_lt_ten (Nat.mod_lt _ (by decide)), Nat.ofDigitChars_nil,
        Nat.pow_succ', Nat.mod_mul]
      omega

theorem eq_of_lastDigits {width n m : Nat} (hn : n < 10 ^ width) (hm : m < 10 ^ width)
    (h : lastDigits width n = lastDigits width m) : n = m := by
  have hvalue := congrArg (Nat.ofDigitChars 10 · 0) h
  simp only [ofDigitChars_lastDigits] at hvalue
  rwa [Nat.mod_eq_of_lt hn, Nat.mod_eq_of_lt hm] at hvalue

theorem toList_padded {width n : Nat} (hwidth : 0 < width) (h : n < 10 ^ width) :
    (padded width n).toList = lastDigits width n := by
  rw [padded, String.toList_ofList]
  induction width generalizing n with
  | zero => cases hwidth
  | succ width ih =>
      rw [lastDigits]
      by_cases hn : n < 10
      · rw [Nat.toDigits_of_lt_base hn, Nat.div_eq_of_lt hn, Nat.mod_eq_of_lt hn, lastDigits_zero]
        rfl
      · -- The last digit is split off; the others fill one place less.
        have hten : 10 ≤ n := Nat.not_lt.mp hn
        have hhigh : n / 10 < 10 ^ width := Nat.div_lt_of_lt_mul (Nat.pow_succ' ▸ h)
        have hwidth : 0 < width := by
          rcases Nat.eq_zero_or_pos width with rfl | hpos
          · omega
          · exact hpos
        rw [Nat.toDigits_of_base_le (by decide) hten, List.length_append, List.length_singleton,
          Nat.add_sub_add_right, ← List.append_assoc, ih hwidth hhigh]

end Noticeboard.Text.Numeral
