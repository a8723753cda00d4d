import Noticeboard.Text.Numeral

/-!
Decimal numerals in ASCII: a sign, if there is one, and digits. They are told by the integers that
they stand for, and the reader of query numerals takes them and no other text.
-/

namespace Noticeboard.Text.Numeral

def Digits (cs : List Char) : Prop := cs ≠ [] ∧ ∀ c ∈ cs, c.isDigit

/-- What may stand in front of the digits of a number, by whether it is negative. -/
inductive Sign : Bool → List Char → Prop
  | none : Sign false []
  | plus : Sign false ['+']
  | minus : Sign true ['-']

/-- Whether a text is a numeral of an integer. -/
inductive Denotes : List Char → Int → Prop
  | mk {negative : Bool} {front cs : List Char} (hfront : Sign negative front) (h : Digits cs) :
      Denotes (front ++ cs) (signed negative (Nat.ofDigitChars 10 cs 0))

/-! ## Digits -/

theorem countP_numeral {negative : Bool} {front cs : List Char} (hfront : Sign negative front)
    (h : Digits cs) : (front ++ cs).countP Char.isDigit = cs.length := by
  have hall : cs.countP Char.isDigit = cs.length := List.countP_eq_length.mpr h.2
  cases hfront <;> simp [hall, Char.isDigit]

/-- The value of a character that is a digit. -/
def digitOf (c : Char) : Nat := c.toNat - '0'.toNat

theorem asciiDigit?_eq (c : Char) :
    asciiDigit? c = if c.isDigit then some (digitOf c) else none := by
  have hdigit : ('0' ≤ c ∧ c ≤ '9') ↔ c.isDigit = true := by
    simp only [Char.isDigit, Bool.and_eq_true, decide_eq_true_eq, ge_iff_le, Char.le_def]
  simp only [asciiDigit?, hdigit, digitOf]

theorem digitsOf_eq (cs : List Char) :
    digitsOf asciiDigit? cs = if cs.all Char.isDigit then some (cs.map digitOf) else none := by
  induction cs with
  | nil => rfl
  | cons c cs ih =>
      rw [digitsOf, ih, asciiDigit?_eq, List.all_cons]
      cases c.isDigit <;> cases cs.all Char.isDigit <;> rfl

theorem ofDigits_map (cs : List Char) : ofDigits (cs.map digitOf) = Nat.ofDigitChars 10 cs 0 := by
  simp only [ofDigits, List.foldl_map, Nat.mul_comm _ 10]
  rfl

/-- Zeros in front of a number do not count. -/
theorem ofDigitChars_zeros (zeros n : Nat) :
    Nat.ofDigitChars 10 (List.replicate zeros '0' ++ Nat.toDigits 10 n) 0 = n := by
  rw [Nat.ofDigitChars_append, Nat.ofDigitChars_replicate_zero, Nat.mul_zero,
    Nat.ofDigitChars_toDigits (by decide) (by decide)]

theorem digits_zeros (zeros n : Nat) :
    Digits (List.replicate zeros '0' ++ Nat.toDigits 10 n) := by
  refine ⟨fun h => Nat.toDigits_ne_nil (List.append_eq_nil_iff.mp h).2, fun c hc => ?_⟩
  rcases List.mem_append.mp hc with hc | hc
  · rw [List.eq_of_mem_replicate hc]
    rfl
  · exact Nat.isDigit_of_mem_toDigits (by decide) (by decide) hc

/-- Any number of zeros may stand between the sign of an integer and its digits. -/
theorem denotes_zeros {v : Int} {front : List Char} (hfront : Sign (v < 0) front) (zeros : Nat) :
    Denotes (front ++ (List.replicate zeros '0' ++ Nat.toDigits 10 v.natAbs)) v := by
  have hvalue : signed (v < 0) v.natAbs = v := by
    by_cases hv : v < 0
    · rw [decide_eq_true hv]
      exact (Int.eq_neg_natAbs_of_nonpos (Int.le_of_lt hv)).symm
    · rw [decide_eq_false hv]
      exact Int.natAbs_of_nonneg (Int.not_lt.mp hv)
  have h := Denotes.mk hfront (digits_zeros zeros v.natAbs)
  rwa [ofDigitChars_zeros, hvalue] at h

/-! ## Reading -/

variable {cs front : List Char} {negative : Bool}

theorem sign_append (hfront : Sign negative front) (h : Digits cs) :
    sign (front ++ cs) = (negative, cs) := by
  cases hfront with
  | plus | minus => rfl
  | none =>
      obtain ⟨hne, hdigits⟩ := h
      obtain ⟨c, cs, rfl⟩ := List.exists_cons_of_ne_nil hne
      have hc := hdigits c List.mem_cons_self
      rw [List.nil_append, sign]
      all_goals
        rintro tail ⟨⟩
        cases hc

theorem sign_split (h : sign cs = (negative, front)) :
    ∃ mark, Sign negative mark ∧ cs = mark ++ front := by
  rw [sign.eq_def] at h
  split at h
  · cases h
    exact ⟨_, .minus, rfl⟩
  · cases h
    exact ⟨_, .plus, rfl⟩
  · cases h
    exact ⟨_, .none, rfl⟩

theorem query?_append (hfront : Sign negative front) (h : Digits cs) :
    query? (front ++ cs) = some (negative, cs.map digitOf) := by
  have hall : cs.all Char.isDigit = true := List.all_eq_true.mpr h.2
  obtain ⟨c, cs, rfl⟩ := List.exists_cons_of_ne_nil h.1
  rw [query?, sign_append hfront h]
  simp only [digitsOf_eq, hall, ↓reduceIte, List.map_cons]

theorem query?_split {ds : List Nat} (h : query? cs = some (negative, ds)) :
    ∃ front body, Sign negative front ∧ Digits body ∧ cs = front ++ body ∧
      ds = body.map digitOf := by
  rw [query?] at h
  cases hsign : sign cs with
  | mk negative' body =>
      obtain ⟨front, hfront, rfl⟩ := sign_split hsign
      rw [hsign] at h
      simp only [digitsOf_eq] at h
      split at h
      · next k ks hdigits =>
          split at hdigits
          · next hall =>
              cases h
              have hvalues := Option.some.inj hdigits
              refine ⟨front, body, hfront, ⟨?_, List.all_eq_true.mp hall⟩, rfl, hvalues.symm⟩
              rintro rfl
              cases hvalues
          · cases hdigits
      · cases h

/-- The sign and the digits that are read are those of the number. -/
theorem query?_of_denotes {v : Int} (h : Denotes cs v) :
    ∃ negative ds, query? cs = some (negative, ds) ∧ v = signed negative (ofDigits ds) ∧
      ds.length = cs.countP Char.isDigit := by
  cases h with
  | @mk negative front cs hfront h =>
      refine ⟨negative, cs.map digitOf, query?_append hfront h, ?_, ?_⟩
      · rw [ofDigits_map]
      · rw [countP_numeral hfront h, List.length_map]

/-- What is no numeral is not read. -/
theorem query?_eq_none_iff : query? cs = none ↔ ¬ ∃ v, Denotes cs v := by
  constructor
  · rintro h ⟨v, hv⟩
    obtain ⟨negative, ds, hquery, -⟩ := query?_of_denotes hv
    cases h.symm.trans hquery
  · intro h
    refine Option.eq_none_iff_forall_ne_some.mpr fun (negative, ds) hquery => h ?_
    obtain ⟨front, body, hfront, hbody, rfl, -⟩ := query?_split hquery
    exact ⟨_, .mk hfront hbody⟩

end Noticeboard.Text.Numeral
