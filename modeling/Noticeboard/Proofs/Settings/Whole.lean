import Mathlib.Data.List.TakeDrop
import Noticeboard.Proofs.Text.Numeral
import Noticeboard.Settings.Whole

/-!
Whole numbers above zero in settings. Their spellings are told by a grammar, in which the digits
of the number may be of any count. The reader finds the number of each spelling with no more
digits than are read, and finds a number above zero in no other text.
-/

namespace Noticeboard.Settings.Whole

open Text (isWhite trim)
open Text.Numeral (Digits Sign digitOf)

/-! ## Grammar -/

/-- Digits with single underscores between them, and the digits alone. -/
inductive Grouped : List Char → List Char → Prop
  | last {c : Char} (hc : c.isDigit) : Grouped [c] [c]
  | next {c : Char} {cs ds : List Char} (hc : c.isDigit) (h : Grouped cs ds) :
      Grouped (c :: cs) (c :: ds)
  | underscore {c : Char} {cs ds : List Char} (hc : c.isDigit) (h : Grouped cs ds) :
      Grouped (c :: '_' :: cs) (c :: ds)

/-- Zeros in front of a number, if there are some, with underscores among and after them. -/
inductive Leading : List Char → Prop
  | none : Leading []
  | zeros {cs : List Char} (h : ∀ c ∈ cs, c = '0' ∨ c = '_') : Leading ('0' :: cs)

/-- A fraction of zeros, if there is one. -/
inductive Fraction : List Char → Prop
  | none : Fraction []
  | zeros {cs : List Char} (h : ∀ c ∈ cs, c = '0') : Fraction ('.' :: '0' :: cs)

/-- Whether a text spells a whole number above zero, and the digits of the number. -/
inductive Spells : List Char → List Char → Prop
  | mk {front sign zeros body fraction back ds : List Char} (hfront : ∀ c ∈ front, isWhite c = true)
      (hsign : Sign false sign) (hzeros : Leading zeros) (hbody : Grouped body ds)
      (hfirst : ds.head? ≠ some '0') (hfraction : Fraction fraction)
      (hback : ∀ c ∈ back, isWhite c = true) :
      Spells (front ++ (sign ++ (zeros ++ (body ++ fraction)) ++ back)) ds

/-- Whether a text spells a whole number above zero in no more digits than are read. -/
inductive Counts : List Char → Nat → Prop
  | mk {cs ds : List Char} (h : Spells cs ds) (hlength : ds.length ≤ Text.maxDigits) :
      Counts cs (Nat.ofDigitChars 10 ds 0)

/-! ## Plain numerals -/

theorem isDigit_eq (c : Char) : isDigit c = c.isDigit := by
  rw [isDigit, Text.Numeral.asciiDigit?_eq]
  cases c.isDigit <;> rfl

theorem ne_of_isDigit {c d : Char} (hc : c.isDigit) (hd : d.isDigit = false) : c ≠ d := by
  rintro rfl
  cases hc.symm.trans hd

theorem digit_range {c : Char} (h : c.isDigit) : 48 ≤ c.toNat ∧ c.toNat ≤ 57 := by
  simp only [Char.isDigit, ge_iff_le, Bool.and_eq_true, decide_eq_true_eq, UInt32.le_iff_toNat_le]
    at h
  exact h

theorem digitOf_eq_zero {c : Char} (hc : c.isDigit) (h : digitOf c = 0) : c = '0' := by
  refine Char.toNat_inj.mp ?_
  have := digit_range hc
  rw [digitOf] at h
  exact Nat.le_antisymm (Nat.le_of_sub_eq_zero h) this.1

theorem le_ofDigitChars (cs : List Char) (n : Nat) : n ≤ Nat.ofDigitChars 10 cs n := by
  induction cs generalizing n with
  | nil => exact Nat.le_refl n
  | cons c cs ih =>
      rw [Nat.ofDigitChars_cons]
      exact Nat.le_trans (by omega) (ih _)

theorem ofDigitChars_pos {ds : List Char} (h : Digits ds) (hfirst : ds.head? ≠ some '0') :
    0 < Nat.ofDigitChars 10 ds 0 := by
  obtain ⟨c, cs, rfl⟩ := List.exists_cons_of_ne_nil h.1
  rw [Nat.ofDigitChars_cons]
  refine Nat.lt_of_lt_of_le (Nat.pos_of_ne_zero fun hzero => hfirst ?_) (le_ofDigitChars cs _)
  rw [Nat.mul_zero, Nat.zero_add] at hzero
  rw [digitOf_eq_zero (h.2 c List.mem_cons_self) hzero]
  rfl

theorem minus_of_head {cs : List Char} (h : cs.head? ≠ some '-') : minus cs = (false, cs) := by
  rw [minus]
  rintro cs rfl
  exact h rfl

/-- The digits of a number are a plain numeral if they are not too many. -/
theorem plain?_digits {ds : List Char} (h : Digits ds) (hfirst : ds.head? ≠ some '0')
    (hlength : ds.length ≤ Text.maxDigits) :
    plain? ds = some (Nat.ofDigitChars 10 ds 0 : Int) := by
  have hminus : minus ds = (false, ds) := minus_of_head fun hhead =>
    ne_of_isDigit (h.2 _ (List.mem_of_head? hhead)) (by decide) rfl
  have hall : ds.all Char.isDigit = true := List.all_eq_true.mpr h.2
  simp only [plain?, hminus, Text.Numeral.digitsOf_eq, hall, ↓reduceIte]
  split
  · next hnone => cases hnone
  · next hnil => exact absurd (List.map_eq_nil_iff.mp (Option.some.inj hnil)) h.1
  · next hzero =>
      obtain ⟨c, cs, rfl⟩ := List.exists_cons_of_ne_nil h.1
      have hc := digitOf_eq_zero (h.2 c List.mem_cons_self) (List.cons.inj (Option.some.inj hzero)).1
      exact absurd (congrArg some hc) hfirst
  · next hdigits =>
      cases hdigits
      rw [List.length_map, if_pos hlength, Text.Numeral.ofDigits_map]
      rfl

theorem plain?_split {cs : List Char} {m : Int} (h : plain? cs = some m)
    (hminus : cs.head? ≠ some '-') :
    Digits cs ∧ (cs.head? = some '0' → cs = ['0']) ∧ cs.length ≤ Text.maxDigits ∧
      m = Nat.ofDigitChars 10 cs 0 := by
  simp only [plain?, minus_of_head hminus, Text.Numeral.digitsOf_eq] at h
  split at h
  · cases h
  · cases h
  · cases h
  · next hnil hzero hdigits =>
      split at hdigits
      · next hall =>
          cases hdigits
          split at h
          · next hlength =>
              rw [List.length_map] at hlength
              rw [Text.Numeral.ofDigits_map] at h
              cases h
              refine ⟨⟨?_, List.all_eq_true.mp hall⟩, fun hhead => ?_, hlength, rfl⟩
              · rintro rfl
                exact hnil rfl
              · obtain ⟨more, rfl⟩ := List.head?_eq_some_iff.mp hhead
                cases more with
                | nil => rfl
                | cons c cs => exact absurd rfl (hzero _ _)
          · cases h
      · cases hdigits

theorem plain?_minus {cs : List Char} {m : Int} (h : plain? ('-' :: cs) = some m) : m ≤ 0 := by
  simp only [plain?, minus] at h
  split at h
  · cases h
  · cases h
  · cases h
  · split at h
    · cases h
      exact Int.neg_nonpos_of_nonneg (Int.natCast_nonneg _)
    · cases h

theorem plain?_pos {cs : List Char} {n : Nat} (hn : 0 < n) (h : plain? cs = some (n : Int)) :
    Digits cs ∧ cs.head? ≠ some '0' ∧ cs.length ≤ Text.maxDigits ∧
      n = Nat.ofDigitChars 10 cs 0 := by
  have hminus : cs.head? ≠ some '-' := by
    intro hhead
    obtain ⟨cs, rfl⟩ := List.head?_eq_some_iff.mp hhead
    exact absurd (plain?_minus h) (by omega)
  obtain ⟨hdigits, hzero, hlength, hvalue⟩ := plain?_split h hminus
  refine ⟨hdigits, fun hhead => ?_, hlength, Int.ofNat.inj hvalue⟩
  rw [hzero hhead] at hvalue
  exact absurd (Int.ofNat.inj hvalue) (Nat.ne_of_gt hn)

/-! ## Numbers that are spelled are read -/

theorem filter_cons_digit {c : Char} (hc : c ≠ '_') (cs : List Char) :
    (c :: cs).filter (· ≠ '_') = c :: cs.filter (· ≠ '_') :=
  List.filter_cons_of_pos (decide_eq_true hc)

namespace Grouped

variable {cs ds : List Char}

theorem digits (h : Grouped cs ds) : Digits ds := by
  induction h with
  | last hc => exact ⟨List.cons_ne_nil _ _, List.forall_mem_singleton.mpr hc⟩
  | next hc _ ih | underscore hc _ ih =>
      exact ⟨List.cons_ne_nil _ _, List.forall_mem_cons.mpr ⟨hc, ih.2⟩⟩

theorem head (h : Grouped cs ds) : ∃ c cs' ds', c.isDigit ∧ cs = c :: cs' ∧ ds = c :: ds' := by
  cases h with
  | last hc | next hc | underscore hc => exact ⟨_, _, _, hc, rfl, rfl⟩

theorem mem (h : Grouped cs ds) {c : Char} (hmem : c ∈ cs) : c.isDigit ∨ c = '_' := by
  induction h with
  | last hc =>
      cases List.mem_singleton.mp hmem
      exact .inl hc
  | next hc _ ih =>
      rcases List.mem_cons.mp hmem with rfl | hmem
      · exact .inl hc
      · exact ih hmem
  | underscore hc _ ih =>
      rcases List.mem_cons.mp hmem with rfl | hmem
      · exact .inl hc
      · rcases List.mem_cons.mp hmem with rfl | hmem
        · exact .inr rfl
        · exact ih hmem

theorem getLast? (h : Grouped cs ds) : cs.getLast? ≠ some '_' := by
  induction h with
  | last hc => exact fun heq => ne_of_isDigit hc (by decide) (Option.some.inj heq)
  | next _ h ih =>
      obtain ⟨d, cs, -, -, rfl, -⟩ := h.head
      rwa [List.getLast?_cons_cons]
  | underscore _ h ih =>
      obtain ⟨d, cs, -, -, rfl, -⟩ := h.head
      rwa [List.getLast?_cons_cons, List.getLast?_cons_cons]

theorem hasDoubled (h : Grouped cs ds) : hasDoubled cs = false := by
  have hskip {c : Char} (hc : c.isDigit) (cs : List Char) :
      Whole.hasDoubled (c :: cs) = Whole.hasDoubled cs := by
    rw [Whole.hasDoubled]
    rintro cs ⟨⟩
    cases hc
  induction h with
  | last hc => rw [hskip hc, Whole.hasDoubled]
  | next hc _ ih => rwa [hskip hc]
  | underscore hc h ih =>
      obtain ⟨d, cs, -, hd, rfl, -⟩ := h.head
      rw [hskip hc, Whole.hasDoubled]
      · exact ih
      · intro tail _ heq
        exact ne_of_isDigit hd (by decide) (List.cons.inj heq).1

theorem filter (h : Grouped cs ds) : cs.filter (· ≠ '_') = ds := by
  have hkeep {c : Char} (hc : c.isDigit) (cs : List Char) :
      (c :: cs).filter (· ≠ '_') = c :: cs.filter (· ≠ '_') :=
    filter_cons_digit (ne_of_isDigit hc (by decide)) cs
  induction h with
  | last hc => exact hkeep hc []
  | next hc _ ih => rw [hkeep hc, ih]
  | underscore hc _ ih => rw [hkeep hc, List.filter_cons_of_neg (by decide), ih]

theorem ungrouped (h : Grouped cs ds) : ungrouped cs = ds := by
  obtain ⟨c, cs', -, hc, hcs, -⟩ := h.head
  have hhead : cs.head? ≠ some '_' := by
    rw [hcs]
    exact fun heq => ne_of_isDigit hc (by decide) (Option.some.inj heq)
  rw [Whole.ungrouped, h.hasDoubled, decide_eq_false hhead, decide_eq_false h.getLast?]
  exact h.filter

end Grouped

theorem afterZeros_append {zeros : List Char} (hzeros : ∀ c ∈ zeros, c = '0' ∨ c = '_') {c : Char}
    (hc : c.isDigit) (hne : c ≠ '0') (cs : List Char) (last : Char) :
    afterZeros last (zeros ++ c :: cs) = some (c :: cs) := by
  induction zeros generalizing last with
  | nil =>
      have hunder : c ≠ '_' := ne_of_isDigit hc (by decide)
      have hpoint : c ≠ '.' := ne_of_isDigit hc (by decide)
      simp [afterZeros, hne, hunder, hpoint, isDigit_eq, hc]
  | cons z zeros ih =>
      rw [List.forall_mem_cons] at hzeros
      rw [List.cons_append, afterZeros, if_pos (by simpa using hzeros.1), ih hzeros.2]

theorem withoutZeros?_append {zeros : List Char} (hzeros : Leading zeros) {c : Char}
    (hc : c.isDigit) (hne : c ≠ '0') (cs : List Char) :
    withoutZeros? (zeros ++ c :: cs) = some (c :: cs) := by
  cases hzeros with
  | none => simp [withoutZeros?, hne, isDigit_eq, hc]
  | zeros h => exact afterZeros_append h hc hne cs '0'

theorem withoutFraction_append {body fraction : List Char} (hbody : ∀ c ∈ body, c ≠ '.')
    (hfraction : Fraction fraction) : withoutFraction (body ++ fraction) = body := by
  have hfront : ∀ c ∈ body, decide (c ≠ '.') = true := fun c hc => decide_eq_true (hbody c hc)
  rw [withoutFraction, List.span_eq_takeWhile_dropWhile, List.takeWhile_append_of_pos hfront,
    List.dropWhile_append_of_pos hfront]
  cases hfraction with
  | none => exact List.append_nil body
  | zeros h =>
      refine (if_pos ?_).trans (List.append_nil body)
      exact List.all_eq_true.mpr (List.forall_mem_cons.mpr ⟨rfl, fun c hc => decide_eq_true (h c hc)⟩)

section Grammar

variable {cs ds sign zeros body fraction : List Char}

/-- The spelling of a number begins with zeros or with its first digit. -/
theorem head_of_parts (hzeros : Leading zeros) (hbody : Grouped body ds) (fraction : List Char) :
    ∃ c cs, c.isDigit ∧ zeros ++ (body ++ fraction) = c :: cs := by
  cases hzeros with
  | none =>
      obtain ⟨c, cs, -, hc, rfl, -⟩ := hbody.head
      exact ⟨c, _, hc, rfl⟩
  | zeros => exact ⟨'0', _, by decide, rfl⟩

theorem tidyBody?_append (hzeros : Leading zeros) (hbody : Grouped body ds)
    (hfirst : ds.head? ≠ some '0') (hfraction : Fraction fraction) :
    tidyBody? (zeros ++ (body ++ fraction)) = some ds := by
  obtain ⟨c, cs, ds', hc, rfl, rfl⟩ := hbody.head
  have hpoint : ∀ d ∈ c :: cs, d ≠ '.' := by
    rintro d hd rfl
    rcases hbody.mem hd with hd | hd <;> cases hd
  rw [tidyBody?, List.cons_append,
    withoutZeros?_append hzeros hc (fun heq => hfirst (congrArg some heq)), Option.map_some,
    ← List.cons_append, withoutFraction_append hpoint hfraction, hbody.ungrouped]

/-- What stands in the spelling of a number between the white space around it. -/
theorem mem_parts (hsign : Sign false sign) (hzeros : Leading zeros) (hbody : Grouped body ds)
    (hfraction : Fraction fraction) {c : Char} (h : c ∈ sign ++ (zeros ++ (body ++ fraction))) :
    c.isDigit ∨ c ∈ ['+', '_', '.'] := by
  simp only [List.mem_append] at h
  rcases h with h | h | h | h
  · cases hsign with
    | none => cases h
    | plus => exact .inr (List.mem_cons.mpr (.inl (List.mem_singleton.mp h)))
  · cases hzeros with
    | none => cases h
    | zeros hall =>
        rcases List.mem_cons.mp h with rfl | h
        · exact .inl (by decide)
        · rcases hall c h with rfl | rfl
          · exact .inl (by decide)
          · exact .inr (by decide)
  · rcases hbody.mem h with h | rfl
    · exact .inl h
    · exact .inr (by decide)
  · cases hfraction with
    | none => cases h
    | zeros hall =>
        rcases List.mem_cons.mp h with rfl | h
        · exact .inr (by decide)
        · rcases List.mem_cons.mp h with rfl | h
          · exact .inl (by decide)
          · exact .inl (hall c h ▸ by decide)

theorem isWhite_of_isDigit {c : Char} (hc : c.isDigit) : isWhite c = false := by
  have := digit_range hc
  simp only [isWhite, Bool.or_eq_false_iff, Bool.and_eq_false_iff, decide_eq_false_iff_not,
    beq_eq_false_iff_ne]
  omega

theorem isWhite_of_part {c : Char} (h : c.isDigit ∨ c ∈ ['+', '_', '.']) : isWhite c = false := by
  rcases h with h | h
  · exact isWhite_of_isDigit h
  · simp only [List.mem_cons, List.not_mem_nil, or_false] at h
    rcases h with rfl | rfl | rfl <;> decide

theorem tidy?_of_digit {c : Char} {rest : List Char} (hc : c.isDigit)
    (h : trim isWhite cs = c :: rest) : tidy? cs = tidyBody? (c :: rest) := by
  rw [tidy?, h]
  split
  · next heq => cases heq; cases hc
  · next heq => cases heq; cases hc
  · next heq => cases heq; cases hc
  · rfl

theorem tidy?_of_plus {c : Char} {rest : List Char} (hc : c.isDigit)
    (h : trim isWhite cs = '+' :: c :: rest) : tidy? cs = tidyBody? (c :: rest) := by
  rw [tidy?, h]
  split
  · next heq => cases heq; cases hc
  · next heq => cases heq; rfl
  · next heq => cases heq
  · next hplus _ => exact absurd rfl (hplus _)

theorem Spells.tidy? (h : Spells cs ds) : tidy? cs = some ds := by
  cases h with
  | @mk front sign zeros body fraction back ds hfront hsign hzeros hbody hfirst hfraction hback =>
      have hwhite {c : Char} (hc : c ∈ sign ++ (zeros ++ (body ++ fraction))) : isWhite c = false :=
        isWhite_of_part (mem_parts hsign hzeros hbody hfraction hc)
      have htrim := Text.trim_append hfront hback (fun c hc => hwhite (List.mem_of_head? hc))
        (fun c hc => hwhite (List.mem_of_getLast? hc))
      have htidy := tidyBody?_append hzeros hbody hfirst hfraction
      obtain ⟨c, cs, hc, hparts⟩ := head_of_parts hzeros hbody fraction
      rw [hparts] at htrim htidy ⊢
      cases hsign with
      | none => exact (tidy?_of_digit hc htrim).trans htidy
      | plus => exact (tidy?_of_plus hc htrim).trans htidy

end Grammar

/-! ## Texts that are read spell a number -/

theorem grouped_digits {ds : List Char} (h : Digits ds) : Grouped ds ds := by
  obtain ⟨hne, hdigits⟩ := h
  induction ds with
  | nil => exact absurd rfl hne
  | cons c ds ih =>
      rw [List.forall_mem_cons] at hdigits
      cases ds with
      | nil => exact .last hdigits.1
      | cons d ds => exact .next hdigits.1 (ih (List.cons_ne_nil _ _) hdigits.2)

theorem hasDoubled_tail {c : Char} {cs : List Char} (h : hasDoubled (c :: cs) = false) :
    hasDoubled cs = false := by
  cases cs with
  | nil => rfl
  | cons d cs =>
      by_cases hc : c = '_' ∧ d = '_'
      · obtain ⟨rfl, rfl⟩ := hc
        cases h
      · rwa [hasDoubled] at h
        rintro tail rfl heq
        exact hc ⟨rfl, (List.cons.inj heq).1⟩

/-- Underscores that are neither doubled nor at an end stand between digits. -/
theorem grouped_filter {cs : List Char} (hne : cs ≠ [])
    (hdigits : ∀ c ∈ cs.filter (· ≠ '_'), c.isDigit) (hhead : cs.head? ≠ some '_')
    (hlast : cs.getLast? ≠ some '_') (hdoubled : hasDoubled cs = false) :
    Grouped cs (cs.filter (· ≠ '_')) := by
  match cs with
  | [] => exact absurd rfl hne
  | c :: rest =>
      have hc : c ≠ '_' := fun heq => hhead (congrArg some heq)
      rw [filter_cons_digit hc] at hdigits ⊢
      rw [List.forall_mem_cons] at hdigits
      match rest with
      | [] => exact .last hdigits.1
      | d :: rest =>
          rw [List.getLast?_cons_cons] at hlast
          by_cases hd : d = '_'
          · subst hd
            match rest with
            | [] => exact absurd rfl hlast
            | e :: rest =>
                have he : (e :: rest).head? ≠ some '_' := by
                  intro heq
                  cases Option.some.inj heq
                  cases hasDoubled_tail hdoubled
                rw [List.getLast?_cons_cons] at hlast
                exact .underscore hdigits.1 (grouped_filter (List.cons_ne_nil _ _) hdigits.2 he hlast
                  (hasDoubled_tail (hasDoubled_tail hdoubled)))
          · exact .next hdigits.1 (grouped_filter (List.cons_ne_nil _ _) hdigits.2
              (fun heq => hd (Option.some.inj heq)) hlast (hasDoubled_tail hdoubled))

theorem grouped_of_ungrouped {cs ds : List Char} (h : ungrouped cs = ds) (hds : Digits ds) :
    Grouped cs ds := by
  rw [ungrouped] at h
  split at h
  · subst h
    exact grouped_digits hds
  · next hends =>
      subst h
      simp only [Bool.or_eq_true, decide_eq_true_eq, not_or, Bool.not_eq_true] at hends
      refine grouped_filter ?_ hds.2 hends.1.1 hends.1.2 hends.2
      rintro rfl
      exact hds.1 rfl

theorem withoutFraction_split (cs : List Char) :
    ∃ fraction, Fraction fraction ∧ cs = withoutFraction cs ++ fraction := by
  rw [withoutFraction, List.span_eq_takeWhile_dropWhile]
  split
  · next whole d c zeros heq =>
      obtain ⟨rfl, hdrop⟩ := Prod.mk.inj heq
      split
      · next hzeros =>
          have hd := List.head?_dropWhile_not (fun c => decide (c ≠ '.')) cs
          rw [hdrop, List.head?_cons] at hd
          simp only [ne_eq, decide_not, Bool.not_eq_eq_eq_not, Bool.not_false, decide_eq_true_eq]
            at hd
          simp only [List.all_cons, Bool.and_eq_true, decide_eq_true_eq, List.all_eq_true] at hzeros
          rw [hd, hzeros.1] at hdrop
          refine ⟨'.' :: '0' :: zeros, .zeros hzeros.2, ?_⟩
          rw [← hdrop, List.takeWhile_append_dropWhile]
      · exact ⟨[], .none, (List.append_nil cs).symm⟩
  · exact ⟨[], .none, (List.append_nil cs).symm⟩

theorem afterZeros_split {last : Char} {cs rest : List Char} (h : afterZeros last cs = some rest)
    (hlast : last = '0' ∨ last = '_') (hhead : ∀ c ∈ rest.head?, c ≠ '0' ∧ c ≠ '_') :
    ∃ zeros, (∀ c ∈ zeros, c = '0' ∨ c = '_') ∧ cs = zeros ++ rest := by
  induction cs generalizing last with
  | nil =>
      cases h
      obtain ⟨hzero, hunder⟩ := hhead last rfl
      exact (hlast.elim hzero hunder).elim
  | cons c cs ih =>
      rw [afterZeros] at h
      split at h
      · next hc =>
          simp only [Bool.or_eq_true, decide_eq_true_eq] at hc
          obtain ⟨zeros, hzeros, rfl⟩ := ih h hc
          exact ⟨c :: zeros, List.forall_mem_cons.mpr ⟨hc, hzeros⟩, rfl⟩
      · split at h
        · cases h
          obtain ⟨hzero, hunder⟩ := hhead last rfl
          exact (hlast.elim hzero hunder).elim
        · split at h
          · cases h
            exact ⟨[], fun _ h => absurd h List.not_mem_nil, rfl⟩
          · cases h

theorem withoutZeros?_split {cs rest : List Char} (h : withoutZeros? cs = some rest)
    (hhead : ∀ c ∈ rest.head?, c ≠ '0' ∧ c ≠ '_') :
    ∃ zeros, Leading zeros ∧ cs = zeros ++ rest := by
  cases cs with
  | nil => cases h
  | cons c cs =>
      rw [withoutZeros?] at h
      split at h
      · next hc =>
          subst hc
          obtain ⟨zeros, hzeros, rfl⟩ := afterZeros_split h (.inl rfl) hhead
          exact ⟨_, .zeros hzeros, rfl⟩
      · split at h
        · cases h
          exact ⟨[], .none, rfl⟩
        · cases h

theorem tidyBody?_split {cs ds : List Char} (h : tidyBody? cs = some ds) (hds : Digits ds)
    (hfirst : ds.head? ≠ some '0') :
    ∃ zeros body fraction, Leading zeros ∧ Grouped body ds ∧ Fraction fraction ∧
      cs = zeros ++ (body ++ fraction) := by
  obtain ⟨rest, hrest, hungrouped⟩ := Option.map_eq_some_iff.mp h
  have hbody := grouped_of_ungrouped hungrouped hds
  obtain ⟨fraction, hfraction, hsplit⟩ := withoutFraction_split rest
  obtain ⟨c, body, ds, hc, hcs, rfl⟩ := hbody.head
  rw [hcs] at hbody hsplit
  subst hsplit
  obtain ⟨zeros, hzeros, rfl⟩ := withoutZeros?_split hrest fun d hd => by
    cases hd
    exact ⟨fun heq => hfirst (congrArg some heq), ne_of_isDigit hc (by decide)⟩
  exact ⟨zeros, _, fraction, hzeros, hbody, hfraction, rfl⟩

theorem spells_of_tidy? {cs ds : List Char} (h : tidy? cs = some ds) (hds : Digits ds)
    (hfirst : ds.head? ≠ some '0') : Spells cs ds := by
  obtain ⟨front, back, hfront, hback, hcs⟩ := Text.trim_split isWhite cs
  rw [tidy?] at h
  split at h
  · cases h
  · next htrim =>
      obtain ⟨zeros, body, fraction, hzeros, hbody, hfraction, rfl⟩ := tidyBody?_split h hds hfirst
      rw [hcs, htrim]
      exact .mk hfront .plus hzeros hbody hfirst hfraction hback
  · obtain ⟨body, -, rfl⟩ := Option.map_eq_some_iff.mp h
    cases hds.2 '-' List.mem_cons_self
  · next body _ _ htrim =>
      obtain ⟨zeros, body, fraction, hzeros, hbody, hfraction, hparts⟩ := tidyBody?_split h hds hfirst
      rw [hcs, hparts]
      exact .mk hfront .none hzeros hbody hfirst hfraction hback

/-! ## Reading -/

theorem Spells.digits {cs ds : List Char} (h : Spells cs ds) :
    Digits ds ∧ ds.head? ≠ some '0' := by
  cases h with
  | mk _ _ _ hbody hfirst => exact ⟨hbody.digits, hfirst⟩

theorem Spells.unique {cs ds ds' : List Char} (h : Spells cs ds) (h' : Spells cs ds') : ds = ds' :=
  Option.some.inj (h.tidy?.symm.trans h'.tidy?)

theorem spells_digits {ds : List Char} (h : Digits ds) (hfirst : ds.head? ≠ some '0') :
    Spells ds ds := by
  have hspells := @Spells.mk [] [] [] ds [] [] ds nofun .none .none (grouped_digits h) hfirst .none
    nofun
  rwa [List.nil_append, List.nil_append, List.nil_append, List.append_nil, List.append_nil]
    at hspells

theorem isDigit_of_isWhite {c : Char} (h : isWhite c = true) : c.isDigit = false :=
  Bool.eq_false_iff.mpr fun hc => Bool.false_ne_true ((isWhite_of_isDigit hc).symm.trans h)

theorem takeWhile_of_head {cs : List Char} (h : ∀ c ∈ cs.head?, c.isDigit = false) :
    cs.takeWhile isDigit = [] := by
  cases cs with
  | nil => rfl
  | cons c cs =>
      refine List.takeWhile_cons_of_neg ?_
      rw [isDigit_eq, h c rfl]
      exact Bool.false_ne_true

theorem Grouped.length_takeWhile {cs ds rest : List Char} (h : Grouped cs ds)
    (hrest : rest.takeWhile isDigit = []) :
    ((cs ++ rest).takeWhile isDigit).length ≤ ds.length := by
  have htake {c : Char} (hc : c.isDigit) (cs : List Char) :
      ((c :: cs).takeWhile isDigit).length = (cs.takeWhile isDigit).length + 1 := by
    rw [List.takeWhile_cons_of_pos ((isDigit_eq c).trans hc), List.length_cons]
  induction h with
  | last hc =>
      rw [List.cons_append, htake hc, List.nil_append, hrest]
      exact Nat.le_refl 1
  | next hc _ ih =>
      rw [List.cons_append, htake hc]
      exact Nat.succ_le_succ ih
  | underscore hc _ _ =>
      rw [List.cons_append, htake hc, List.cons_append, takeWhile_of_head]
      · exact Nat.succ_le_succ (Nat.zero_le _)
      · rintro c ⟨⟩
        rfl

section Overlong

variable {cs ds : List Char}

/-- The spelling of a number begins with a zero, or with no more digits than the number has. -/
theorem Spells.front (h : Spells cs ds) : cs.head? ≠ some '-' ∧
    (cs.head? = some '0' ∨ (cs.takeWhile isDigit).length ≤ ds.length) := by
  have hstop {c : Char} {cs : List Char} (hc : c.isDigit = false) :
      ((c :: cs).takeWhile isDigit).length ≤ ds.length := by
    rw [takeWhile_of_head]
    · exact Nat.zero_le _
    · rintro _ ⟨⟩
      exact hc
  cases h with
  | @mk front sign zeros body fraction back _ hfront hsign hzeros hbody hfirst hfraction hback =>
      match front with
      | c :: front =>
          have hc := hfront c List.mem_cons_self
          refine ⟨fun heq => ?_, .inr (hstop (isDigit_of_isWhite hc))⟩
          cases Option.some.inj heq
          cases hc
      | [] =>
          cases hsign with
          | plus => exact ⟨nofun, .inr (hstop rfl)⟩
          | none =>
              cases hzeros with
              | zeros => exact ⟨nofun, .inl rfl⟩
              | none =>
                  obtain ⟨c, cs, -, hc, rfl, -⟩ := hbody.head
                  refine ⟨fun heq => ne_of_isDigit hc (by decide) (Option.some.inj heq), .inr ?_⟩
                  simp only [List.nil_append, List.append_assoc]
                  refine hbody.length_takeWhile (takeWhile_of_head fun c hc => ?_)
                  cases hfraction with
                  | zeros => cases hc; rfl
                  | none => exact isDigit_of_isWhite (hback c (List.mem_of_head? hc))

theorem Spells.not_overlong (h : Spells cs ds) (hlength : ds.length ≤ Text.maxDigits) :
    isOverlong cs = false := by
  obtain ⟨hminus, hfront⟩ := h.front
  rw [isOverlong, minus_of_head hminus, Bool.and_eq_false_iff, decide_eq_false_iff_not,
    decide_eq_false_iff_not, not_not, Nat.not_lt]
  exact hfront.imp_right fun h => Nat.le_trans h hlength

end Overlong

theorem Counts.pos {cs : List Char} {n : Nat} (h : Counts cs n) : 0 < n := by
  cases h with
  | mk h => exact ofDigitChars_pos h.digits.1 h.digits.2

theorem Spells.plain? {cs ds : List Char} (h : Spells cs ds) {m : Int} (hplain : plain? cs = some m) :
    m = Nat.ofDigitChars 10 ds 0 := by
  obtain ⟨hdigits, hzero, -, rfl⟩ := plain?_split hplain h.front.1
  by_cases hfirst : cs.head? = some '0'
  · have htidy := h.tidy?
    rw [hzero hfirst] at htidy
    cases Option.some.inj (htidy.symm.trans (by decide : Whole.tidy? ['0'] = some ['0']))
    exact absurd rfl h.digits.2
  · rw [h.unique (spells_digits hdigits hfirst)]

/-- The reader finds a number above zero in the texts that spell it, and in no others. -/
theorem read_eq_ok_iff {s : String} {n : Nat} (hn : 0 < n) :
    read s = .ok (n : Int) ↔ Counts s.toList n := by
  rw [read]
  constructor
  · intro h
    split at h
    · next m hplain =>
        obtain ⟨hdigits, hfirst, hlength, rfl⟩ :=
          plain?_pos hn (hplain.trans (congrArg some (Except.ok.inj h)))
        exact .mk (spells_digits hdigits hfirst) hlength
    · split at h
      · cases h
      · cases hbind : (tidy? s.toList).bind Whole.plain? with
        | none => rw [hbind] at h; cases h
        | some m =>
            rw [hbind] at h
            obtain ⟨ds, htidy, hplain⟩ := Option.bind_eq_some_iff.mp hbind
            obtain ⟨hdigits, hfirst, hlength, rfl⟩ :=
              plain?_pos hn (hplain.trans (congrArg some (Except.ok.inj h)))
            exact .mk (spells_of_tidy? htidy hdigits hfirst) hlength
  · intro h
    cases h with
    | @mk ds h hlength =>
        split
        · next m hplain => exact congrArg Except.ok (h.plain? hplain)
        · rw [h.not_overlong hlength, h.tidy?, Option.bind_some,
            plain?_digits h.digits.1 h.digits.2 hlength]
          rfl

end Noticeboard.Settings.Whole
