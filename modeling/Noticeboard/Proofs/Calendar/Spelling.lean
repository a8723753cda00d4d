import Noticeboard.Calendar.Spelling

/-!
Spelled offsets. A name spells an offset in one of six ways, `H`, `HH`, `H:MM`, `HH:MM`, `HMM` and
`HHMM` after `UTC` or `GMT` and a sign. The reader finds what such a name says, so that no name says
two things, and it takes no other name that does not end in a line feed.
-/

namespace Noticeboard.Calendar.Spelling

open Text (digitValue?)

/-! ## Grammar -/

/-- Two digits, and the number that they stand for. -/
inductive TwoDigits : List Char → Nat → Prop
  | mk {a b : Char} {x y : Nat} (ha : digitValue? a = some x) (hb : digitValue? b = some y) :
      TwoDigits [a, b] (10 * x + y)

/-- One digit or two, and the hours that they stand for. -/
inductive Hours : List Char → Nat → Prop
  | one {a : Char} {x : Nat} (ha : digitValue? a = some x) : Hours [a] x
  | two {cs : List Char} {n : Nat} (h : TwoDigits cs n) : Hours cs n

/-- Two digits, perhaps after a colon, or none, and the minutes that they stand for. -/
inductive Minutes : List Char → Nat → Prop
  | none : Minutes [] 0
  | two {cs : List Char} {n : Nat} (h : TwoDigits cs n) : Minutes cs n
  | colon {cs : List Char} {n : Nat} (h : TwoDigits cs n) : Minutes (':' :: cs) n

inductive Sign : Char → Bool → Prop
  | plus : Sign '+' false
  | minus : Sign '-' true

/-- Whether a word is `UTC` or `GMT` in any letter case. -/
def IsBase (word : List Char) : Prop :=
  word.map Char.toUpper = ['U', 'T', 'C'] ∨ word.map Char.toUpper = ['G', 'M', 'T']

/-- Whether a name spells an offset, and what it says. -/
inductive Spells : List Char → Reading → Prop
  | mk {word hs ms : List Char} {sign : Char} {negative : Bool} {hours minutes : Nat}
      (hword : IsBase word) (hsign : Sign sign negative) (hhours : Hours hs hours)
      (hminutes : Minutes ms minutes) :
      Spells (word ++ sign :: (hs ++ ms)) ⟨negative, hours, minutes⟩

/-! ## Names that spell an offset are read -/

theorem digits?_two {a b : Char} {x y : Nat} (ha : digitValue? a = some x)
    (hb : digitValue? b = some y) (rest : List Char) :
    digits? 2 0 (a :: b :: rest) = some (10 * x + y, rest) := by
  simp only [digits?, ha, hb, Nat.mul_zero, Nat.zero_add]

theorem digits?_one {a : Char} {x : Nat} (ha : digitValue? a = some x) (rest : List Char) :
    digits? 1 0 (a :: rest) = some (x, rest) := by
  simp only [digits?, ha, Nat.mul_zero, Nat.zero_add]

theorem ne_of_digit {a c : Char} {x : Nat} (ha : digitValue? a = some x)
    (hc : digitValue? c = none) : a ≠ c := by
  rintro rfl
  cases ha.symm.trans hc

theorem digitValue?_colon : digitValue? ':' = none := by decide

theorem digitValue?_feed : digitValue? '\n' = none := by decide

theorem TwoDigits.twoMinutes? {cs : List Char} {n : Nat} (h : TwoDigits cs n) :
    twoMinutes? cs = some n := by
  cases h with
  | mk ha hb =>
      rw [Spelling.twoMinutes?, digits?_two ha hb]
      rfl

theorem colonMinutes?_of_ne {c : Char} (h : c ≠ ':') (cs : List Char) :
    colonMinutes? (c :: cs) = none := by
  rw [colonMinutes?]
  rintro rest ⟨⟩
  exact h rfl

theorem Minutes.minutes? {cs : List Char} {n : Nat} (h : Minutes cs n) : minutes? cs = some n := by
  cases h with
  | none => rfl
  | two h =>
      rw [Spelling.minutes?, h.twoMinutes?]
      cases h with
      | mk ha hb => rw [colonMinutes?_of_ne (ne_of_digit ha digitValue?_colon)]; rfl
  | colon h => rw [Spelling.minutes?, colonMinutes?, h.twoMinutes?]; rfl

/-- One digit is no end and no minutes. -/
theorem minutes?_digit {a : Char} {x : Nat} (ha : digitValue? a = some x) :
    minutes? [a] = none := by
  have hdigits : digits? 2 0 [a] = none := by simp only [digits?, ha]
  have hend : atEnd [a] = false := by simp [atEnd, ne_of_digit ha digitValue?_feed]
  rw [minutes?, colonMinutes?_of_ne (ne_of_digit ha digitValue?_colon), twoMinutes?, hdigits, hend]
  rfl

/-- With two digits for the hours nothing is left to try. With one, two are tried in vain: too few
digits are there or a colon is in the way, or one digit is left over. -/
theorem time?_of_grammar {hs ms : List Char} {hours minutes : Nat} (hhours : Hours hs hours)
    (hminutes : Minutes ms minutes) : time? (hs ++ ms) = some (hours, minutes) := by
  have hread := hminutes.minutes?
  cases hhours with
  | two h =>
      cases h with
      | mk ha hb =>
          simp only [time?, timeAt?, List.cons_append, List.nil_append, digits?_two ha hb, hread]
          rfl
  | @one a _ ha =>
      have hone : timeAt? 1 ([a] ++ ms) = some (hours, minutes) := by
        simp only [timeAt?, List.cons_append, List.nil_append, digits?_one ha, hread]
        rfl
      have htwo : timeAt? 2 ([a] ++ ms) = none := by
        cases hminutes with
        | none => simp only [timeAt?, List.append_nil, digits?, ha]
        | two h =>
            cases h with
            | mk hb hc =>
                simp only [timeAt?, List.cons_append, List.nil_append, digits?_two ha hb,
                  minutes?_digit hc]
                rfl
        | colon h =>
            simp only [timeAt?, List.cons_append, List.nil_append, digits?, ha, digitValue?_colon]
      rw [time?, htwo, hone]
      rfl

theorem Spells.reading? {cs : List Char} {r : Reading} (h : Spells cs r) :
    reading? cs = some r := by
  cases h with
  | @mk word hs ms sign negative hours minutes hword hsign hhours hminutes =>
      have hlength : word.length = 3 := by
        rcases hword with h | h <;> simpa using congrArg List.length h
      have hnegative : negative? sign = some negative := by cases hsign <;> rfl
      match word, hlength with
      | [a, b, c], _ =>
          simp only [List.cons_append, List.nil_append, Spelling.reading?, hnegative,
            time?_of_grammar hhours hminutes]
          exact if_pos hword

theorem Spells.unique {cs : List Char} {r r' : Reading} (h : Spells cs r) (h' : Spells cs r') :
    r = r' :=
  Option.some.inj (h.reading?.symm.trans h'.reading?)

/-! ## Names that are read spell an offset -/

theorem twoDigits_of_digits? {cs rest : List Char} {n : Nat} (h : digits? 2 0 cs = some (n, rest)) :
    ∃ front, TwoDigits front n ∧ cs = front ++ rest := by
  match cs with
  | [] => cases h
  | [a] =>
      cases ha : digitValue? a <;> simp [digits?, ha] at h
  | a :: b :: cs =>
      cases ha : digitValue? a with
      | none => simp [digits?, ha] at h
      | some x =>
          cases hb : digitValue? b with
          | none => simp [digits?, ha, hb] at h
          | some y =>
              cases (digits?_two ha hb cs).symm.trans h
              exact ⟨[a, b], .mk ha hb, rfl⟩

theorem hours_of_digits? {cs rest : List Char} {n : Nat} (h : digits? 1 0 cs = some (n, rest)) :
    ∃ front, Hours front n ∧ cs = front ++ rest := by
  match cs with
  | [] => cases h
  | a :: cs =>
      cases ha : digitValue? a with
      | none => simp [digits?, ha] at h
      | some x =>
          cases (digits?_one ha cs).symm.trans h
          exact ⟨[a], .one ha, rfl⟩

theorem eq_nil_of_atEnd {cs : List Char} (hfeed : ¬ ['\n'] <:+ cs) (h : atEnd cs = true) :
    cs = [] := by
  simp only [atEnd, Bool.or_eq_true, decide_eq_true_eq] at h
  rcases h with h | rfl
  · exact h
  · exact absurd (List.suffix_refl _) hfeed

theorem twoDigits_of_twoMinutes? {cs : List Char} {n : Nat} (hfeed : ¬ ['\n'] <:+ cs)
    (h : twoMinutes? cs = some n) : TwoDigits cs n := by
  rw [twoMinutes?] at h
  split at h
  · next hdigits =>
      obtain ⟨front, hfront, rfl⟩ := twoDigits_of_digits? hdigits
      split at h
      · next hend =>
          cases h
          have hrest := eq_nil_of_atEnd (fun hs => hfeed (hs.trans (List.suffix_append _ _))) hend
          rwa [hrest, List.append_nil]
      · cases h
  · cases h

theorem minutes_of_minutes? {cs : List Char} {n : Nat} (hfeed : ¬ ['\n'] <:+ cs)
    (h : minutes? cs = some n) : Minutes cs n := by
  rw [minutes?, Option.or_eq_some_iff, Option.or_eq_some_iff] at h
  rcases h with hcolon | ⟨-, htwo | ⟨-, hend⟩⟩
  · rw [colonMinutes?.eq_def] at hcolon
    split at hcolon
    · exact .colon (twoDigits_of_twoMinutes?
        (fun hs => hfeed (hs.trans (List.suffix_cons _ _))) hcolon)
    · cases hcolon
  · exact .two (twoDigits_of_twoMinutes? hfeed htwo)
  · split at hend
    · next h =>
        cases hend
        exact eq_nil_of_atEnd hfeed h ▸ .none
    · cases hend

theorem grammar_of_timeAt? {width : Nat} {cs : List Char} {hours minutes : Nat}
    (hfront : ∀ {rest n}, digits? width 0 cs = some (n, rest) →
      ∃ front, Hours front n ∧ cs = front ++ rest)
    (hfeed : ¬ ['\n'] <:+ cs) (h : timeAt? width cs = some (hours, minutes)) :
    ∃ hs ms, Hours hs hours ∧ Minutes ms minutes ∧ cs = hs ++ ms := by
  rw [timeAt?] at h
  split at h
  · next hdigits =>
      obtain ⟨front, hhours, rfl⟩ := hfront hdigits
      obtain ⟨n, hn, hpair⟩ := Option.map_eq_some_iff.mp h
      cases hpair
      exact ⟨front, _, hhours,
        minutes_of_minutes? (fun hs => hfeed (hs.trans (List.suffix_append _ _))) hn, rfl⟩
  · cases h

theorem grammar_of_time? {cs : List Char} {hours minutes : Nat} (hfeed : ¬ ['\n'] <:+ cs)
    (h : time? cs = some (hours, minutes)) :
    ∃ hs ms, Hours hs hours ∧ Minutes ms minutes ∧ cs = hs ++ ms := by
  rcases Option.or_eq_some_iff.mp h with h | ⟨-, h⟩
  · refine grammar_of_timeAt? (fun hdigits => ?_) hfeed h
    obtain ⟨front, htwo, hcs⟩ := twoDigits_of_digits? hdigits
    exact ⟨front, .two htwo, hcs⟩
  · exact grammar_of_timeAt? hours_of_digits? hfeed h

theorem sign_of_negative? {c : Char} {negative : Bool} (h : negative? c = some negative) :
    Sign c negative := by
  rw [negative?] at h
  split at h
  · next hc =>
      cases h
      exact hc ▸ .plus
  · split at h
    · next hc =>
        cases h
        exact hc ▸ .minus
    · cases h

theorem spells_of_reading? {cs : List Char} {r : Reading} (hfeed : ¬ ['\n'] <:+ cs)
    (h : reading? cs = some r) : Spells cs r := by
  rw [reading?.eq_def] at h
  split at h
  · next a b c sign rest =>
      dsimp only at h
      split at h
      · next hword =>
          split at h
          · next negative hours minutes hnegative htime =>
              cases h
              obtain ⟨hs, ms, hhours, hminutes, rfl⟩ := grammar_of_time?
                (fun hs => hfeed (hs.trans (List.suffix_append [a, b, c, sign] _))) htime
              show Spells ([a, b, c] ++ sign :: (hs ++ ms)) _
              exact .mk hword (sign_of_negative? hnegative) hhours hminutes
          · cases h
      · cases h
  · cases h

/-- The reader finds what a name says, if it says anything. -/
theorem reading?_eq_some_iff {cs : List Char} {r : Reading} (hfeed : ¬ ['\n'] <:+ cs) :
    reading? cs = some r ↔ Spells cs r :=
  ⟨spells_of_reading? hfeed, Spells.reading?⟩

example : reading? "gmt-0199".toList = some ⟨true, 1, 99⟩ := by decide

end Noticeboard.Calendar.Spelling
