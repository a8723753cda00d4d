import Noticeboard.Proofs.Json.Grammar

/-!
White space, strings, numbers and words are read as the grammar has them. Each reader takes exactly
the text that the grammar has for a value, whatever comes after it, and returns the value; after a
number no character may come that would go on with it.
-/

namespace Noticeboard.Json

open Grammar

namespace Reader

/-! ## White space -/

theorem skip_of_isBlank {c : Char} (h : IsBlank c) (cs : List Char) : skip (c :: cs) = skip cs :=
  if_pos h

theorem skip_of_not_isBlank {c : Char} (h : ¬ IsBlank c) (cs : List Char) :
    skip (c :: cs) = c :: cs :=
  if_neg h

theorem skip_blank {w : List Char} (h : Blank w) (cs : List Char) : skip (w ++ cs) = skip cs := by
  induction w with
  | nil => rfl
  | cons c w ih =>
      rw [List.cons_append, skip_of_isBlank (h c List.mem_cons_self)]
      exact ih fun c' hc' => h c' (List.mem_cons_of_mem c hc')

/-! ## Strings -/

theorem hexDigit?_of_hexDigit {n : Nat} {c : Char} (h : HexDigit n c) :
    Text.hexDigit? c = some n := by
  have decimal : ∀ n < 10, Text.hexDigit? (Char.ofNat ('0'.toNat + n)) = some n := by decide
  have lower : ∀ n < 6, Text.hexDigit? (Char.ofNat ('a'.toNat + n)) = some (n + 10) := by decide
  have upper : ∀ n < 6, Text.hexDigit? (Char.ofNat ('A'.toNat + n)) = some (n + 10) := by decide
  cases h with
  | decimal h => exact decimal _ h
  | lower h => exact lower _ h
  | upper h => exact upper _ h

theorem after_nil (result : Option (List Char × List Char)) : after [] result = result := by
  cases result <;> rfl

variable {mends : Bool}

/-- An escaped code unit is taken as a whole. -/
theorem string_codeUnit {n : Nat} {cs front : List Char} {waiting waiting' : Option Nat}
    (h : CodeUnit n cs) (hunit : takeUnit mends waiting n = some (front, waiting'))
    (rest : List Char) :
    string mends .plain waiting (cs ++ rest) = after front (string mends .plain waiting' rest) := by
  cases h with
  | mk ha hb hc hd =>
      simp only [List.cons_append, List.nil_append, string, ↓reduceIte,
        hexDigit?_of_hexDigit ha, hexDigit?_of_hexDigit hb, hexDigit?_of_hexDigit hc,
        hexDigit?_of_hexDigit hd, Nat.zero_mul, Nat.zero_add, hunit]

theorem escaped?_of_shorthand {c e : Char} (h : (c, e) ∈ shorthands) :
    escaped? e = some c ∧ e ≠ 'u' := by
  have all : ∀ p ∈ shorthands, escaped? p.2 = some p.1 ∧ p.2 ≠ 'u' := by decide
  exact all (c, e) h

theorem takeUnit_toNat {c : Char} (h : c.toNat < 0x10000) :
    takeUnit mends none c.toNat = some ([c], none) := by
  have hvalid : c.toNat < 0xd800 ∨ 0xdfff < c.toNat ∧ c.toNat < 0x110000 := c.valid
  have hlow : isLow c.toNat = false := by simp [isLow]; omega
  have hhigh : isHigh c.toNat = false := by simp [isHigh]; omega
  simp [takeUnit, hlow, hhigh, settle]

theorem toNat_of_codeUnit {n : Nat} {cs : List Char} (h : CodeUnit n cs) : n < 0x10000 := by
  have small {n : Nat} {c : Char} (h : HexDigit n c) : n < 16 := by
    cases h <;> omega
  cases h with
  | mk ha hb hc hd =>
      have := small ha
      have := small hb
      have := small hc
      have := small hd
      omega

/-- The surrogate pair of a character is taken as that character. -/
theorem takeUnit_pair {c : Char} (h : 0x10000 ≤ c.toNat) :
    takeUnit mends none (0xd800 + (c.toNat - 0x10000) / 0x400) =
        some ([], some (0xd800 + (c.toNat - 0x10000) / 0x400)) ∧
      takeUnit mends (some (0xd800 + (c.toNat - 0x10000) / 0x400))
        (0xdc00 + (c.toNat - 0x10000) % 0x400) = some ([c], none) := by
  have hvalid : c.toNat < 0xd800 ∨ 0xdfff < c.toNat ∧ c.toNat < 0x110000 := c.valid
  have hjoined : joined (0xd800 + (c.toNat - 0x10000) / 0x400)
      (0xdc00 + (c.toNat - 0x10000) % 0x400) = c := by
    have hsum : 0x10000 + (0xd800 + (c.toNat - 0x10000) / 0x400 - 0xd800) * 0x400 +
        (0xdc00 + (c.toNat - 0x10000) % 0x400 - 0xdc00) = c.toNat := by
      omega
    rw [joined, hsum, Char.ofNat_toNat]
  have hfirst : isLow (0xd800 + (c.toNat - 0x10000) / 0x400) = false ∧
      isHigh (0xd800 + (c.toNat - 0x10000) / 0x400) = true := by
    simp [isLow, isHigh]
    omega
  have hsecond : isLow (0xdc00 + (c.toNat - 0x10000) % 0x400) = true := by
    simp [isLow]
    omega
  constructor
  · simp [takeUnit, hfirst, settle]
  · simp [takeUnit, hsecond, hjoined]

theorem string_character {c : Char} {cs : List Char} (h : Character c cs) (rest : List Char) :
    string mends .plain none (cs ++ rest) = after [c] (string mends .plain none rest) := by
  cases h with
  | raw hquote hslash hcontrol =>
      simp only [List.singleton_append, string, hslash, hquote, ↓reduceIte, settle,
        Nat.not_lt.mpr hcontrol, List.nil_append]
  | short h =>
      obtain ⟨hescaped, hu⟩ := escaped?_of_shorthand h
      simp only [List.cons_append, List.nil_append, string, ↓reduceIte, hu, settle, hescaped]
  | unit h => exact string_codeUnit h (takeUnit_toNat (toNat_of_codeUnit h)) rest
  | pair hc hhigh hlow =>
      rw [List.append_assoc, string_codeUnit hhigh (takeUnit_pair hc).1, after_nil,
        string_codeUnit hlow (takeUnit_pair hc).2]

theorem string_characters {body cs : List Char} (h : Characters body cs) (rest : List Char) :
    string mends .plain none (cs ++ '"' :: rest) = some (body, rest) := by
  induction h with
  | nil => rfl
  | cons h _ ih => rw [List.append_assoc, string_character h, ih, after, List.singleton_append]

/-! ## Numbers -/

theorem asciiDigit?_digitChar {k : Nat} (h : k < 10) :
    Text.asciiDigit? (Nat.digitChar k) = some k := by
  have all : ∀ k < 10, Text.asciiDigit? (Nat.digitChar k) = some k := by decide
  exact all k h

theorem digitChar_ne {k : Nat} (h : k < 10) {c : Char} (hc : Text.asciiDigit? c = none) :
    Nat.digitChar k ≠ c := by
  rintro rfl
  rw [asciiDigit?_digitChar h] at hc
  cases hc

/-- Whether no digit stands at the front. -/
def NoDigit (cs : List Char) : Prop := ∀ c rest, cs = c :: rest → Text.asciiDigit? c = none

/-- Whether nothing stands at the front with which a number would go on. -/
def Ends (cs : List Char) : Prop :=
  ∀ c rest, cs = c :: rest → Text.asciiDigit? c = none ∧ c ≠ '.' ∧ c ≠ 'e' ∧ c ≠ 'E'

variable {ds : List Nat} {cs rest : List Char}

theorem Ends.noDigit (h : Ends rest) : NoDigit rest := fun c tail hc => (h c tail hc).1

theorem noDigit_cons {c : Char} (h : Text.asciiDigit? c = none) : NoDigit (c :: rest) := by
  rintro c' tail heq
  cases heq
  exact h

theorem digits_map (h : ∀ k ∈ ds, k < 10) (hrest : NoDigit rest) :
    digits (ds.map Nat.digitChar ++ rest) = (ds, rest) := by
  induction ds with
  | nil =>
      cases rest with
      | nil => rfl
      | cons c rest => simp [digits, hrest c rest rfl]
  | cons k ds ih =>
      have hk := asciiDigit?_digitChar (h k List.mem_cons_self)
      have hds := ih fun k' hk' => h k' (List.mem_cons_of_mem k hk')
      simp only [List.map_cons, List.cons_append, digits, hk, hds]

theorem digits_append (h : Digits ds cs) (hrest : NoDigit rest) :
    digits (cs ++ rest) = (ds, rest) := by
  obtain ⟨_, hsmall, rfl⟩ := h
  exact digits_map hsmall hrest

/-- The first character of digits is a digit. -/
theorem head_of_digits (h : Digits ds cs) : ∃ k < 10, ∃ tail, cs = Nat.digitChar k :: tail := by
  obtain ⟨hne, hsmall, rfl⟩ := h
  cases ds with
  | nil => exact absurd rfl hne
  | cons k ds => exact ⟨k, hsmall k List.mem_cons_self, ds.map Nat.digitChar, rfl⟩

theorem sign_digits (h : Digits ds cs) (rest : List Char) :
    Text.Numeral.sign (cs ++ rest) = (false, cs ++ rest) := by
  obtain ⟨k, hk, tail, rfl⟩ := head_of_digits h
  have hminus := digitChar_ne hk (c := '-') rfl
  have hplus := digitChar_ne hk (c := '+') rfl
  rw [List.cons_append, Text.Numeral.sign]
  · intro cs hcs
    exact hminus (List.cons.inj hcs).1
  · intro cs hcs
    exact hplus (List.cons.inj hcs).1

theorem fraction_append {part : Option (List Nat)} (h : Fraction part cs) (hrest : NoDigit rest)
    (hpoint : ∀ tail, rest ≠ '.' :: tail) : fraction (cs ++ rest) = some (part, rest) := by
  cases h with
  | none => rw [List.nil_append, fraction]; exact fun cs hcs => hpoint cs hcs
  | @some ds cs h =>
      rw [List.cons_append, fraction, digits_append h hrest]
      obtain ⟨hne, -, -⟩ := h
      cases ds with
      | nil => exact absurd rfl hne
      | cons k ds => rfl

theorem exponent_of_digits {e : Char} (he : e = 'e' ∨ e = 'E') (front : List Char)
    {negative : Bool} (h : Digits ds cs) (hrest : NoDigit rest)
    (hsign : Text.Numeral.sign (front ++ (cs ++ rest)) = (negative, cs ++ rest)) :
    exponent (e :: (front ++ (cs ++ rest))) =
      some (some (Text.Numeral.signed negative (Text.Numeral.ofDigits ds)), rest) := by
  rw [exponent, if_pos he, hsign]
  dsimp only
  rw [digits_append h hrest]
  obtain ⟨hne, -, -⟩ := h
  cases ds with
  | nil => exact absurd rfl hne
  | cons k ds => rfl

theorem exponent_append {power : Option Int} (h : Exponent power cs) (hrest : Ends rest) :
    exponent (cs ++ rest) = some (power, rest) := by
  cases h with
  | none =>
      cases rest with
      | nil => rfl
      | cons c rest =>
          obtain ⟨_, _, he, hE⟩ := hrest c rest rfl
          rw [List.nil_append, exponent, if_neg (by simp [he, hE])]
  | unsigned he h => exact exponent_of_digits he [] h hrest.noDigit (sign_digits h rest)
  | plus he h => exact exponent_of_digits he ['+'] h hrest.noDigit rfl
  | minus he h => exact exponent_of_digits he ['-'] h hrest.noDigit rfl

variable {d : Dialect}

/-- A number without its sign: the digits of the whole part, and what follows them. -/
theorem unsigned_append (negative : Bool) (h : Leading ds cs) {part : Option (List Nat)}
    {power : Option Int} {front front' : List Char} (hpart : Fraction part front)
    (hpower : Exponent power front') (hrest : Ends rest) :
    unsigned d negative (cs ++ (front ++ (front' ++ rest))) =
      if part.isSome ∨ power.isSome then
        if ds.length ≤ d.realDigits.getD ds.length then
          some (.real (.ofDecimal negative (Text.Numeral.ofDigits (ds ++ part.getD []))
            (power.getD 0 - (part.getD []).length)), rest)
        else none
      else if ds.length ≤ d.wholeDigits then
        some (.int (Text.Numeral.signed negative (Text.Numeral.ofDigits ds)), rest)
      else none := by
  -- Neither the digits nor the fraction go on with what follows them.
  have hexponent : ∀ c tail, front' ++ rest = c :: tail →
      Text.asciiDigit? c = none ∧ c ≠ '.' := by
    intro c tail hc
    cases hpower with
    | none => exact ⟨(hrest c tail hc).1, (hrest c tail hc).2.1⟩
    | unsigned he _ | plus he _ | minus he _ =>
        cases hc
        rcases he with rfl | rfl <;> decide
  have hfraction : NoDigit (front ++ (front' ++ rest)) := by
    cases hpart with
    | none => exact fun c tail hc => (hexponent c tail hc).1
    | some _ => exact noDigit_cons rfl
  have hdigits := digits_append h.1 hfraction
  have hpart' := fraction_append hpart (fun c tail hc => (hexponent c tail hc).1)
    fun tail hc => (hexponent '.' tail hc).2 rfl
  have hpower' := exponent_append hpower hrest
  rw [unsigned, hdigits]
  split
  · next hds =>
      cases hds
      exact absurd rfl h.1.1
  · next hds =>
      cases hds
      cases h.2 rfl
  · next hds =>
      cases hds
      simp only [hpart', hpower']
      cases part <;> cases power <;> rfl

/-- A number is a sign, if it is negative, and digits with what follows them. -/
theorem unsigned_of_number {x : Json} (h : Number d x cs) :
    ∃ (negative : Bool) (k : Nat) (body : List Char), k < 10 ∧
      cs = minus negative ++ Nat.digitChar k :: body ∧
      ∀ rest, Ends rest →
        unsigned d negative (Nat.digitChar k :: (body ++ rest)) = some (x, rest) := by
  cases h with
  | @whole negative ds cs h hlength =>
      obtain ⟨k, hk, tail, rfl⟩ := head_of_digits h.1
      refine ⟨negative, k, tail, hk, rfl, fun rest hrest => ?_⟩
      have hrun := unsigned_append (d := d) negative h .none .none hrest
      simpa [hlength] using hrun
  | @real negative ds part power cs front front' h hlength hpart hpower hreal =>
      obtain ⟨k, hk, tail, rfl⟩ := head_of_digits h.1
      refine ⟨negative, k, tail ++ (front ++ front'), hk, rfl, fun rest hrest => ?_⟩
      have hrun := unsigned_append (d := d) negative h hpart hpower hrest
      rw [if_pos hreal, if_pos hlength] at hrun
      simpa using hrun

/-- No word begins with a digit. -/
theorem scalar_of_digit {k : Nat} (hk : k < 10) (body : List Char) :
    scalar d (Nat.digitChar k :: body) = unsigned d false (Nat.digitChar k :: body) := by
  have hne {c : Char} (hc : Text.asciiDigit? c = none) : c ≠ Nat.digitChar k :=
    (digitChar_ne hk hc).symm
  have hminus := hne (c := '-') rfl
  have hwords : words.findSome? (fun w => (dropWord? w.1 (Nat.digitChar k :: body)).map
      (w.2, ·)) = none := by
    have hn := hne (c := 'n') rfl
    have ht := hne (c := 't') rfl
    have hf := hne (c := 'f') rfl
    have hN := hne (c := 'N') rfl
    have hI := hne (c := 'I') rfl
    simp [words, dropWord?, hn, ht, hf, hN, hI, hminus]
  rw [scalar, hwords]
  dsimp only
  rw [number]
  exact fun cs hcs => hminus (List.cons.inj hcs).1.symm

/-- No word begins with a minus sign and a digit. -/
theorem scalar_of_minus {k : Nat} (hk : k < 10) (body : List Char) :
    scalar d ('-' :: Nat.digitChar k :: body) = unsigned d true (Nat.digitChar k :: body) := by
  have hI : 'I' ≠ Nat.digitChar k := (digitChar_ne hk rfl).symm
  have hwords : words.findSome? (fun w => (dropWord? w.1 ('-' :: Nat.digitChar k :: body)).map
      (w.2, ·)) = none := by
    simp [words, dropWord?, hI]
  rw [scalar, hwords]
  rfl

theorem scalar_of_number {x : Json} (h : Number d x cs) (hrest : Ends rest) :
    scalar d (cs ++ rest) = some (x, rest) := by
  obtain ⟨negative, k, body, hk, rfl, hrun⟩ := unsigned_of_number h
  cases negative with
  | false => exact (scalar_of_digit hk (body ++ rest)).trans (hrun rest hrest)
  | true => exact (scalar_of_minus hk (body ++ rest)).trans (hrun rest hrest)

theorem scalar_of_word {x : Json} (h : (cs, x) ∈ words) (rest : List Char) :
    scalar d (cs ++ rest) = some (x, rest) := by
  simp only [words, List.mem_cons, Prod.mk.injEq, List.not_mem_nil, or_false] at h
  rcases h with ⟨rfl, rfl⟩ | ⟨rfl, rfl⟩ | ⟨rfl, rfl⟩ | ⟨rfl, rfl⟩ | ⟨rfl, rfl⟩ | ⟨rfl, rfl⟩ <;> rfl

end Reader
end Noticeboard.Json
