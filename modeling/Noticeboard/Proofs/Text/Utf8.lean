import Noticeboard.Text.Utf8

/-!
What is encoded in UTF-8 decodes to the same text, and nothing else decodes. The decoder is followed
through the bytes of one character, from the first byte, which says how many there are, to the last.
-/

namespace Noticeboard.Text.Utf8

theorem toNat_byte {n : Nat} (h : n < 256) : (UInt8.ofNat n).toNat = n := by
  simpa using h

theorem toNat_continuation (n : Nat) : (continuation n).toNat = 0x80 + n % 64 :=
  toNat_byte (by omega)

theorem valid_toNat (c : Char) : c.toNat < 0xd800 ∨ 0xdfff < c.toNat ∧ c.toNat < 0x110000 :=
  c.valid

theorem scan_cons (state : State) (b : UInt8) (bs : Bytes) :
    scan state (b :: bs) = (step state b.toNat).1 ++ scan (step state b.toNat).2 bs := by
  cases state <;> rfl

/-! ## Inside a character -/

theorem scan_continuation {n low high : Nat} (hlow : low ≤ 0x80 + n % 64)
    (hhigh : 0x80 + n % 64 ≤ high) (owed bits : Nat) (bs : Bytes) :
    scan (.inside (owed + 1) bits low high) (continuation n :: bs) =
      scan (.inside owed (bits * 64 + n % 64) 0x80 0xbf) bs := by
  rw [scan_cons, toNat_continuation, step, if_pos ⟨hlow, hhigh⟩, Nat.add_sub_cancel_left]
  rfl

theorem scan_last {n low high : Nat} (hlow : low ≤ 0x80 + n % 64) (hhigh : 0x80 + n % 64 ≤ high)
    (bits : Nat) (bs : Bytes) :
    scan (.inside 0 bits low high) (continuation n :: bs) =
      some (Char.ofNat (bits * 64 + n % 64)) :: scan .start bs := by
  rw [scan_cons, toNat_continuation, step, if_pos ⟨hlow, hhigh⟩, Nat.add_sub_cancel_left]
  rfl

/-! ## Whole characters -/

theorem scan_one {n : Nat} (h : n < 0x80) (bs : Bytes) :
    scan .start (UInt8.ofNat n :: bs) = some (Char.ofNat n) :: scan .start bs := by
  rw [scan_cons, toNat_byte (by omega), step, first, if_pos h]
  rfl

theorem scan_two {n : Nat} (h : 2 ≤ n) (h' : n < 0x20) (bs : Bytes) :
    scan .start (UInt8.ofNat (0xc0 + n) :: bs) = scan (.inside 0 n 0x80 0xbf) bs := by
  rw [scan_cons, toNat_byte (by omega), step, first, if_neg (by omega), if_neg (by omega),
    if_pos (by omega), Nat.add_sub_cancel_left]
  rfl

theorem scan_three {n : Nat} (h : n < 0x10) (bs : Bytes) :
    scan .start (UInt8.ofNat (0xe0 + n) :: bs) =
      scan (.inside 1 n (if n = 0 then 0xa0 else 0x80) (if n = 0xd then 0x9f else 0xbf)) bs := by
  have hlow : (0xe0 + n = 0xe0) = (n = 0) := by simp
  have hhigh : (0xe0 + n = 0xed) = (n = 0xd) := by simp; omega
  rw [scan_cons, toNat_byte (by omega), step, first, if_neg (by omega), if_neg (by omega),
    if_neg (by omega), if_pos (by omega), Nat.add_sub_cancel_left]
  simp only [hlow, hhigh, List.nil_append]

theorem scan_four {n : Nat} (h : n < 5) (bs : Bytes) :
    scan .start (UInt8.ofNat (0xf0 + n) :: bs) =
      scan (.inside 2 n (if n = 0 then 0x90 else 0x80) (if n = 4 then 0x8f else 0xbf)) bs := by
  have hlow : (0xf0 + n = 0xf0) = (n = 0) := by simp
  have hhigh : (0xf0 + n = 0xf4) = (n = 4) := by simp; omega
  rw [scan_cons, toNat_byte (by omega), step, first, if_neg (by omega), if_neg (by omega),
    if_neg (by omega), if_neg (by omega), if_pos (by omega), Nat.add_sub_cancel_left]
  simp only [hlow, hhigh, List.nil_append]

theorem scan_encodeChar (c : Char) (bs : Bytes) :
    scan .start (encodeChar c ++ bs) = some c :: scan .start bs := by
  -- The second byte is within its bounds because the form is the shortest one and `c` is neither
  -- a surrogate nor beyond the last code point.
  have hvalid := valid_toNat c
  have hc : Char.ofNat c.toNat = c := Char.ofNat_toNat c
  generalize hn : c.toNat = n at hvalid hc
  rw [encodeChar, hn]
  split
  · next h => rw [List.singleton_append, scan_one h, hc]
  · split
    · next h =>
        have hbits : n / 64 * 64 + n % 64 = n := by omega
        simp only [List.cons_append, List.nil_append]
        rw [scan_two (by omega) (by omega), scan_last (by omega) (by omega), hbits, hc]
    · split
      · next h =>
          have hbits : (n / 4096 * 64 + n / 64 % 64) * 64 + n % 64 = n := by omega
          simp only [List.cons_append, List.nil_append]
          rw [scan_three (by omega), scan_continuation, scan_last (by omega) (by omega), hbits, hc]
          · split <;> omega
          · split <;> omega
      · next h =>
          have hbits : ((n / 262144 * 64 + n / 4096 % 64) * 64 + n / 64 % 64) * 64 + n % 64 = n := by
            omega
          simp only [List.cons_append, List.nil_append]
          rw [scan_four (by omega), scan_continuation, scan_continuation (by omega) (by omega),
            scan_last (by omega) (by omega), hbits, hc]
          · split <;> omega
          · split <;> omega

theorem whole_map_some (cs : List Char) : whole (cs.map some) = some cs := by
  induction cs with
  | nil => rfl
  | cons c cs ih => rw [List.map_cons, whole, ih, Option.map_some]

theorem scan_encodeChars (cs : List Char) : scan .start (encodeChars cs) = cs.map some := by
  induction cs with
  | nil => rfl
  | cons c cs ih =>
      rw [encodeChars, List.flatMap_cons, scan_encodeChar, ← encodeChars, ih, List.map_cons]

theorem decode?_encodeChars (cs : List Char) : decode? (encodeChars cs) = some cs := by
  rw [decode?, scan_encodeChars, whole_map_some]

/-! ## What decodes -/

theorem toNat_ofNat {n : Nat} (h : n < 0xd800 ∨ 0xdfff < n ∧ n < 0x110000) :
    (Char.ofNat n).toNat = n := by
  rw [Char.ofNat, dif_pos (show n.isValidChar from h)]
  rfl

theorem whole_cons {x : Option Char} {rest : List (Option Char)} {cs : List Char}
    (h : whole (x :: rest) = some cs) :
    ∃ c cs', x = some c ∧ cs = c :: cs' ∧ whole rest = some cs' := by
  cases x with
  | none => cases h
  | some c =>
      obtain ⟨cs', hrest, rfl⟩ := Option.map_eq_some_iff.mp h
      exact ⟨c, cs', rfl, rfl, hrest⟩

/-- Inside a character only a byte within the bounds goes on with it. -/
theorem whole_inside {owed bits low high : Nat} {bs : Bytes} {cs : List Char}
    (h : whole (scan (.inside owed bits low high) bs) = some cs) (hlow : 0x80 ≤ low)
    (hhigh : high ≤ 0xbf) :
    ∃ n rest, n < 64 ∧ low ≤ 0x80 + n ∧ 0x80 + n ≤ high ∧ bs = UInt8.ofNat (0x80 + n) :: rest ∧
      whole ((step (.inside owed bits low high) (0x80 + n)).1 ++
        scan (step (.inside owed bits low high) (0x80 + n)).2 rest) = some cs := by
  cases bs with
  | nil => cases h
  | cons b rest =>
      rw [scan_cons] at h
      by_cases hb : low ≤ b.toNat ∧ b.toNat ≤ high
      · have hn : 0x80 + (b.toNat - 0x80) = b.toNat := by omega
        refine ⟨b.toNat - 0x80, rest, by omega, by omega, by omega, ?_, by rw [hn]; exact h⟩
        rw [hn, UInt8.ofNat_toNat]
      · rw [step, if_neg hb] at h
        cases h

theorem whole_middle {owed bits low high : Nat} {bs : Bytes} {cs : List Char}
    (h : whole (scan (.inside (owed + 1) bits low high) bs) = some cs) (hlow : 0x80 ≤ low)
    (hhigh : high ≤ 0xbf) :
    ∃ n rest, n < 64 ∧ low ≤ 0x80 + n ∧ 0x80 + n ≤ high ∧ bs = UInt8.ofNat (0x80 + n) :: rest ∧
      whole (scan (.inside owed (bits * 64 + n) 0x80 0xbf) rest) = some cs := by
  obtain ⟨n, rest, hn, hl, hh, hbs, hrest⟩ := whole_inside h hlow hhigh
  rw [step, if_pos ⟨hl, hh⟩, Nat.add_sub_cancel_left] at hrest
  exact ⟨n, rest, hn, hl, hh, hbs, hrest⟩

theorem whole_last {bits low high : Nat} {bs : Bytes} {cs : List Char}
    (h : whole (scan (.inside 0 bits low high) bs) = some cs) (hlow : 0x80 ≤ low)
    (hhigh : high ≤ 0xbf) :
    ∃ n rest cs', n < 64 ∧ low ≤ 0x80 + n ∧ 0x80 + n ≤ high ∧ bs = UInt8.ofNat (0x80 + n) :: rest ∧
      cs = Char.ofNat (bits * 64 + n) :: cs' ∧ whole (scan .start rest) = some cs' := by
  obtain ⟨n, rest, hn, hl, hh, hbs, hrest⟩ := whole_inside h hlow hhigh
  rw [step, if_pos ⟨hl, hh⟩, Nat.add_sub_cancel_left] at hrest
  obtain ⟨_, cs', hc, rfl, hwhole⟩ := whole_cons hrest
  cases hc
  exact ⟨n, rest, cs', hn, hl, hh, hbs, rfl, hwhole⟩

/-!
Bytes that are let through are those that the encoder writes for the character whose bits they
carry. The bounds on the second byte shut out all longer forms, and surrogates.
-/

theorem encodeChar_one {m : Nat} (h : m < 0x80) :
    encodeChar (Char.ofNat m) = [UInt8.ofNat m] := by
  rw [encodeChar, toNat_ofNat (by omega), if_pos h]

theorem encodeChar_two {m n : Nat} (hm : 0xc2 ≤ m) (hm' : m < 0xe0) (hn : n < 64) :
    encodeChar (Char.ofNat ((m - 0xc0) * 64 + n)) = [UInt8.ofNat m, UInt8.ofNat (0x80 + n)] := by
  generalize hk : (m - 0xc0) * 64 + n = k
  have h₁ : 0xc0 + k / 64 = m := by omega
  have h₂ : k % 64 = n := by omega
  rw [encodeChar, toNat_ofNat (by omega), if_neg (by omega), if_pos (by omega), h₁, continuation,
    h₂]

theorem encodeChar_three {m n₁ n₂ : Nat} (hm : 0xe0 ≤ m) (hm' : m < 0xf0)
    (hlow : (if m = 0xe0 then 0xa0 else 0x80) ≤ 0x80 + n₁)
    (hhigh : 0x80 + n₁ ≤ if m = 0xed then 0x9f else 0xbf) (hn₁ : n₁ < 64) (hn₂ : n₂ < 64) :
    encodeChar (Char.ofNat (((m - 0xe0) * 64 + n₁) * 64 + n₂)) =
      [UInt8.ofNat m, UInt8.ofNat (0x80 + n₁), UInt8.ofNat (0x80 + n₂)] := by
  generalize hk : ((m - 0xe0) * 64 + n₁) * 64 + n₂ = k
  have hleast : 0x800 ≤ k := by split at hlow <;> omega
  have hvalue := toNat_ofNat (n := k) (by split at hhigh <;> omega)
  have h₁ : 0xe0 + k / 4096 = m := by omega
  have h₂ : k / 64 % 64 = n₁ := by omega
  have h₃ : k % 64 = n₂ := by omega
  rw [encodeChar, hvalue, if_neg (by omega), if_neg (by omega), if_pos (by omega), h₁,
    continuation, continuation, h₂, h₃]

theorem encodeChar_four {m n₁ n₂ n₃ : Nat} (hm : 0xf0 ≤ m) (hm' : m < 0xf5)
    (hlow : (if m = 0xf0 then 0x90 else 0x80) ≤ 0x80 + n₁)
    (hhigh : 0x80 + n₁ ≤ if m = 0xf4 then 0x8f else 0xbf) (hn₁ : n₁ < 64) (hn₂ : n₂ < 64)
    (hn₃ : n₃ < 64) :
    encodeChar (Char.ofNat ((((m - 0xf0) * 64 + n₁) * 64 + n₂) * 64 + n₃)) =
      [UInt8.ofNat m, UInt8.ofNat (0x80 + n₁), UInt8.ofNat (0x80 + n₂),
        UInt8.ofNat (0x80 + n₃)] := by
  generalize hk : (((m - 0xf0) * 64 + n₁) * 64 + n₂) * 64 + n₃ = k
  have hleast : 0x10000 ≤ k := by split at hlow <;> omega
  have hvalue := toNat_ofNat (n := k) (by split at hhigh <;> omega)
  have h₁ : 0xf0 + k / 262144 = m := by omega
  have h₂ : k / 4096 % 64 = n₁ := by omega
  have h₃ : k / 64 % 64 = n₂ := by omega
  have h₄ : k % 64 = n₃ := by omega
  rw [encodeChar, hvalue, if_neg (by omega), if_neg (by omega), if_neg (by omega), h₁,
    continuation, continuation, continuation, h₂, h₃, h₄]

theorem whole_start {b : UInt8} {bs : Bytes} {cs : List Char}
    (h : whole (scan .start (b :: bs)) = some cs) :
    ∃ c cs' rest, cs = c :: cs' ∧ b :: bs = encodeChar c ++ rest ∧
      whole (scan .start rest) = some cs' := by
  rw [scan_cons, step] at h
  have hb : UInt8.ofNat b.toNat = b := UInt8.ofNat_toNat
  generalize b.toNat = m at h hb
  subst hb
  -- The first byte says how many there are.
  rw [first] at h
  split at h
  · next hm =>
      obtain ⟨_, cs', hc, rfl, hrest⟩ := whole_cons h
      cases hc
      exact ⟨_, cs', bs, rfl, by rw [encodeChar_one hm]; rfl, hrest⟩
  split at h
  · cases h
  split at h
  · obtain ⟨n, rest, cs', hn, -, -, rfl, rfl, hrest⟩ := whole_last h (by decide) (by decide)
    exact ⟨_, cs', rest, rfl, by rw [encodeChar_two (by omega) (by omega) hn]; rfl, hrest⟩
  split at h
  · obtain ⟨n₁, rest₁, hn₁, hl, hh, rfl, h₁⟩ := whole_middle h (by split <;> decide)
      (by split <;> decide)
    obtain ⟨n₂, rest, cs', hn₂, -, -, rfl, rfl, hrest⟩ := whole_last h₁ (by decide) (by decide)
    refine ⟨_, cs', rest, rfl, ?_, hrest⟩
    rw [encodeChar_three (by omega) (by omega) hl hh hn₁ hn₂]
    rfl
  split at h
  · obtain ⟨n₁, rest₁, hn₁, hl, hh, rfl, h₁⟩ := whole_middle h (by split <;> decide)
      (by split <;> decide)
    obtain ⟨n₂, rest₂, hn₂, -, -, rfl, h₂⟩ := whole_middle h₁ (by decide) (by decide)
    obtain ⟨n₃, rest, cs', hn₃, -, -, rfl, rfl, hrest⟩ := whole_last h₂ (by decide) (by decide)
    refine ⟨_, cs', rest, rfl, ?_, hrest⟩
    rw [encodeChar_four (by omega) (by omega) hl hh hn₁ hn₂ hn₃]
    rfl
  · cases h

theorem encodeChar_ne_nil (c : Char) : encodeChar c ≠ [] := by
  rw [encodeChar]
  repeat' split
  all_goals exact List.cons_ne_nil _ _

/-- Only what the encoder writes decodes. -/
theorem decode?_eq_some_iff {bs : Bytes} {cs : List Char} :
    decode? bs = some cs ↔ bs = encodeChars cs := by
  refine ⟨fun h => ?_, fun h => h ▸ decode?_encodeChars cs⟩
  generalize hlength : bs.length = length
  induction length using Nat.strongRecOn generalizing bs cs with
  | ind length ih =>
      cases bs with
      | nil => cases h; rfl
      | cons b bs =>
          obtain ⟨c, cs', rest, rfl, hbs, hrest⟩ := whole_start h
          have hshorter : rest.length < length := by
            have := List.length_pos_iff.mpr (encodeChar_ne_nil c)
            rw [← hlength, hbs, List.length_append]
            omega
          rw [hbs, ih _ hshorter hrest rfl, encodeChars, encodeChars, List.flatMap_cons]

end Noticeboard.Text.Utf8
