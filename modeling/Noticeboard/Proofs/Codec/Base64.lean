import Noticeboard.Codec.Base64

/-!
Bytes come back from their Base64 text: whole groups one by one, and the short group at the end with
the padding that reading adds. Each digit is a single ASCII byte, and none is a point or padding.
-/

namespace Noticeboard.Base64

open Text (Bytes)

/-! ## Digits -/

/-- The byte of a digit. -/
def code (n : Nat) : UInt8 := UInt8.ofNat (digit n).toNat

theorem code_spec {n : Nat} (h : n < 64) :
    Text.Utf8.encodeChar (digit n) = [code n] ∧ value? (code n) = some n ∧ code n ≠ pad ∧
      (code n).toNat < 0x80 ∧ code n ≠ 46 := by
  have hall : ∀ k < 64, Text.Utf8.encodeChar (digit k) = [code k] ∧ value? (code k) = some k ∧
      code k ≠ pad ∧ (code k).toNat < 0x80 ∧ code k ≠ 46 := by
    decide
  exact hall n h

theorem mem_encode {bs : Bytes} {c : Char} (h : c ∈ encode bs) : ∃ n < 64, c = digit n := by
  induction bs using encode.induct with
  | case1 => cases h
  | case2 a =>
      have ha := a.toNat_lt
      simp only [encode, List.mem_cons, List.not_mem_nil, or_false] at h
      rcases h with rfl | rfl <;> exact ⟨_, by omega, rfl⟩
  | case3 a b =>
      have ha := a.toNat_lt
      have hb := b.toNat_lt
      simp only [encode, List.mem_cons, List.not_mem_nil, or_false] at h
      rcases h with rfl | rfl | rfl <;> exact ⟨_, by omega, rfl⟩
  | case4 a b c' rest ih =>
      have ha := a.toNat_lt
      have hb := b.toNat_lt
      have hc := c'.toNat_lt
      simp only [encode, List.mem_cons] at h
      rcases h with rfl | rfl | rfl | rfl | h
      · exact ⟨_, by omega, rfl⟩
      · exact ⟨_, by omega, rfl⟩
      · exact ⟨_, by omega, rfl⟩
      · exact ⟨_, by omega, rfl⟩
      · exact ih h

/-- The bytes of a text in Base64. -/
def text (bs : Bytes) : Bytes := Text.Utf8.encodeChars (encode bs)

theorem mem_text {bs : Bytes} {b : UInt8} (h : b ∈ text bs) : b.toNat < 0x80 ∧ b ≠ 46 := by
  obtain ⟨c, hc, hb⟩ := List.mem_flatMap.mp h
  obtain ⟨n, hn, rfl⟩ := mem_encode hc
  obtain ⟨hcode, -, -, hascii, hpoint⟩ := code_spec hn
  rw [hcode, List.mem_singleton] at hb
  exact hb ▸ ⟨hascii, hpoint⟩

/-! ## Groups -/

section

variable {n : Nat} (h : n < 64) (bits : Nat) (bs : Bytes)

include h

theorem decodeFrom_nothing : decodeFrom .nothing (code n :: bs) = decodeFrom (.six n) bs := by
  obtain ⟨-, hvalue, hpad, -⟩ := code_spec h
  simp [decodeFrom, hpad, hvalue]

theorem decodeFrom_six : decodeFrom (.six bits) (code n :: bs) =
    (decodeFrom (.four (n % 16) false) bs).map (UInt8.ofNat (bits * 4 + n / 16) :: ·) := by
  obtain ⟨-, hvalue, hpad, -⟩ := code_spec h
  simp [decodeFrom, hpad, hvalue]

theorem decodeFrom_four : decodeFrom (.four bits false) (code n :: bs) =
    (decodeFrom (.two (n % 4)) bs).map (UInt8.ofNat (bits * 16 + n / 4) :: ·) := by
  obtain ⟨-, hvalue, hpad, -⟩ := code_spec h
  simp [decodeFrom, hpad, hvalue]

theorem decodeFrom_two : decodeFrom (.two bits) (code n :: bs) =
    (decodeFrom .nothing bs).map (UInt8.ofNat (bits * 64 + n) :: ·) := by
  obtain ⟨-, hvalue, hpad, -⟩ := code_spec h
  simp [decodeFrom, hpad, hvalue]

end

theorem byte_of_parts {n : Nat} {b : UInt8} (h : n = b.toNat) : UInt8.ofNat n = b := by
  rw [h, UInt8.ofNat_toNat]

theorem decodeFrom_first (a : UInt8) {n : Nat} (h : n < 16) (bs : Bytes) :
    decodeFrom .nothing (code (a.toNat / 4) :: code (a.toNat % 4 * 16 + n) :: bs) =
      (decodeFrom (.four n false) bs).map (a :: ·) := by
  have ha := a.toNat_lt
  have hbyte : UInt8.ofNat (a.toNat / 4 * 4 + (a.toNat % 4 * 16 + n) / 16) = a :=
    byte_of_parts (by omega)
  have hrest : (a.toNat % 4 * 16 + n) % 16 = n := by omega
  rw [decodeFrom_nothing (by omega), decodeFrom_six (by omega), hbyte, hrest]

theorem decodeFrom_second (b : UInt8) {n : Nat} (h : n < 4) (bs : Bytes) :
    decodeFrom (.four (b.toNat / 16) false) (code (b.toNat % 16 * 4 + n) :: bs) =
      (decodeFrom (.two n) bs).map (b :: ·) := by
  have hb := b.toNat_lt
  have hbyte : UInt8.ofNat (b.toNat / 16 * 16 + (b.toNat % 16 * 4 + n) / 4) = b :=
    byte_of_parts (by omega)
  have hrest : (b.toNat % 16 * 4 + n) % 4 = n := by omega
  rw [decodeFrom_four (by omega), hbyte, hrest]

theorem decodeFrom_third (c : UInt8) (bs : Bytes) :
    decodeFrom (.two (c.toNat / 64)) (code (c.toNat % 64) :: bs) =
      (decodeFrom .nothing bs).map (c :: ·) := by
  have hbyte : UInt8.ofNat (c.toNat / 64 * 64 + c.toNat % 64) = c := byte_of_parts (by omega)
  rw [decodeFrom_two (by omega), hbyte]

theorem text_one (a : UInt8) : text [a] = [code (a.toNat / 4), code (a.toNat % 4 * 16)] := by
  have ha := a.toNat_lt
  simp only [text, encode, Text.Utf8.encodeChars, List.flatMap_cons, List.flatMap_nil]
  rw [(code_spec (by omega)).1, (code_spec (by omega)).1]
  rfl

theorem text_two (a b : UInt8) : text [a, b] =
    [code (a.toNat / 4), code (a.toNat % 4 * 16 + b.toNat / 16), code (b.toNat % 16 * 4)] := by
  have ha := a.toNat_lt
  have hb := b.toNat_lt
  simp only [text, encode, Text.Utf8.encodeChars, List.flatMap_cons, List.flatMap_nil]
  rw [(code_spec (by omega)).1, (code_spec (by omega)).1, (code_spec (by omega)).1]
  rfl

theorem text_group (a b c : UInt8) (rest : Bytes) : text (a :: b :: c :: rest) =
    code (a.toNat / 4) :: code (a.toNat % 4 * 16 + b.toNat / 16) ::
      code (b.toNat % 16 * 4 + c.toNat / 64) :: code (c.toNat % 64) :: text rest := by
  have ha := a.toNat_lt
  have hb := b.toNat_lt
  have hc := c.toNat_lt
  simp only [text, encode, Text.Utf8.encodeChars, List.flatMap_cons]
  rw [(code_spec (by omega)).1, (code_spec (by omega)).1, (code_spec (by omega)).1,
    (code_spec (by omega)).1]
  rfl

theorem decode?_text (bs : Bytes) : decode? (text bs) = some bs := by
  induction bs using encode.induct with
  | case1 => rfl
  | case2 a =>
      have hfirst := decodeFrom_first a (n := 0) (by decide)
      rw [Nat.add_zero] at hfirst
      rw [text_one, decode?, List.cons_append, List.cons_append, hfirst]
      rfl
  | case3 a b =>
      have hb := b.toNat_lt
      have hsecond := decodeFrom_second b (n := 0) (by decide)
      rw [Nat.add_zero] at hsecond
      rw [text_two, decode?, List.cons_append, List.cons_append, List.cons_append,
        decodeFrom_first a (by omega), hsecond]
      rfl
  | case4 a b c rest ih =>
      have hb := b.toNat_lt
      have hc := c.toNat_lt
      -- A whole group leaves the padding as it is.
      have hlength : ((text rest).length + 1 + 1 + 1 + 1) % 4 = (text rest).length % 4 := by omega
      rw [decode?] at ih
      rw [text_group, decode?]
      simp only [List.length_cons, hlength, List.cons_append]
      rw [decodeFrom_first a (by omega), decodeFrom_second b (by omega), decodeFrom_third, ih]
      rfl

end Noticeboard.Base64
