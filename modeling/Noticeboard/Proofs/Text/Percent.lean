import Noticeboard.Proofs.Text.Utf8
import Noticeboard.Text.Percent

/-!
Forms come back from their queries. Where all but the letters and digits of ASCII is percent-coded,
a text decodes to itself and holds none of the marks of a form, so that any names and values can be
sent in a query.
-/

namespace Noticeboard.Text.Percent

/-- A text as it stands in the query of a form. -/
def coded (s : String) : List Char := encodeExcept Char.isAlphanum s.toList

def pair (p : String × String) : List Char := coded p.1 ++ '=' :: coded p.2

/-- The query of a form with the given names and values. -/
def query (pairs : List (String × String)) : List Char :=
  List.intercalate ['&'] (pairs.map pair)

/-! ## Percent codes -/

theorem bytes_encodeByte (b : UInt8) (rest : List Char) :
    bytes (encodeByte b ++ rest) = b :: bytes rest := by
  have digit : ∀ k < 16, hexDigit? (hexDigit k).toUpper = some k := by decide
  have hsmall : b.toNat < 256 := b.toNat_lt
  have hvalue : b.toNat / 16 % 16 * 16 + b.toNat % 16 = b.toNat := by omega
  simp only [encodeByte, hexDigits, List.nil_append, List.cons_append, List.map_cons, List.map_nil,
    bytes, digit _ (Nat.mod_lt _ (by decide : 0 < 16)), hvalue, UInt8.ofNat_toNat]

theorem bytes_encodeBytes (bs : Bytes) (rest : List Char) :
    bytes (bs.flatMap encodeByte ++ rest) = bs ++ bytes rest := by
  induction bs with
  | nil => rfl
  | cons b bs ih =>
      rw [List.flatMap_cons, List.append_assoc, bytes_encodeByte, ih, List.cons_append]

theorem bytes_kept {c : Char} (h : c.isAlphanum) (rest : List Char) :
    bytes (c :: rest) = Utf8.encodeChar c ++ bytes rest := by
  rw [bytes]
  rintro high low tail ⟨⟩
  cases h

theorem bytes_coded (s : String) : bytes (coded s) = Utf8.encode s := by
  rw [coded, Utf8.encode]
  induction s.toList with
  | nil => rfl
  | cons c cs ih =>
      rw [encodeExcept, List.flatMap_cons, ← encodeExcept, Utf8.encodeChars, List.flatMap_cons,
        ← Utf8.encodeChars]
      split
      · next hc => rw [List.singleton_append, bytes_kept hc, ih]
      · rw [bytes_encodeBytes, ih]

/-! ## Marks -/

/-- What is percent-coded has characters that are kept, percent signs, letters and digits. -/
theorem mem_encodeExcept {kept : Char → Bool} {cs : List Char} {c : Char}
    (h : c ∈ encodeExcept kept cs) : kept c ∨ c = '%' ∨ c.isAlphanum := by
  have digit : ∀ k < 16, (hexDigit k).toUpper.isAlphanum := by decide
  obtain ⟨a, -, hc⟩ := List.mem_flatMap.mp h
  split at hc
  · next ha =>
      cases List.mem_singleton.mp hc
      exact .inl ha
  · obtain ⟨b, -, hc⟩ := List.mem_flatMap.mp hc
    simp only [encodeByte, hexDigits, List.nil_append, List.cons_append, List.map_cons,
      List.map_nil, List.mem_cons, List.not_mem_nil, or_false] at hc
    rcases hc with rfl | rfl | rfl
    · exact .inr (.inl rfl)
    · exact .inr (.inr (digit _ (Nat.mod_lt _ (by decide))))
    · exact .inr (.inr (digit _ (Nat.mod_lt _ (by decide))))

theorem mem_coded {s : String} {c : Char} (h : c ∈ coded s) : c = '%' ∨ c.isAlphanum := by
  rcases mem_encodeExcept h with hc | hc
  · exact .inr hc
  · exact hc

theorem not_mem_coded (s : String) {mark : Char} (hmark : mark ≠ '%')
    (h : mark.isAlphanum = false) : mark ∉ coded s := by
  intro hmem
  rcases mem_coded hmem with rfl | hc
  · exact hmark rfl
  · cases h.symm.trans hc

theorem decodeForm_coded (s : String) : decodeForm (coded s) = s.toList := by
  have hspaces : (coded s).map (fun c => if c = '+' then ' ' else c) = coded s := by
    refine (List.map_congr_left fun c hc => if_neg ?_).trans (List.map_id _)
    rintro rfl
    exact not_mem_coded s (by decide) rfl hc
  rw [decodeForm, hspaces, decode, bytes_coded, Utf8.decodeLenient, Utf8.encode,
    Utf8.scan_encodeChars, List.map_map]
  exact List.map_id _

/-! ## Forms -/

theorem cutAt_append {mark : Char} {front : List Char} (h : mark ∉ front) (rest : List Char) :
    cutAt mark (front ++ mark :: rest) = (front, some rest) := by
  induction front with
  | nil => exact if_pos rfl
  | cons c front ih =>
      rw [List.mem_cons, not_or] at h
      rw [List.cons_append, cutAt, if_neg (Ne.symm h.1), ih h.2]

theorem pieces_ne_nil (mark : Char) (cs : List Char) : pieces mark cs ≠ [] := by
  cases cs with
  | nil => exact List.cons_ne_nil _ _
  | cons c cs =>
      rw [pieces]
      split
      · exact List.cons_ne_nil _ _
      · split <;> exact List.cons_ne_nil _ _

theorem mem_pieces {mark : Char} {cs : List Char} {c : Char} (h : c ∈ cs) :
    c = mark ∨ ∃ piece ∈ pieces mark cs, c ∈ piece := by
  induction cs with
  | nil => cases h
  | cons a cs ih =>
      rw [pieces]
      by_cases ha : a = mark
      · rw [if_pos ha]
        rcases List.mem_cons.mp h with rfl | h
        · exact .inl ha
        · refine (ih h).imp_right ?_
          rintro ⟨piece, hpiece, hc⟩
          exact ⟨piece, List.mem_cons_of_mem _ hpiece, hc⟩
      · rw [if_neg ha]
        split
        · next hnone => exact absurd hnone (pieces_ne_nil mark cs)
        · next first rest hpieces =>
            rcases List.mem_cons.mp h with rfl | h
            · exact .inr ⟨_, List.mem_cons_self, List.mem_cons_self⟩
            · refine (ih h).imp_right ?_
              rintro ⟨piece, hpiece, hc⟩
              rw [hpieces] at hpiece
              rcases List.mem_cons.mp hpiece with rfl | hpiece
              · exact ⟨_, List.mem_cons_self, List.mem_cons_of_mem _ hc⟩
              · exact ⟨piece, List.mem_cons_of_mem _ hpiece, hc⟩

theorem mem_of_mem_pieces {mark : Char} {cs piece : List Char} (h : piece ∈ pieces mark cs)
    {c : Char} (hc : c ∈ piece) : c ∈ cs := by
  induction cs generalizing piece with
  | nil =>
      obtain rfl := List.mem_singleton.mp h
      cases hc
  | cons a cs ih =>
      rw [pieces] at h
      split at h
      · rcases List.mem_cons.mp h with rfl | h
        · cases hc
        · exact List.mem_cons_of_mem _ (ih h hc)
      · split at h
        · next hnone => exact absurd hnone (pieces_ne_nil mark cs)
        · next first rest hpieces =>
            rw [hpieces] at ih
            rcases List.mem_cons.mp h with rfl | h
            · rcases List.mem_cons.mp hc with rfl | hc
              · exact List.mem_cons_self
              · exact List.mem_cons_of_mem _ (ih List.mem_cons_self hc)
            · exact List.mem_cons_of_mem _ (ih (List.mem_cons_of_mem _ h) hc)

theorem pieces_of_not_mem {mark : Char} {cs : List Char} (h : mark ∉ cs) :
    pieces mark cs = [cs] := by
  induction cs with
  | nil => rfl
  | cons c cs ih =>
      rw [List.mem_cons, not_or] at h
      rw [pieces, if_neg (Ne.symm h.1), ih h.2]

theorem pieces_append {mark : Char} {front : List Char} (h : mark ∉ front) (rest : List Char) :
    pieces mark (front ++ mark :: rest) = front :: pieces mark rest := by
  induction front with
  | nil => exact if_pos rfl
  | cons c front ih =>
      rw [List.mem_cons, not_or] at h
      rw [List.cons_append, pieces, if_neg (Ne.symm h.1), ih h.2]

theorem pieces_intercalate {mark : Char} {fronts : List (List Char)} (hne : fronts ≠ [])
    (h : ∀ front ∈ fronts, mark ∉ front) :
    pieces mark (List.intercalate [mark] fronts) = fronts := by
  induction fronts with
  | nil => exact absurd rfl hne
  | cons front fronts ih =>
      have hfront := h front List.mem_cons_self
      cases fronts with
      | nil => rw [List.intercalate_singleton, pieces_of_not_mem hfront]
      | cons next fronts =>
          have hrest := ih (List.cons_ne_nil _ _) fun f hf => h f (List.mem_cons_of_mem _ hf)
          rw [List.intercalate_cons_cons, List.append_assoc, List.singleton_append,
            pieces_append hfront, hrest]

theorem mem_of_mem_intercalate {mark : List Char} {fronts : List (List Char)} {c : Char}
    (h : c ∈ mark.intercalate fronts) : c ∈ mark ∨ ∃ front ∈ fronts, c ∈ front := by
  induction fronts with
  | nil => cases h
  | cons front fronts ih =>
      cases fronts with
      | nil =>
          rw [List.intercalate_singleton] at h
          exact .inr ⟨front, List.mem_cons_self, h⟩
      | cons next fronts =>
          rw [List.intercalate_cons_cons, List.mem_append, List.mem_append] at h
          rcases h with (h | h) | h
          · exact .inr ⟨front, List.mem_cons_self, h⟩
          · exact .inl h
          · refine (ih h).imp_right ?_
            rintro ⟨front, hfront, hc⟩
            exact ⟨front, List.mem_cons_of_mem _ hfront, hc⟩

/-- The names and values of a form are read off its query. -/
theorem form_query (pairs : List (String × String)) : form (query pairs) = pairs := by
  have unmarked : ∀ piece ∈ pairs.map pair, '&' ∉ piece := by
    refine List.forall_mem_map.mpr fun p _ => ?_
    simp [pair, not_mem_coded]
  have filled : (pairs.map pair).filter (!·.isEmpty) = pairs.map pair := by
    refine List.filter_eq_self.mpr (List.forall_mem_map.mpr fun p _ => ?_)
    simp [pair]
  have cut (p : String × String) : cutAt '=' (pair p) = (coded p.1, some (coded p.2)) :=
    cutAt_append (not_mem_coded p.1 (by decide) rfl) (coded p.2)
  cases pairs with
  | nil => rfl
  | cons p pairs =>
      rw [form, query, pieces_intercalate (by simp) unmarked, filled, List.map_map]
      refine (List.map_congr_left fun p _ => ?_).trans (List.map_id _)
      simp only [Function.comp_apply, cut, Option.getD_some, decodeForm_coded, String.ofList_toList,
        id_eq]

end Noticeboard.Text.Percent
