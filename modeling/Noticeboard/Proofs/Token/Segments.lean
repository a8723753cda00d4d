import Noticeboard.Proofs.Codec.Base64
import Noticeboard.Proofs.Json.Written
import Noticeboard.Proofs.Text.Utf8
import Noticeboard.Token.Basic

/-!
Tokens taken apart. A token is cut at its first and at its last point, and opens to the claims of
its payload exactly if its header names the algorithm and its signature is that of all before it.
What is issued for claims opens to them.
-/

namespace Noticeboard.Token

open Text (Bytes)

/-! ## Cutting -/

theorem cutFirst_append {front : Bytes} (h : point ∉ front) (rest : Bytes) :
    cutFirst (front ++ point :: rest) = some (front, rest) := by
  induction front with
  | nil => simp [cutFirst]
  | cons b front ih =>
      rw [List.mem_cons, not_or] at h
      rw [List.cons_append, cutFirst, if_neg (Ne.symm h.1), ih h.2]
      rfl

theorem split_of_cutFirst {bs front rest : Bytes} (h : cutFirst bs = some (front, rest)) :
    bs = front ++ point :: rest ∧ point ∉ front := by
  induction bs generalizing front with
  | nil => cases h
  | cons b bs ih =>
      rw [cutFirst] at h
      split at h
      · next hb =>
          cases h
          exact ⟨by rw [hb, List.nil_append], List.not_mem_nil⟩
      · next hb =>
          obtain ⟨⟨tail, rest'⟩, hcut, heq⟩ := Option.map_eq_some_iff.mp h
          cases heq
          obtain ⟨rfl, htail⟩ := ih hcut
          exact ⟨rfl, List.not_mem_cons_of_ne_of_not_mem (Ne.symm hb) htail⟩

theorem cutLast_eq_none_iff {bs : Bytes} : cutLast bs = none ↔ point ∉ bs := by
  induction bs with
  | nil => simp [cutLast]
  | cons b bs ih =>
      rw [cutLast, List.mem_cons, not_or, ← ih]
      cases cutLast bs <;> simp [eq_comm]

theorem cutLast_append {rest : Bytes} (h : point ∉ rest) (front : Bytes) :
    cutLast (front ++ point :: rest) = some (front, rest) := by
  induction front with
  | nil => rw [List.nil_append, cutLast, cutLast_eq_none_iff.mpr h, if_pos rfl]
  | cons b front ih => rw [List.cons_append, cutLast, ih]

theorem split_of_cutLast {bs front rest : Bytes} (h : cutLast bs = some (front, rest)) :
    bs = front ++ point :: rest ∧ point ∉ rest := by
  induction bs generalizing front with
  | nil => cases h
  | cons b bs ih =>
      rw [cutLast] at h
      split at h
      · next hcut =>
          cases h
          obtain ⟨rfl, hrest⟩ := ih hcut
          exact ⟨rfl, hrest⟩
      · next hcut =>
          split at h
          · next hb =>
              cases h
              exact ⟨by rw [hb, List.nil_append], cutLast_eq_none_iff.mp hcut⟩
          · cases h

/-- The segments of a token: a header up to the first point, a signature after the last one, and the
payload between them. -/
structure Segmented (token head payload tag : Bytes) : Prop where
  whole : token = (head ++ point :: payload) ++ point :: tag
  head_first : point ∉ head
  tag_last : point ∉ tag

theorem segments?_eq_some_iff {token head payload signed tag : Bytes} :
    segments? token = some (head, payload, signed, tag) ↔
      Segmented token head payload tag ∧ signed = head ++ point :: payload := by
  constructor
  · intro h
    rw [segments?] at h
    split at h
    · cases h
    · next hlast =>
        obtain ⟨⟨front, rest⟩, hfirst, heq⟩ := Option.map_eq_some_iff.mp h
        cases heq
        obtain ⟨htoken, htag⟩ := split_of_cutLast hlast
        obtain ⟨rfl, hhead⟩ := split_of_cutFirst hfirst
        exact ⟨⟨htoken, hhead, htag⟩, rfl⟩
  · rintro ⟨⟨rfl, hhead, htag⟩, rfl⟩
    rw [segments?, cutLast_append htag]
    dsimp only
    rw [cutFirst_append hhead]
    rfl

/-! ## Opening -/

theorem eq_ok_of_bind {α β : Type} {x : Except CheckFailure α} {f : α → Except CheckFailure β}
    {b : β} (h : x >>= f = .ok b) : ∃ a, x = .ok a ∧ f a = .ok b := by
  cases x with
  | error failure => cases h
  | ok a => exact ⟨a, rfl, h⟩

/-- What header and signature are when the claims of a token are read. The header may say more than
the algorithm, and other segments may decode to the same bytes. -/
structure Signed (authority : Authority) (head payload tag : Bytes) : Prop where
  header : ∃ header, object authority.depth.header head = .ok header ∧
    Json.Members.last? "alg" header = some (.str algorithm)
  signed : Base64.decode? tag = some (signature authority.secret (head ++ point :: payload))

/-- What the segments of a token are when it opens to claims. -/
structure Sealed (authority : Authority) (head payload tag : Bytes) (claims : Json.Members) : Prop
    extends Signed authority head payload tag where
  opens : object authority.depth.claims payload = .ok claims

theorem namesAlgorithm_iff {header : Json.Members} :
    namesAlgorithm header = true ↔ Json.Members.last? "alg" header = some (.str algorithm) := by
  rw [namesAlgorithm]
  split
  · next h => simp [h]
  · next h => simpa using h algorithm

/-- An object is read, or the token is refused, or the object is nested too deep. -/
theorem failure_of_object {depth : Nat} {segment : Bytes} {failure : CheckFailure}
    (h : object depth segment = .error failure) : failure = .refused ∨ failure = .tooDeep := by
  rw [object] at h
  split at h
  · cases h
    exact .inl rfl
  · split at h <;> cases h
    · exact .inr rfl
    · exact .inl rfl
    · exact .inl rfl

section

variable {authority : Authority} {token head payload tag : Bytes}

/-- The claims of a token that is signed are read, whatever comes of it. -/
theorem opened_of_signed (hsegments : Segmented token head payload tag)
    (h : Signed authority head payload tag) :
    opened authority token = object authority.depth.claims payload := by
  obtain ⟨⟨header, hheader, halg⟩, hsigned⟩ := h
  rw [opened, segments?_eq_some_iff.mpr ⟨hsegments, rfl⟩]
  dsimp only
  rw [hheader]
  exact if_pos ⟨namesAlgorithm_iff.mpr halg, hsigned⟩

/-- A token that is not signed fails at once if its header cannot be read, and is refused
otherwise. -/
theorem opened_of_not_signed (hsegments : Segmented token head payload tag)
    (h : ¬ Signed authority head payload tag) :
    opened authority token = (object authority.depth.header head >>= fun _ => .error .refused) := by
  rw [opened, segments?_eq_some_iff.mpr ⟨hsegments, rfl⟩]
  dsimp only
  cases hheader : object authority.depth.header head with
  | error failure => rfl
  | ok header =>
      refine if_neg fun ⟨halg, hsigned⟩ => h ⟨⟨header, hheader, ?_⟩, hsigned⟩
      exact namesAlgorithm_iff.mp halg

theorem opened_of_not_segmented (h : ∀ head payload tag, ¬ Segmented token head payload tag) :
    opened authority token = .error .refused := by
  rw [opened]
  cases hsegments : segments? token with
  | none => rfl
  | some parts => exact absurd (segments?_eq_some_iff.mp hsegments).1 (h _ _ _)

theorem opened_eq_ok_iff {claims : Json.Members} :
    opened authority token = .ok claims ↔ ∃ head payload tag,
      Segmented token head payload tag ∧ Sealed authority head payload tag claims := by
  constructor
  · intro h
    by_cases hsegments : ∃ head payload tag, Segmented token head payload tag
    · obtain ⟨head, payload, tag, hsegments⟩ := hsegments
      refine ⟨head, payload, tag, hsegments, ?_⟩
      by_cases hsigned : Signed authority head payload tag
      · exact ⟨hsigned, opened_of_signed hsegments hsigned ▸ h⟩
      · rw [opened_of_not_signed hsegments hsigned] at h
        obtain ⟨_, -, hrefused⟩ := eq_ok_of_bind h
        cases hrefused
    · simp only [not_exists] at hsegments
      cases (opened_of_not_segmented hsegments).symm.trans h
  · rintro ⟨head, payload, tag, hsegments, hsealed⟩
    rw [opened_of_signed hsegments hsealed.toSigned, hsealed.opens]

end

/-! ## What is issued -/

theorem encode_ascii {bs : Bytes} (h : ∀ b ∈ bs, b.toNat < 0x80) :
    Text.Utf8.encode (String.ofList (bs.map fun b => Char.ofNat b.toNat)) = bs := by
  rw [Text.Utf8.encode, String.toList_ofList]
  induction bs with
  | nil => rfl
  | cons b bs ih =>
      have hb := h b List.mem_cons_self
      have hchar := Text.Utf8.toNat_ofNat (n := b.toNat) (by omega)
      rw [List.map_cons, Text.Utf8.encodeChars, List.flatMap_cons, ← Text.Utf8.encodeChars,
        ih fun c hc => h c (List.mem_cons_of_mem b hc), Text.Utf8.encodeChar, hchar, if_pos hb,
        UInt8.ofNat_toNat, List.singleton_append]

theorem portable_header (depth : Nat) : Json.Portable (depth + 1) header := by
  refine .obj (by decide) fun m hm => ?_
  simp only [List.mem_cons, List.not_mem_nil, or_false] at hm
  rcases hm with rfl | rfl <;> exact .str _

theorem object_segment {depth : Nat} {ms : Json.Members} (h : Json.Portable depth (.obj ms)) :
    object depth (segment (.obj ms)) = .ok ms := by
  have hbytes := Base64.decode?_text (Text.Utf8.encodeChars (Json.Printer.value (.obj ms)))
  rw [Base64.text] at hbytes
  rw [object, segment, hbytes, Option.bind_some, Text.Utf8.decode?_encodeChars]
  simp only [Json.attempt_written h]

theorem not_mem_text (bs : Bytes) : point ∉ Base64.text bs :=
  fun h => (Base64.mem_text h).2 rfl

theorem opened_compact {authority : Authority} (hheader : 0 < authority.depth.header)
    {claims : Json.Members} (h : Json.Portable authority.depth.claims (.obj claims)) :
    opened authority (compact authority.secret claims) = .ok claims := by
  obtain ⟨depth, hdepth⟩ := Nat.exists_eq_add_one_of_ne_zero (Nat.ne_of_gt hheader)
  have hobject : object authority.depth.header (segment header) =
      .ok [("alg", .str algorithm), ("typ", .str "JWT")] := by
    rw [hdepth]
    exact object_segment (portable_header depth)
  exact opened_eq_ok_iff.mpr ⟨segment header, segment (.obj claims), _,
    ⟨rfl, not_mem_text _, not_mem_text _⟩, ⟨⟨_, hobject, rfl⟩, Base64.decode?_text _⟩,
    object_segment h⟩

theorem compact_ascii (secret : String) (claims : Json.Members) :
    ∀ b ∈ compact secret claims, b.toNat < 0x80 := by
  have hsegment : ∀ bs, ∀ b ∈ Base64.text bs, b.toNat < 0x80 := fun _ _ h => (Base64.mem_text h).1
  have hpoint : point.toNat < 0x80 := by decide
  rw [compact]
  simp only [List.forall_mem_append, List.forall_mem_cons]
  exact ⟨⟨hsegment _, hpoint, hsegment _⟩, hpoint, hsegment _⟩

end Noticeboard.Token
