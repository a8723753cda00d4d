import Noticeboard.Http.International
import Noticeboard.Proofs.Text.Case
import Noticeboard.Proofs.Text.Percent
import Noticeboard.Proofs.Text.Punycode

/-!
Names of hosts as they are sent. Whatever a name is written with, what is sent of it has small
letters and digits of ASCII, hyphens and points. It passes the checks of a name that is asked for,
and it is a name that is sent as it is.
-/

namespace Noticeboard.Http.International

/-! ## Characters -/

/-- The small letters, digits and hyphens of ASCII. -/
def IsPlain (c : Char) : Prop := c.isLower ∨ c.isDigit ∨ c = '-'

theorem IsPlain.isAlphanum {c : Char} (h : IsPlain c) : c.isAlphanum ∨ c = '-' := by
  rcases h with h | h | h
  · exact .inl (by simp [Char.isAlphanum, Char.isAlpha, h])
  · exact .inl (by simp [Char.isAlphanum, h])
  · exact .inr h

theorem IsPlain.isPoint_eq {c : Char} (h : IsPlain c) : isPoint c = false := by
  refine Bool.eq_false_iff.mpr fun hpoint => ?_
  simp only [isPoint, Bool.or_eq_true, decide_eq_true_eq] at hpoint
  rcases hpoint with ((rfl | rfl) | rfl) | rfl <;> revert h <;> unfold IsPlain <;> decide

theorem IsPlain.ne_point {c : Char} (h : IsPlain c) : c ≠ '.' := by
  rintro rfl
  cases h.isPoint_eq

theorem ascii_of_isPlain {c : Char} (h : IsPlain c ∨ c = '.') :
    c.toNat < 0x80 ∧ c.isUpper = false := by
  rcases h with (h | h | rfl) | rfl
  · have hle : c.toNat ≤ 0x7a := by
      simp only [Char.isLower, Bool.and_eq_true, decide_eq_true_eq, UInt32.le_iff_toNat_le] at h
      exact h.2
    exact ⟨by omega, Bool.eq_false_iff.mpr (Char.not_isUpper_of_isLower h)⟩
  · have hle : c.toNat ≤ 0x39 := by
      simp only [Char.isDigit, Bool.and_eq_true, decide_eq_true_eq, UInt32.le_iff_toNat_le] at h
      exact h.2
    refine ⟨by omega, Bool.eq_false_iff.mpr fun hupper => ?_⟩
    simp only [Char.isUpper, decide_eq_true_eq, UInt32.le_iff_toNat_le] at hupper
    have hge : 0x41 ≤ c.toNat := hupper.1
    omega
  · decide
  · decide

theorem IsPlain.isBasic {c : Char} (h : IsPlain c) : Text.Punycode.isBasic c :=
  decide_eq_true (ascii_of_isPlain (.inl h)).1

theorem isPlain_of_isDigit {c : Char} (h : Text.Punycode.IsDigit c) : IsPlain c := by
  have hall : ∀ d < 36, IsPlain (Text.Punycode.digit d) := by
    unfold IsPlain
    decide
  obtain ⟨d, hd, rfl⟩ := h
  exact hall d hd

section
variable {c : Char} (hbasic : Text.Punycode.isBasic c)
include hbasic

/-- What the characters of ASCII are like is looked up one by one. -/
theorem isPlain_of_basic {p : Char → Bool}
    (hall : ∀ n < 0x80, p (Char.ofNat n) → IsPlain (Char.ofNat n)) (h : p c) : IsPlain c := by
  have hplain := hall c.toNat (of_decide_eq_true hbasic)
  rw [Char.ofNat_toNat] at hplain
  exact hplain h

/-- Only the first three runs of the characters of names lie in ASCII. -/
theorem isPlain_of_isNameCharacter (h : Text.isNameCharacter c) : IsPlain c := by
  have hrest : ∀ r ∈ Text.nameRuns.drop 3, 0x80 ≤ r.first := by decide +kernel
  obtain ⟨r, hr, hhas⟩ := List.any_eq_true.mp h
  rw [← List.take_append_drop 3 Text.nameRuns] at hr
  rcases List.mem_append.mp hr with hr | hr
  · refine isPlain_of_basic hbasic (p := Text.Run.anyHas (Text.nameRuns.take 3)) ?_
      (List.any_eq_true.mpr ⟨r, hr, hhas⟩)
    unfold IsPlain
    decide +kernel
  · have hfirst := hrest r hr
    simp only [Text.Run.has, Bool.and_eq_true, decide_eq_true_eq] at hhas
    have hbasic : c.toNat < 0x80 := of_decide_eq_true hbasic
    omega

theorem isPlain_of_digit? (h : (Text.Punycode.digit? c).isSome) (hlower : c.isUpper = false) :
    IsPlain c := by
  refine isPlain_of_basic hbasic (p := fun c => (Text.Punycode.digit? c).isSome && !c.isUpper) ?_
    (by simp [h, hlower])
  unfold IsPlain
  decide +kernel

theorem isJoiner_of_basic : isJoiner c = false := by
  refine Bool.eq_false_iff.mpr fun h => ?_
  simp only [isJoiner, Bool.or_eq_true, decide_eq_true_eq] at h
  rcases h with rfl | rfl <;> cases hbasic

/-- All characters that ask for others beside them lie outside ASCII. -/
theorem fits?_of_basic (before after : List Char) : fits? before c after = none := by
  have hne : ∀ x : Char, Text.Punycode.isBasic x = false → c ≠ x := by
    rintro x hx rfl
    cases hbasic.symm.trans hx
  have hdigits : ∀ low : Char, Text.Punycode.isBasic low = false → ¬ low ≤ c := by
    intro low hlow hle
    have hlow : 0x80 ≤ low.toNat := Nat.le_of_not_lt (of_decide_eq_false hlow)
    have hle : low.toNat ≤ c.toNat := hle
    have hbasic : c.toNat < 0x80 := of_decide_eq_true hbasic
    omega
  have harabic : isArabicDigit c = false := by simp [isArabicDigit, hdigits '\u0660' rfl]
  have hpersian : isPersianDigit c = false := by simp [isPersianDigit, hdigits '\u06f0' rfl]
  rw [fits?, if_neg (hne _ rfl), if_neg (hne _ rfl),
    if_neg (not_or_intro (hne _ rfl) (hne _ rfl)), if_neg (hne _ rfl), harabic, hpersian]
  rfl

end

/-- Each character is one of names, or one that has beside it what it asks for. -/
theorem checkCharacters_cons {before label : List Char} {c : Char}
    (h : checkCharacters before (c :: label) = .ok ()) :
    (Text.isNameCharacter c ∨ isJoiner c ∨ fits? before c label = some true) ∧
      checkCharacters (c :: before) label = .ok () := by
  rw [checkCharacters] at h
  split at h
  · next hname => exact ⟨.inl hname, h⟩
  · split at h
    · next hjoiner =>
        split at h
        · exact ⟨.inr (.inl hjoiner), h⟩
        · cases h
    · split at h
      · next hfits => exact ⟨.inr (.inr hfits), h⟩
      · cases h
      · cases h

theorem isPlain_of_checkCharacters {before label : List Char}
    (h : checkCharacters before label = .ok ()) {c : Char} (hc : c ∈ label)
    (hbasic : Text.Punycode.isBasic c) : IsPlain c := by
  induction label generalizing before with
  | nil => cases hc
  | cons a label ih =>
      obtain ⟨hfirst, hrest⟩ := checkCharacters_cons h
      rcases List.mem_cons.mp hc with rfl | hc
      · rcases hfirst with hname | hjoiner | hfits
        · exact isPlain_of_isNameCharacter hbasic hname
        · cases hjoiner.symm.trans (isJoiner_of_basic hbasic)
        · cases hfits.symm.trans (fits?_of_basic hbasic before label)
      · exact ih hrest hc

/-! ## Labels -/

theorem checkPlain_ok {label : List Char} (h : checkPlain label = .ok ()) :
    label ≠ [] ∧ checkCharacters [] label = .ok () := by
  rw [checkPlain] at h
  split at h
  · cases h
  · next hform =>
      simp only [Bool.or_eq_true, not_or] at hform
      refine ⟨fun hnil => hform.1.1.1.1 (hnil ▸ rfl), ?_⟩
      split at h
      · cases h
      · next hcharacters => exact hcharacters

/-- A label as it is sent. -/
structure IsSent (label : List Char) : Prop where
  filled : label ≠ []
  plain : ∀ c ∈ label, IsPlain c
  checks : checkBasic label = .ok ()
  short : label.length ≤ labelLength

theorem isPlain_of_mark {c : Char} (h : c ∈ mark) : IsPlain c := by
  have hmark : c = 'x' ∨ c = 'n' ∨ c = '-' := by simpa [mark] using h
  rcases hmark with rfl | rfl | rfl
  · exact .inl rfl
  · exact .inl rfl
  · exact .inr (.inr rfl)

/-- A label in ASCII passes its checks as it is, or as what is spelled behind the mark. -/
theorem checkBasic_ok {label : List Char} (h : checkBasic label = .ok ()) :
    (∃ body text, label = mark ++ body ∧ Text.Punycode.decode? body = some text ∧
      checkPlain text = .ok ()) ∨ checkPlain label = .ok () := by
  rw [checkBasic] at h
  split at h
  · next hmark =>
      have hparts : mark ++ label.drop mark.length = label := by
        conv_rhs => rw [← List.take_append_drop mark.length label, hmark]
      dsimp only at h
      split at h
      · cases h
      · split at h
        · next text hread => exact .inl ⟨_, text, hparts.symm, hread, h⟩
        · cases h
  · exact .inr h

/-- A label in ASCII is sent as it is. -/
theorem isSent_of_basic {label : List Char} (hbasic : ∀ c ∈ label, Text.Punycode.isBasic c)
    (hlower : ∀ c ∈ label, c.isUpper = false) (hchecks : checkBasic label = .ok ())
    (hshort : label.length ≤ labelLength) : IsSent label := by
  rcases checkBasic_ok hchecks with ⟨body, text, rfl, hread, hplain⟩ | hplain
  · obtain ⟨-, hcharacters⟩ := checkPlain_ok hplain
    refine ⟨List.append_ne_nil_of_left_ne_nil (List.cons_ne_nil _ _) _, fun c hc => ?_, hchecks,
      hshort⟩
    rcases List.mem_append.mp hc with hmark | hbody
    · exact isPlain_of_mark hmark
    · rcases Text.Punycode.mem_of_decode? hread hbody with htext | rfl | hdigit
      · exact isPlain_of_checkCharacters hcharacters htext (hbasic c hc)
      · exact .inr (.inr rfl)
      · exact isPlain_of_digit? (hbasic c hc) hdigit (hlower c hc)
  · obtain ⟨hfilled, hcharacters⟩ := checkPlain_ok hplain
    exact ⟨hfilled, fun c hc => isPlain_of_checkCharacters hcharacters hc (hbasic c hc), hchecks,
      hshort⟩

/-- A label that is spelled in Punycode is read back when it is checked. -/
theorem isSent_of_spelled {label : List Char} (hbasic : label.all Text.Punycode.isBasic = false)
    (h : checkPlain label = .ok ())
    (hshort : (mark ++ Text.Punycode.encode label).length ≤ labelLength) :
    IsSent (mark ++ Text.Punycode.encode label) := by
  obtain ⟨-, hcharacters⟩ := checkPlain_ok h
  obtain ⟨last, hlast, hdigit⟩ := Text.Punycode.getLast?_encode hbasic
  refine ⟨List.append_ne_nil_of_left_ne_nil (List.cons_ne_nil _ _) _, fun c hc => ?_, ?_, hshort⟩
  · rcases List.mem_append.mp hc with hc | hc
    · exact isPlain_of_mark hc
    · rcases Text.Punycode.mem_encode hc with ⟨hc, hascii⟩ | rfl | hc
      · exact isPlain_of_checkCharacters hcharacters hc hascii
      · exact .inr (.inr rfl)
      · exact isPlain_of_isDigit hc
  · have hbody : ¬ ((Text.Punycode.encode label).isEmpty ||
        (Text.Punycode.encode label).getLast? = some '-') = true := by
      have hne : Text.Punycode.encode label ≠ [] := by
        intro hnil
        rw [hnil] at hlast
        cases hlast
      simp [hne, hlast, hdigit.ne_hyphen]
    rw [checkBasic, if_pos List.take_left, List.drop_left, if_neg hbody,
      Text.Punycode.decode?_encode]
    exact h

theorem isSent_of_encodeLabel {label sent : List Char} (hlower : ∀ c ∈ label, c.isUpper = false)
    (h : encodeLabel label = .ok sent) : IsSent sent := by
  have hends : ∀ coded : List Char,
      (if coded.length ≤ labelLength then .ok coded else .error .malformed) =
        (.ok sent : Except Fault (List Char)) → coded = sent ∧ coded.length ≤ labelLength := by
    intro coded h
    split at h
    · next hshort => exact ⟨Except.ok.inj h, hshort⟩
    · cases h
  cases hbasic : label.all Text.Punycode.isBasic with
  | true =>
      rw [encodeLabel, if_pos hbasic] at h
      cases hchecks : checkBasic label with
      | error fault =>
          rw [hchecks] at h
          cases h
      | ok =>
          rw [hchecks] at h
          obtain ⟨rfl, hshort⟩ := hends label h
          exact isSent_of_basic (List.all_eq_true.mp hbasic) hlower hchecks hshort
  | false =>
      rw [encodeLabel, if_neg (Bool.eq_false_iff.mp hbasic)] at h
      cases hchecks : checkPlain label with
      | error fault =>
          rw [hchecks] at h
          cases h
      | ok =>
          rw [hchecks] at h
          obtain ⟨rfl, hshort⟩ := hends (mark ++ Text.Punycode.encode label) h
          exact isSent_of_spelled hbasic hchecks hshort

/-! ## Names -/

theorem isSent_of_mapM {parts sent : List (List Char)}
    (hlower : ∀ part ∈ parts, ∀ c ∈ part, c.isUpper = false)
    (h : parts.mapM encodeLabel = .ok sent) :
    sent.length = parts.length ∧ ∀ label ∈ sent, IsSent label := by
  induction parts generalizing sent with
  | nil =>
      cases h
      exact ⟨rfl, fun _ hlabel => absurd hlabel List.not_mem_nil⟩
  | cons part parts ih =>
      obtain ⟨hpart, hparts⟩ := List.forall_mem_cons.mp hlower
      rw [List.mapM_cons] at h
      cases hfirst : encodeLabel part with
      | error fault =>
          rw [hfirst] at h
          cases h
      | ok first =>
          cases hrest : parts.mapM encodeLabel with
          | error fault =>
              rw [hfirst, hrest] at h
              cases h
          | ok rest =>
              rw [hfirst, hrest] at h
              cases h
              obtain ⟨hlength, hall⟩ := ih hparts hrest
              exact ⟨congrArg (· + 1) hlength,
                List.forall_mem_cons.mpr ⟨isSent_of_encodeLabel hpart hfirst, hall⟩⟩

/-- A label that is sent is sent as it is. -/
theorem IsSent.encodeLabel {label : List Char} (h : IsSent label) :
    encodeLabel label = .ok label := by
  have hbasic : label.all Text.Punycode.isBasic :=
    List.all_eq_true.mpr fun c hc => (h.plain c hc).isBasic
  rw [International.encodeLabel, if_pos hbasic, h.checks]
  exact if_pos h.short

/-- A name without a point at its end has labels. -/
theorem labels_ne_nil {name : List Char} (h : (labels name).2 = false) : (labels name).1 ≠ [] := by
  rw [labels] at h ⊢
  split at h
  · cases h
  · next hlast =>
      rw [if_neg hlast]
      exact Text.Percent.pieces_ne_nil _ _

theorem mem_of_mem_labels {name label : List Char} (hlabel : label ∈ (labels name).1) {c : Char}
    (hc : c ∈ label) : c ∈ name ∨ c = '.' := by
  have hpiece :
      label ∈ Text.Percent.pieces '.' (name.map fun c => if isPoint c then '.' else c) := by
    rw [labels] at hlabel
    split at hlabel
    · exact (List.dropLast_sublist _).subset hlabel
    · exact hlabel
  obtain ⟨a, ha, rfl⟩ := List.mem_map.mp (Text.Percent.mem_of_mem_pieces hpiece hc)
  split
  · exact .inr rfl
  · exact .inl ha

/-- Labels put together as a name; where it ends in a point, an empty one comes last. -/
def joined (parts : List (List Char)) (ended : Bool) : List Char :=
  ['.'].intercalate (if ended then parts ++ [[]] else parts)

section
variable {sent : List (List Char)} (hsent : ∀ label ∈ sent, IsSent label)
include hsent

theorem isPlain_of_mem_parts (ended : Bool) :
    ∀ part ∈ (if ended then sent ++ [[]] else sent), ∀ c ∈ part, IsPlain c := by
  intro part hpart c hc
  cases ended with
  | true =>
      rcases List.mem_append.mp hpart with hpart | hpart
      · exact (hsent part hpart).plain c hc
      · obtain rfl := List.mem_singleton.mp hpart
        cases hc
  | false => exact (hsent part hpart).plain c hc

theorem mem_joined {ended : Bool} {c : Char} (h : c ∈ joined sent ended) :
    IsPlain c ∨ c = '.' := by
  rcases Text.Percent.mem_of_mem_intercalate h with hc | ⟨part, hpart, hc⟩
  · exact .inr (List.mem_singleton.mp hc)
  · exact .inl (isPlain_of_mem_parts hsent ended part hpart c hc)

/-- The labels of a name that is sent are those it was put together from. -/
theorem labels_joined {ended : Bool} (hfilled : ended = false → sent ≠ []) :
    labels (joined sent ended) = (sent, ended) := by
  have hpoints : (joined sent ended).map (fun c => if isPoint c then '.' else c) =
      joined sent ended := by
    refine (List.map_congr_left fun c hc => ?_).trans (List.map_id _)
    rcases mem_joined hsent hc with hplain | rfl
    · rw [hplain.isPoint_eq]
      rfl
    · rfl
  have hne : (if ended then sent ++ [[]] else sent) ≠ [] := by
    cases ended with
    | true => exact List.append_ne_nil_of_right_ne_nil _ (List.cons_ne_nil _ _)
    | false => exact hfilled rfl
  have hpieces : Text.Percent.pieces '.' (joined sent ended) =
      if ended then sent ++ [[]] else sent :=
    Text.Percent.pieces_intercalate hne fun part hpart hmem =>
      (isPlain_of_mem_parts hsent ended part hpart '.' hmem).ne_point rfl
  rw [labels, hpoints, hpieces]
  cases ended with
  | true => simp
  | false =>
      have hlast : sent.getLast? ≠ some [] := fun hlast =>
        (hsent [] (List.mem_of_getLast? hlast)).filled rfl
      simp [hlast]

theorem mapM_encodeLabel : sent.mapM encodeLabel = .ok sent := by
  induction sent with
  | nil => rfl
  | cons label sent ih =>
      obtain ⟨hlabel, hsent⟩ := List.forall_mem_cons.mp hsent
      rw [List.mapM_cons, hlabel.encodeLabel, ih hsent]
      rfl

theorem forM_checkBasic : sent.forM checkBasic = .ok () := by
  induction sent with
  | nil => rfl
  | cons label sent ih =>
      obtain ⟨hlabel, hsent⟩ := List.forall_mem_cons.mp hsent
      rw [List.forM_eq_forM, List.forM_cons, hlabel.checks]
      exact ih hsent

end

theorem encode_eq (cs : List Char) :
    encode cs =
      if nameLength < (Text.lower cs).length then .error .malformed
      else ((labels (Text.lower cs)).1.mapM encodeLabel).bind fun sent =>
        let name := joined sent (labels (Text.lower cs)).2
        if name.length ≤ (if (labels (Text.lower cs)).2 then nameLength else nameLength - 1) then
          .ok name
        else .error .malformed := by
  rw [encode]
  rfl

theorem encode_eq_ok_iff {cs name : List Char} :
    encode cs = .ok name ↔
      (Text.lower cs).length ≤ nameLength ∧
        ∃ sent, (labels (Text.lower cs)).1.mapM encodeLabel = .ok sent ∧
          name = joined sent (labels (Text.lower cs)).2 ∧
          name.length ≤ (if (labels (Text.lower cs)).2 then nameLength else nameLength - 1) := by
  rw [encode_eq]
  by_cases hlong : nameLength < (Text.lower cs).length
  · rw [if_pos hlong]
    exact ⟨fun h => (by cases h), fun h => absurd h.1 (Nat.not_le_of_lt hlong)⟩
  · rw [if_neg hlong]
    cases (labels (Text.lower cs)).1.mapM encodeLabel with
    | error fault => simp [Except.bind]
    | ok sent =>
        simp only [Except.bind, Except.ok.injEq, exists_eq_left']
        by_cases hlimit : (joined sent (labels (Text.lower cs)).2).length ≤
            if (labels (Text.lower cs)).2 then nameLength else nameLength - 1
        · rw [if_pos hlimit, Except.ok.injEq]
          constructor
          · rintro rfl
            exact ⟨Nat.le_of_not_lt hlong, rfl, hlimit⟩
          · exact fun h => h.2.1.symm
        · rw [if_neg hlimit]
          refine ⟨fun h => (by cases h), ?_⟩
          rintro ⟨-, rfl, h⟩
          exact absurd h hlimit

/-- What is sent of a name is put together from labels as they are sent. -/
theorem joined_of_encode {cs name : List Char} (h : encode cs = .ok name) :
    ∃ sent ended, name = joined sent ended ∧
      name.length ≤ (if ended then nameLength else nameLength - 1) ∧
      (∀ label ∈ sent, IsSent label) ∧ (ended = false → sent ≠ []) := by
  obtain ⟨-, sent, hsent, hname, hlength⟩ := encode_eq_ok_iff.mp h
  have hlower : ∀ label ∈ (labels (Text.lower cs)).1, ∀ c ∈ label, c.isUpper = false := by
    intro label hlabel c hc
    rcases mem_of_mem_labels hlabel hc with hc | rfl
    · exact Text.isUpper_of_mem_lower hc
    · rfl
  obtain ⟨hcount, hsent⟩ := isSent_of_mapM hlower hsent
  refine ⟨sent, _, hname, hlength, hsent, fun hended hnil => labels_ne_nil hended ?_⟩
  rw [hnil, List.length_nil] at hcount
  exact List.length_eq_zero_iff.mp hcount.symm

theorem length_le_nameLength {n : Nat} {ended : Bool}
    (h : n ≤ if ended then nameLength else nameLength - 1) : n ≤ nameLength := by
  split at h
  · exact h
  · exact h.trans (Nat.sub_le _ _)

/-- What is sent of a name has small letters, digits, hyphens and points. -/
theorem mem_of_encode {cs name : List Char} (h : encode cs = .ok name) {c : Char} (hc : c ∈ name) :
    IsPlain c ∨ c = '.' := by
  obtain ⟨sent, ended, rfl, -, hsent, -⟩ := joined_of_encode h
  exact mem_joined hsent hc

/-- What is sent of a name passes the checks of a name that is asked for. -/
theorem check_of_encode {cs name : List Char} (h : encode cs = .ok name) :
    check name = .ok () := by
  obtain ⟨sent, ended, rfl, hlength, hsent, hfilled⟩ := joined_of_encode h
  rw [check, if_neg (Nat.not_lt_of_le (length_le_nameLength hlength)), labels_joined hsent hfilled]
  exact forM_checkBasic hsent

/-- What is sent of a name is sent as it is. -/
theorem encode_of_encode {cs name : List Char} (h : encode cs = .ok name) :
    encode name = .ok name := by
  have hlower : Text.lower name = name :=
    Text.lower_of_ascii fun c hc => ascii_of_isPlain (mem_of_encode h hc)
  obtain ⟨sent, ended, rfl, hlength, hsent, hfilled⟩ := joined_of_encode h
  refine encode_eq_ok_iff.mpr ?_
  rw [hlower, labels_joined hsent hfilled]
  exact ⟨length_le_nameLength hlength, sent, mapM_encodeLabel hsent, rfl, hlength⟩

end Noticeboard.Http.International
