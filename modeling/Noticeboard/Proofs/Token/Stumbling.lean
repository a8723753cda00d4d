import Noticeboard.Proofs.Json.Garbled
import Noticeboard.Proofs.Json.Members
import Noticeboard.Proofs.Token.Authentic

/-!
Checks that stumble. A token is accepted or refused, unless its check stumbles on the way: over a
header or claims that are nested deeper than they are read, over a claim that should name a moment
and holds something of which no number is made, or over a clock that shows no date when a claim is
to be compared with it. Only tokens that are signed get further than to the header.
-/

namespace Noticeboard.Token

open Json (Members)
open Text (Bytes)

/-! ## Failures that are no refusals -/

/-- Whether a check fails for another reason than that the token is not accepted. -/
def Breaks {α : Type} (result : Except CheckFailure α) : Prop :=
  ∃ failure, result = .error failure ∧ failure ≠ .refused

section

variable {α β : Type}

theorem not_breaks_ok (a : α) : ¬ Breaks (.ok a : Except CheckFailure α) := by
  rintro ⟨_, h, -⟩
  cases h

theorem not_breaks_refused : ¬ Breaks (.error .refused : Except CheckFailure α) := by
  rintro ⟨failure, h, hne⟩
  cases h
  exact hne rfl

theorem ok_or_refused_iff {result : Except CheckFailure α} :
    (∃ a, result = .ok a) ∨ result = .error .refused ↔ ¬ Breaks result := by
  cases result with
  | ok a => exact iff_of_true (.inl ⟨a, rfl⟩) (not_breaks_ok a)
  | error failure =>
      by_cases hfailure : failure = .refused
      · subst hfailure
        exact iff_of_true (.inr rfl) not_breaks_refused
      · refine iff_of_false ?_ (not_not_intro ⟨failure, rfl, hfailure⟩)
        rintro (⟨_, h⟩ | h)
        · cases h
        · exact hfailure (Except.error.inj h)

/-- A check that follows another one is made only where that passes. -/
theorem breaks_bind {x : Except CheckFailure α} {f : α → Except CheckFailure β} :
    Breaks (x >>= f) ↔ Breaks x ∨ ∃ a, x = .ok a ∧ Breaks (f a) := by
  cases x with
  | ok a =>
      refine ⟨fun h => .inr ⟨a, rfl, h⟩, ?_⟩
      rintro (h | ⟨_, ⟨⟩, h⟩)
      · exact absurd h (not_breaks_ok a)
      · exact h
  | error failure =>
      constructor
      · rintro ⟨failure', h, hne⟩
        cases h
        exact .inl ⟨failure, rfl, hne⟩
      · rintro (⟨failure', h, hne⟩ | ⟨_, h, -⟩)
        · cases h
          exact ⟨failure, rfl, hne⟩
        · cases h

theorem breaks_then {x : Except CheckFailure Unit} {y : Except CheckFailure β} :
    Breaks (x >>= fun _ => y) ↔ Breaks x ∨ x = .ok () ∧ Breaks y := by
  rw [breaks_bind]
  exact or_congr_right ⟨fun ⟨_, hx, hy⟩ => ⟨hx, hy⟩, fun ⟨hx, hy⟩ => ⟨(), hx, hy⟩⟩

end

/-- A value of which no number is made, not even in vain. -/
inductive Unnumbered : Json → Prop
  | null : Unnumbered .null
  | arr (elements : List Json) : Unnumbered (.arr elements)
  | obj (members : Members) : Unnumbered (.obj members)
  | infinite (negative : Bool) : Unnumbered (.real (.infinite negative))

theorem not_breaks_elim (o : Option Int) :
    ¬ Breaks (o.elim (.error .refused) Except.ok : Except CheckFailure Int) := by
  cases o with
  | none => exact not_breaks_refused
  | some n => exact not_breaks_ok n

theorem breaks_second_iff {x : Json} : Breaks (second x) ↔ Unnumbered x := by
  constructor
  · intro h
    cases x with
    | null => exact .null
    | arr elements => exact .arr elements
    | obj members => exact .obj members
    | int _ | bool _ => exact absurd h (not_breaks_ok _)
    | str s => exact absurd h (not_breaks_elim (Text.Numeral.relaxed? s))
    | garbled _ => exact absurd h not_breaks_refused
    | real y =>
        cases y with
        | infinite negative => exact .infinite negative
        | finite negative m e =>
            exact absurd h (not_breaks_elim (Binary64.finite negative m e).integerPart?)
        | nan => exact absurd h not_breaks_refused
  · rintro (_ | _ | _ | _) <;> exact ⟨_, rfl, by decide⟩

/-! ## Claims that name moments -/

/-- Whether a check stumbles over a claim. The moment of issue is compared with nothing. -/
inductive Trips (claims : Members) (now : Int) (name : String) : Prop
  | unnumbered {x : Json} (h : Members.last? name claims = some x) (hx : Unnumbered x)
  | untimed {x : Json} {n : Int} (h : Members.last? name claims = some x) (hx : second x = .ok n)
      (hname : name ≠ Claim.issuedAt) (hnow : Calendar.inYears now = false)

/-- Whether a claim that is checked before another one lets a token pass. -/
inductive Passes (claims : Members) (now : Int) : String → Prop
  | absent {name : String} (h : Members.last? name claims = none) : Passes claims now name
  | issuedAt {x : Json} {n : Int} (h : Members.last? Claim.issuedAt claims = some x)
      (hx : second x = .ok n) : Passes claims now Claim.issuedAt
  | notBefore {x : Json} {n : Int} (h : Members.last? Claim.notBefore claims = some x)
      (hx : second x = .ok n) (hnow : Calendar.inYears now = true) (hn : n ≤ now / 1000) :
      Passes claims now Claim.notBefore

/-- Whether a check stumbles over claims at a time: over the first of three that does not pass. -/
inductive Stumbles (claims : Members) (now : Int) : Prop
  | issuedAt (h : Trips claims now Claim.issuedAt)
  | notBefore (hissued : Passes claims now Claim.issuedAt) (h : Trips claims now Claim.notBefore)
  | expiry (hissued : Passes claims now Claim.issuedAt) (hbefore : Passes claims now Claim.notBefore)
      (h : Trips claims now Claim.expiry)

section

variable {claims : Members} {now : Int} {name : String}

theorem breaks_checkSecond_iff {allowed : Int → Except CheckFailure Bool} :
    Breaks (checkSecond claims name allowed) ↔ ∃ x, Members.last? name claims = some x ∧
      (Unnumbered x ∨ ∃ n, second x = .ok n ∧ Breaks (allowed n)) := by
  rw [checkSecond]
  cases Members.last? name claims with
  | none => simp [not_breaks_ok]
  | some x =>
      simp only [Option.some_inj, exists_eq_left', breaks_bind, breaks_second_iff]
      refine or_congr_right (exists_congr fun n => and_congr_right fun _ => ?_)
      refine or_iff_left ?_
      rintro ⟨answer, -, h⟩
      cases answer with
      | true => exact not_breaks_ok () h
      | false => exact not_breaks_refused h

theorem checkSecond_eq_ok_iff {allowed : Int → Except CheckFailure Bool} :
    checkSecond claims name allowed = .ok () ↔ Members.last? name claims = none ∨
      ∃ x n, Members.last? name claims = some x ∧ second x = .ok n ∧ allowed n = .ok true := by
  constructor
  · intro h
    cases hlast : Members.last? name claims with
    | none => exact .inl rfl
    | some x =>
        obtain ⟨n, hn, hallowed⟩ := allowed_of_checkSecond h hlast
        exact .inr ⟨x, n, rfl, hn, hallowed⟩
  · rintro (h | ⟨x, n, h, hx, hn⟩)
    · rw [checkSecond, h]
    · rw [checkSecond, h]
      simp only [hx, hn, bind, Except.bind]
      rfl

theorem breaks_clock_iff {f : Int → Bool} :
    Breaks ((clock now).map f) ↔ Calendar.inYears now = false := by
  rw [clock]
  cases Calendar.inYears now with
  | true => simp [Except.map, not_breaks_ok]
  | false => simp [Except.map, Breaks]

theorem breaks_issuedAt_iff (now : Int) :
    Breaks (checkSecond claims Claim.issuedAt fun _ => .ok true) ↔
      Trips claims now Claim.issuedAt := by
  rw [breaks_checkSecond_iff]
  constructor
  · rintro ⟨x, h, hx | ⟨n, -, hn⟩⟩
    · exact .unnumbered h hx
    · exact absurd hn (not_breaks_ok true)
  · rintro (⟨h, hx⟩ | ⟨-, -, hname, -⟩)
    · exact ⟨_, h, .inl hx⟩
    · exact absurd rfl hname

theorem breaks_compared_iff (hname : name ≠ Claim.issuedAt) {f : Int → Int → Bool} :
    Breaks (checkSecond claims name fun n => (clock now).map (f n)) ↔ Trips claims now name := by
  rw [breaks_checkSecond_iff]
  constructor
  · rintro ⟨x, h, hx | ⟨n, hn, hnow⟩⟩
    · exact .unnumbered h hx
    · exact .untimed h hn hname (breaks_clock_iff.mp hnow)
  · rintro (⟨h, hx⟩ | ⟨h, hx, -, hnow⟩)
    · exact ⟨_, h, .inl hx⟩
    · exact ⟨_, h, .inr ⟨_, hx, breaks_clock_iff.mpr hnow⟩⟩

theorem passes_issuedAt_iff (now : Int) :
    checkSecond claims Claim.issuedAt (fun _ => .ok true) = .ok () ↔
      Passes claims now Claim.issuedAt := by
  rw [checkSecond_eq_ok_iff]
  constructor
  · rintro (h | ⟨x, n, h, hx, -⟩)
    · exact .absent h
    · exact .issuedAt h hx
  · intro h
    generalize hname : Claim.issuedAt = name at h
    cases h with
    | absent h => exact .inl (hname ▸ h)
    | issuedAt h hx => exact .inr ⟨_, _, h, hx, rfl⟩
    | notBefore => exact absurd hname (by decide)

theorem passes_notBefore_iff :
    checkSecond claims Claim.notBefore (fun n => (clock now).map fun now => decide (n ≤ now)) =
      .ok () ↔ Passes claims now Claim.notBefore := by
  have hclock (n : Int) : (clock now).map (fun now => decide (n ≤ now)) = .ok true ↔
      Calendar.inYears now = true ∧ n ≤ now / 1000 := by
    rw [clock]
    cases Calendar.inYears now <;> simp [Except.map]
  simp only [checkSecond_eq_ok_iff, hclock]
  constructor
  · rintro (h | ⟨x, n, h, hx, hnow, hn⟩)
    · exact .absent h
    · exact .notBefore h hx hnow hn
  · intro h
    generalize hname : Claim.notBefore = name at h
    cases h with
    | absent h => exact .inl (hname ▸ h)
    | issuedAt => exact absurd hname (by decide)
    | notBefore h hx hnow hn => exact .inr ⟨_, _, h, hx, hnow, hn⟩

theorem not_breaks_checkAbsent (claims : Members) (name : String) :
    ¬ Breaks (checkAbsent claims name) := by
  rw [checkAbsent]
  split
  · exact not_breaks_ok ()
  · exact not_breaks_refused

theorem not_breaks_checkText (claims : Members) (name : String) :
    ¬ Breaks (checkText claims name) := by
  rw [checkText]
  split
  all_goals first | exact not_breaks_ok () | exact not_breaks_refused

/-- The claims behind the three that name moments pass or are refused. -/
theorem breaks_checkClaims_iff : Breaks (checkClaims claims now) ↔ Stumbles claims now := by
  have hrest : ¬ Breaks (do
      checkAbsent claims Claim.audience
      checkText claims Claim.subject
      checkText claims Claim.identifier
      checkAbsent claims Claim.accessHash) := by
    simp only [breaks_then, not_breaks_checkAbsent, not_breaks_checkText, and_false, or_false,
      not_false_eq_true]
  rw [checkClaims, breaks_then, breaks_issuedAt_iff now, passes_issuedAt_iff now, breaks_then,
    breaks_compared_iff (by decide), passes_notBefore_iff, breaks_then,
    breaks_compared_iff (by decide)]
  constructor
  · rintro (h | ⟨hissued, h | ⟨hbefore, h | ⟨-, h⟩⟩⟩)
    · exact .issuedAt h
    · exact .notBefore hissued h
    · exact .expiry hissued hbefore h
    · exact absurd h hrest
  · rintro (h | ⟨hissued, h⟩ | ⟨hissued, hbefore, h⟩)
    · exact .inl h
    · exact .inr ⟨hissued, .inl h⟩
    · exact .inr ⟨hissued, .inr ⟨hbefore, .inl h⟩⟩

end

/-! ## Tokens -/

/-- Whether a segment holds a text that is nested deeper than it is read. -/
inductive TooDeep (depth : Nat) (segment : Bytes) : Prop
  | mk {bytes : Bytes} {text : List Char} (hbytes : Base64.decode? segment = some bytes)
      (htext : Text.Utf8.decode? bytes = some text)
      (h : Json.attempt (.lenient depth) text = .error .tooDeep)

theorem breaks_object_iff {depth : Nat} {segment : Bytes} :
    Breaks (object depth segment) ↔ TooDeep depth segment := by
  constructor
  · rintro ⟨failure, h, hne⟩
    rw [object] at h
    split at h
    · cases h
      exact absurd rfl hne
    · next text htext =>
        obtain ⟨bytes, hbytes, htext⟩ := Option.bind_eq_some_iff.mp htext
        split at h
        · cases h
        · next hdeep => exact .mk hbytes htext hdeep
        all_goals
          cases h
          exact absurd rfl hne
  · rintro ⟨hbytes, htext, hdeep⟩
    refine ⟨.tooDeep, ?_, by decide⟩
    rw [object, hbytes, Option.bind_some, htext]
    simp only [hdeep]

/-- Whether a token makes its check stumble at a time. It has to be signed for that, unless its
header does. -/
inductive BreaksAt (authority : Authority) (token : String) (now : Int) : Prop
  | header {head payload tag : Bytes}
      (hsegments : Segmented (Text.Utf8.encode token) head payload tag)
      (h : TooDeep authority.depth.header head)
  | payload {head payload tag : Bytes}
      (hsegments : Segmented (Text.Utf8.encode token) head payload tag)
      (hsigned : Signed authority head payload tag) (h : TooDeep authority.depth.claims payload)
  | claims {head payload tag : Bytes} {claims : Members}
      (hsegments : Segmented (Text.Utf8.encode token) head payload tag)
      (hsealed : Sealed authority head payload tag claims) (h : Stumbles claims now)

section

variable {authority : Authority} {token : String} {now : Int}

theorem not_tooDeep_of_signed {head payload tag : Bytes} (h : Signed authority head payload tag) :
    ¬ TooDeep authority.depth.header head := by
  obtain ⟨header, hheader, -⟩ := h.header
  rw [← breaks_object_iff, hheader]
  exact not_breaks_ok header

/-- The header of a token is read first, and its payload only where it is signed. -/
theorem breaks_opened_iff {bytes head payload tag : Bytes}
    (hsegments : Segmented bytes head payload tag) :
    Breaks (opened authority bytes) ↔ TooDeep authority.depth.header head ∨
      Signed authority head payload tag ∧ TooDeep authority.depth.claims payload := by
  by_cases hsigned : Signed authority head payload tag
  · rw [opened_of_signed hsegments hsigned, breaks_object_iff]
    simp only [not_tooDeep_of_signed hsigned, hsigned, false_or, true_and]
  · rw [opened_of_not_signed hsegments hsigned, breaks_bind, breaks_object_iff]
    simp only [hsigned, not_breaks_refused, and_false, exists_false, false_and]

theorem segmented_of_breaks {bytes : Bytes} (h : Breaks (opened authority bytes)) :
    ∃ head payload tag, Segmented bytes head payload tag := by
  by_contra hnone
  simp only [not_exists] at hnone
  rw [opened_of_not_segmented hnone] at h
  exact not_breaks_refused h

theorem breaks_check : Breaks (check authority token now) ↔
    Breaks (opened authority (Text.Utf8.encode token)) ∨
      ∃ claims, opened authority (Text.Utf8.encode token) = .ok claims ∧ Stumbles claims now := by
  rw [check]
  cases opened authority (Text.Utf8.encode token) with
  | error failure => simp [Breaks]
  | ok claims =>
      simp only [not_breaks_ok, false_or, Except.ok.injEq, exists_eq_left',
        ← breaks_checkClaims_iff]
      cases checkClaims claims now with
      | ok => simp [not_breaks_ok]
      | error failure => simp [Breaks]

theorem breaks_check_iff : Breaks (check authority token now) ↔ BreaksAt authority token now := by
  rw [breaks_check]
  constructor
  · rintro (h | ⟨claims, hopened, h⟩)
    · obtain ⟨head, payload, tag, hsegments⟩ := segmented_of_breaks h
      rcases (breaks_opened_iff hsegments).mp h with h | ⟨hsigned, h⟩
      · exact .header hsegments h
      · exact .payload hsegments hsigned h
    · obtain ⟨_, _, _, hsegments, hsealed⟩ := opened_eq_ok_iff.mp hopened
      exact .claims hsegments hsealed h
  · rintro (⟨hsegments, h⟩ | ⟨hsegments, hsigned, h⟩ | ⟨hsegments, hsealed, h⟩)
    · exact .inl ((breaks_opened_iff hsegments).mpr (.inl h))
    · exact .inl ((breaks_opened_iff hsegments).mpr (.inr ⟨hsigned, h⟩))
    · exact .inr ⟨_, opened_eq_ok_iff.mpr ⟨_, _, _, hsegments, hsealed⟩, h⟩

theorem breaks_bearer_iff : Breaks (bearer authority token now) ↔ BreaksAt authority token now := by
  rw [← breaks_check_iff, bearer]
  cases check authority token now with
  | error failure => simp [Breaks]
  | ok claims =>
      refine iff_of_false ?_ (not_breaks_ok _)
      dsimp only
      split
      · split
        · exact not_breaks_refused
        · exact not_breaks_ok _
      · exact not_breaks_ok _
      · exact not_breaks_refused

/-- Nobody is accepted under an empty name. -/
theorem name_of_bearer {b : Bearer} (h : bearer authority token now = .ok b) : b.name ≠ "" := by
  obtain ⟨head, payload, tag, claims, -, hsealed, hnames, -⟩ := authentic_of_accepted h
  cases b with
  | user id => exact fun hid => hnames.filled (congrArg Bearer.user hid)
  | garbled mended =>
      have hobject := hsealed.opens
      rw [object] at hobject
      split at hobject
      · cases hobject
      · split at hobject
        · next hread =>
            cases hobject
            obtain ⟨front, back, rfl, -⟩ := Members.last?_eq_some_iff_isLast.mp hnames.subject
            exact Json.attempt_garbled hread (List.mem_append_right front List.mem_cons_self)
        all_goals cases hobject

end

end Noticeboard.Token
