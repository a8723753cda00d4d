import Noticeboard.Http.Identity
import Noticeboard.Proofs.Token.Segments

/-!
How long a token lasts. A token that is issued to a user speaks for that user through the second in
which its lifetime ends, and from the next second on it is refused.
-/

namespace Noticeboard.Token

open Json (Members Portable)

/-! ## Claims -/

/-- What else a check looks at, beside the subject and the expiry. -/
def limits : List String :=
  [Claim.notBefore, Claim.issuedAt, Claim.audience, Claim.identifier, Claim.accessHash]

/-- Claims for a user that say nothing about when and where a token may be used, except perhaps when
it expires, which does not count. Their values are nested at most so deep. -/
structure Ordinary (depth : Nat) (user : String) (claims : Members) : Prop where
  distinct : (claims.map Prod.fst).Nodup
  subject : Members.last? Claim.subject claims = some (.str user)
  unlimited : ∀ name ∈ limits, name ∉ claims.map Prod.fst
  portable : ∀ m ∈ claims, m.1 ≠ Claim.expiry → Portable depth m.2

section

variable {depth : Nat} {user : String} {claims : Members} (h : Ordinary depth user claims)

include h

theorem Ordinary.last?_withExpiry (second : Int) (name : String) :
    Members.last? name (withExpiry claims second) =
      if name = Claim.expiry then some (.int second) else Members.last? name claims :=
  Members.last?_put h.distinct _ _ _

theorem Ordinary.absent_withExpiry (second : Int) {name : String} (hname : name ∈ limits) :
    Members.last? name (withExpiry claims second) = none := by
  have hother : name ≠ Claim.expiry := by
    rintro rfl
    revert hname
    decide
  rw [h.last?_withExpiry, if_neg hother, Members.last?_of_not_mem (h.unlimited name hname)]

theorem Ordinary.portable_withExpiry {second : Int} (hsecond : second.natAbs < 10 ^ 20) :
    Portable (depth + 1) (.obj (withExpiry claims second)) := by
  refine .obj (Members.nodup_put h.distinct _ _) fun m hm => ?_
  have hm := (Members.mem_put_iff h.distinct).mp hm
  split at hm
  · rw [hm]
    exact .int (Nat.le_trans (Json.Printer.length_toDigits_le (by decide) hsecond) (by decide))
  · next hname => exact h.portable m hm hname

theorem Ordinary.checkClaims_withExpiry (second now : Int) :
    checkClaims (withExpiry claims second) now =
      if Calendar.inYears now then
        if now / 1000 ≤ second then .ok () else .error .refused
      else .error .outOfYears := by
  have habsent (name : String) (hname : name ∈ limits) := h.absent_withExpiry second hname
  have hsubject : Members.last? Claim.subject (withExpiry claims second) = some (.str user) := by
    rw [h.last?_withExpiry, if_neg (by decide), h.subject]
  have hexpiry : Members.last? Claim.expiry (withExpiry claims second) = some (.int second) := by
    rw [h.last?_withExpiry, if_pos rfl]
  simp only [checkClaims, checkSecond, checkAbsent, checkText, hsubject, hexpiry,
    habsent Claim.issuedAt (by decide), habsent Claim.notBefore (by decide),
    habsent Claim.audience (by decide), habsent Claim.identifier (by decide),
    habsent Claim.accessHash (by decide)]
  rw [clock]
  split
  · simp only [Token.second, bind, Except.bind, Except.map, decide_eq_true_eq]
    by_cases hlast : now / 1000 ≤ second
    · rw [if_pos hlast, if_pos hlast]
      rfl
    · rw [if_neg hlast, if_neg hlast]
      rfl
  · rfl

end

/-! ## Issuing -/

theorem natAbs_expiry {moment : Int} (h : Calendar.inYears (moment / 1000) = true) :
    (moment / 1000000).natAbs < 10 ^ 20 := by
  rw [Calendar.inYears, Bool.and_eq_true] at h
  have hleast := of_decide_eq_true h.1
  have hmost := of_decide_eq_true h.2
  simp only [Calendar.millisPerDay, Calendar.epochDay, Calendar.dayCount] at hleast hmost
  omega

/-- A token that is worth its user, and the claims, through a second of the clock and no longer. The
last field is about clocks that show no date. -/
structure GoodThrough (authority : Authority) (token user : String) (claims : Members)
    (last : Int) : Prop where
  accepted : ∀ now, Calendar.inYears now = true → now / 1000 ≤ last →
    bearer authority token now = .ok (.user user) ∧ check authority token now = .ok claims
  expired : ∀ now, Calendar.inYears now = true → last < now / 1000 →
    bearer authority token now = .error .refused ∧ check authority token now = .error .refused ∧
      (Http.Refusal.ofToken .refused).response.status = 401
  untimed : ∀ now, Calendar.inYears now = false →
    bearer authority token now = .error .outOfYears ∧ check authority token now = .error .outOfYears

theorem goodThrough (authority : Authority) (hheader : 0 < authority.depth.header) {depth : Nat}
    (hdepth : depth < authority.depth.claims) {user : String} {claims : Members}
    (h : Ordinary depth user claims) (huser : user ≠ "") {second : Int}
    (hsecond : second.natAbs < 10 ^ 20) :
    GoodThrough authority
      (String.ofList ((compact authority.secret (withExpiry claims second)).map
        fun b => Char.ofNat b.toNat))
      user (withExpiry claims second) second := by
  generalize htoken : String.ofList _ = token
  have hportable := (h.portable_withExpiry hsecond).mono hdepth
  have hopened : opened authority (Text.Utf8.encode token) = .ok (withExpiry claims second) := by
    rw [← htoken, encode_ascii (compact_ascii _ _), opened_compact hheader hportable]
  have hsettled : Members.settled (Json.settledMembers (withExpiry claims second)) =
      withExpiry claims second := by
    simpa [Json.settled] using Json.settled_of_portable hportable
  have hsubject : Members.last? Claim.subject (withExpiry claims second) = some (.str user) := by
    rw [h.last?_withExpiry, if_neg (by decide), h.subject]
  refine ⟨fun now hnow hlast => ?_, fun now hnow hlast => ?_, fun now hnow => ?_⟩
  · have hcheck : check authority token now = .ok (withExpiry claims second) := by
      rw [check, hopened]
      simp only [h.checkClaims_withExpiry, hnow, if_pos hlast, if_true, hsettled]
    refine ⟨?_, hcheck⟩
    rw [bearer, hcheck]
    simp only [hsubject, if_neg huser]
  · have hcheck : check authority token now = .error .refused := by
      rw [check, hopened]
      simp only [h.checkClaims_withExpiry, hnow, if_neg (Int.not_le.mpr hlast), if_true]
    refine ⟨?_, hcheck, rfl⟩
    rw [bearer, hcheck]
  · have hcheck : check authority token now = .error .outOfYears := by
      rw [check, hopened]
      simp [h.checkClaims_withExpiry, hnow]
    refine ⟨?_, hcheck⟩
    rw [bearer, hcheck]

variable (authority : Authority)

theorem issue_own_expiry (own : Json) (claims : Members) (lifetime : Option Span) (now : Int) :
    issue authority (Members.put Claim.expiry own claims) lifetime now =
      issue authority claims lifetime now := by
  simp only [issue, withExpiry, Members.put_put]

theorem expirySecond_lasting {lifetime : Span} (h : lifetime ≠ 0) (now : Int) :
    expirySecond authority (some lifetime) now =
      if Calendar.inYears now && Calendar.inYears ((now * 1000 + lifetime) / 1000) then
        .ok ((now * 1000 + lifetime) / 1000000)
      else .error .outOfYears := by
  rw [expirySecond]
  simp only [if_neg h]

theorem usual_ne_zero : Span.ofMinutes authority.minutes.val ≠ 0 := by
  have hminutes : 0 < authority.minutes.val := authority.minutes.property
  show (60 * (authority.minutes.val : Int)) * 1000000 ≠ 0
  omega

theorem expirySecond_usual (now : Int) :
    expirySecond authority none now =
        expirySecond authority (some (Span.ofMinutes authority.minutes.val)) now ∧
      expirySecond authority (some 0) now = expirySecond authority none now := by
  rw [expirySecond_lasting authority (usual_ne_zero authority)]
  exact ⟨rfl, rfl⟩

/-- A token for a user is worth that user through the second that its lifetime leads to, whatever
moment of expiry came with the claims, if the claims are not nested deeper than they are read. A
lifetime of zero is the usual one. -/
theorem token_lasts_its_lifetime (hheader : 0 < authority.depth.header) {depth : Nat}
    (hdepth : depth < authority.depth.claims) {user : String} {claims : Members}
    (hclaims : Ordinary depth user claims) (huser : user ≠ "") {lifetime : Span}
    (hlifetime : lifetime ≠ 0) {now : Int} (hnow : Calendar.inYears now = true)
    (hexpiry : Calendar.inYears ((now * 1000 + lifetime) / 1000) = true) :
    (∃ token, issue authority claims (some lifetime) now = .ok token ∧
      GoodThrough authority token user
        (withExpiry claims ((now * 1000 + lifetime) / 1000000))
        ((now * 1000 + lifetime) / 1000000)) ∧
    (∀ own, issue authority (Members.put Claim.expiry own claims) (some lifetime) now =
      issue authority claims (some lifetime) now) ∧
    issue authority claims (some 0) now =
      issue authority claims (some (Span.ofMinutes authority.minutes.val)) now := by
  refine ⟨⟨_, ?_, goodThrough _ hheader hdepth hclaims huser (natAbs_expiry hexpiry)⟩,
    fun own => issue_own_expiry authority own claims _ now, ?_⟩
  · rw [issue, expirySecond_lasting authority hlifetime, hnow, hexpiry]
    rfl
  · have husual := expirySecond_usual authority now
    rw [issue, issue, husual.2, husual.1]

def visitorClaims : Members :=
  [(Claim.subject, .str "Zoë"), (Claim.expiry, .arr [.real .nan]), ("iss", .null),
    ("boards", .obj [("B1", .arr [.bool true, .int (-3)]), ("", .str "\u2028")])]

theorem ordinary_visitor : Ordinary 2 "Zoë" visitorClaims where
  distinct := by decide
  subject := rfl
  unlimited := by decide
  portable := by
    intro m hm hname
    simp only [visitorClaims, List.mem_cons, List.not_mem_nil, or_false] at hm
    rcases hm with rfl | rfl | rfl | rfl
    · exact .str _
    · exact absurd rfl hname
    · exact .null
    · refine .obj (by decide) fun m hm => ?_
      simp only [List.mem_cons, List.not_mem_nil, or_false] at hm
      rcases hm with rfl | rfl
      · refine .arr fun x hx => ?_
        simp only [List.mem_cons, List.not_mem_nil, or_false] at hx
        rcases hx with rfl | rfl
        · exact .bool true
        · exact .int (by decide)
      · exact .str _

/-- An authority that reads containers in the claims three deep. -/
def visitorAuthority : Authority where
  secret := "test-secret"
  minutes := ⟨90, by decide⟩
  depth := ⟨1, 3⟩

theorem visitor_expired_on_issue :
    ∃ token, issue visitorAuthority visitorClaims (some (-1500001)) 1700000000999 = .ok token ∧
      GoodThrough visitorAuthority token "Zoë" (withExpiry visitorClaims 1699999999) 1699999999 :=
  (token_lasts_its_lifetime visitorAuthority (by decide) (by decide) ordinary_visitor (by decide)
    (by decide) (by decide) (by decide)).1

end Noticeboard.Token
