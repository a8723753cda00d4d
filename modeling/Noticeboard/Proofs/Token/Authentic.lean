import Noticeboard.Proofs.Token.Expiry

/-!
Nobody is believed without a token that is signed and has not expired. Whatever text is presented,
if it is accepted then its signature is that of its header and payload, the header names the one
algorithm there is, and the payload names the bearer, so that the bearer depends on the payload
alone.
-/

namespace Noticeboard.Token

open Json (Members)
open Text (Bytes)

/-! ## Claims -/

/-- What the subject is in the claims of a bearer. -/
def Bearer.claim : Bearer → Json
  | .user id => .str id
  | .garbled mended => .garbled mended

/-- Claims that name a bearer, who is somebody. -/
structure Names (claims : Members) (b : Bearer) : Prop where
  subject : Members.last? Claim.subject claims = some b.claim
  filled : b ≠ .user ""

/-- Claims that do not say that they expired before this moment: if they name a second at all, it is
the current one or a later one. -/
def Unexpired (claims : Members) (now : Int) : Prop :=
  ∀ value, Members.last? Claim.expiry claims = some value →
    ∃ n, second value = .ok n ∧ now / 1000 ≤ n

theorem names_unique {claims : Members} {b b' : Bearer} (h : Names claims b)
    (h' : Names claims b') : b = b' := by
  have hclaim : b.claim = b'.claim := by
    rw [← Option.some_inj, ← h.subject, h'.subject]
  cases b <;> cases b' <;> cases hclaim <;> rfl

theorem allowed_of_checkSecond {claims : Members} {name : String}
    {allowed : Int → Except CheckFailure Bool} (h : checkSecond claims name allowed = .ok ())
    {value : Json} (hvalue : Members.last? name claims = some value) :
    ∃ n, second value = .ok n ∧ allowed n = .ok true := by
  rw [checkSecond, hvalue] at h
  obtain ⟨n, hn, hallowed⟩ := eq_ok_of_bind h
  obtain ⟨answer, hanswer, hrest⟩ := eq_ok_of_bind hallowed
  cases answer with
  | true => exact ⟨n, hn, hanswer⟩
  | false => cases hrest

theorem unexpired_of_checkClaims {claims : Members} {now : Int}
    (h : checkClaims claims now = .ok ()) : Unexpired claims now := by
  intro value hvalue
  obtain ⟨-, -, h⟩ := eq_ok_of_bind h
  obtain ⟨-, -, h⟩ := eq_ok_of_bind h
  obtain ⟨_, hexpiry, -⟩ := eq_ok_of_bind h
  obtain ⟨n, hn, hallowed⟩ := allowed_of_checkSecond hexpiry hvalue
  refine ⟨n, hn, ?_⟩
  rw [clock] at hallowed
  split at hallowed
  · exact of_decide_eq_true (Except.ok.inj hallowed)
  · cases hallowed

theorem eq_claim_of_settled {x : Json} {b : Bearer} (h : x.settled = b.claim) : x = b.claim := by
  cases b <;> cases x <;> simp_all [Json.settled, Bearer.claim]

variable {authority : Authority}

/-- A text is accepted exactly if it opens to claims that allow it now and name the bearer. -/
theorem bearer_eq_ok_iff {text : String} {now : Int} {b : Bearer} :
    bearer authority text now = .ok b ↔ ∃ claims,
      opened authority (Text.Utf8.encode text) = .ok claims ∧ checkClaims claims now = .ok () ∧
        Names claims b := by
  rw [bearer, check]
  cases opened authority (Text.Utf8.encode text) with
  | error failure => simp
  | ok claims =>
      cases hclaims : checkClaims claims now with
      | error failure => simp [hclaims]
      | ok =>
          simp only [Except.ok.injEq, exists_eq_left', hclaims, true_and, Members.last?_settled,
            Members.last?_settledMembers]
          constructor
          · intro h
            split at h
            · next s hsubject =>
                split at h
                · cases h
                · next hs =>
                    cases h
                    obtain ⟨x, hx, hsettled⟩ := Option.map_eq_some_iff.mp hsubject
                    exact ⟨eq_claim_of_settled (b := .user s) hsettled ▸ hx, by simpa using hs⟩
            · next s hsubject =>
                cases h
                obtain ⟨x, hx, hsettled⟩ := Option.map_eq_some_iff.mp hsubject
                exact ⟨eq_claim_of_settled (b := .garbled s) hsettled ▸ hx, by simp⟩
            · cases h
          · rintro ⟨hsubject, hfilled⟩
            rw [hsubject]
            cases b with
            | user id => exact if_neg fun hid => hfilled (by rw [hid])
            | garbled mended => rfl

/-! ## Signatures -/

theorem length_digest (message : Bytes) : (Sha256.digest message).length = 32 := rfl

theorem signature_ne_nil (secret : String) (text : Bytes) : signature secret text ≠ [] := by
  intro h
  have hlength := congrArg List.length h
  rw [signature, Sha256.hmac, length_digest] at hlength
  cases hlength

theorem segmented_unique {token head payload tag head' payload' tag' : Bytes}
    (h : Segmented token head payload tag) (h' : Segmented token head' payload' tag') :
    head = head' ∧ payload = payload' ∧ tag = tag' := by
  have hsegments := segments?_eq_some_iff.mpr ⟨h, rfl⟩
  rw [segments?_eq_some_iff.mpr ⟨h', rfl⟩] at hsegments
  cases hsegments
  exact ⟨rfl, rfl, rfl⟩

theorem authentic_of_accepted {text : String} {now : Int} {b : Bearer}
    (h : bearer authority text now = .ok b) : ∃ head payload tag claims,
      Segmented (Text.Utf8.encode text) head payload tag ∧
        Sealed authority head payload tag claims ∧ Names claims b ∧ Unexpired claims now := by
  obtain ⟨claims, hopened, hclaims, hnames⟩ := bearer_eq_ok_iff.mp h
  obtain ⟨head, payload, tag, hsegments, hsealed⟩ := opened_eq_ok_iff.mp hopened
  exact ⟨head, payload, tag, claims, hsegments, hsealed, hnames, unexpired_of_checkClaims hclaims⟩

theorem sealed_of_accepted {text : String} {now : Int} {b : Bearer}
    {head payload tag : Bytes} (hsegments : Segmented (Text.Utf8.encode text) head payload tag)
    (h : bearer authority text now = .ok b) :
    ∃ claims, Sealed authority head payload tag claims ∧ Names claims b := by
  obtain ⟨_, _, _, claims, hsegments', hsealed, hnames, -⟩ := authentic_of_accepted h
  obtain ⟨rfl, rfl, rfl⟩ := segmented_unique hsegments hsegments'
  exact ⟨claims, hsealed, hnames⟩

/-- The signature has no say in who the bearer is. -/
theorem bearer_of_segments {text text' : String} {now now' : Int} {b b' : Bearer}
    {head payload tag tag' : Bytes}
    (hsegments : Segmented (Text.Utf8.encode text) head payload tag)
    (hsegments' : Segmented (Text.Utf8.encode text') head payload tag')
    (h : bearer authority text now = .ok b) (h' : bearer authority text' now' = .ok b') : b = b' := by
  obtain ⟨claims, hsealed, hnames⟩ := sealed_of_accepted hsegments h
  obtain ⟨claims', hsealed', hnames'⟩ := sealed_of_accepted hsegments' h'
  cases hsealed.opens.symm.trans hsealed'.opens
  exact names_unique hnames hnames'

/-- Segments that are not signed, whatever the claims, are refused at any time, if it comes to that:
the header is read first. -/
theorem bearer_of_not_signed {text : String} {head payload tag : Bytes}
    (hsegments : Segmented (Text.Utf8.encode text) head payload tag)
    (h : ¬ Signed authority head payload tag) (now : Int) :
    bearer authority text now = .error .refused ∨
      object authority.depth.header head = .error .tooDeep ∧
        bearer authority text now = .error .tooDeep := by
  rw [bearer, check, opened_of_not_signed hsegments h]
  cases hobject : object authority.depth.header head with
  | ok header => exact .inl rfl
  | error failure =>
      rcases failure_of_object hobject with rfl | rfl
      · exact .inl rfl
      · exact .inr ⟨rfl, rfl⟩

/-- Only a text that is signed and has not expired is accepted, on behalf of the bearer that its
payload names. So header and payload decide the bearer, at whatever time. A text is refused if its
signature is wrong or empty or if its header does not name the algorithm, unless the header is
nested too deep to be read. -/
theorem only_authentic_accepted (authority : Authority) :
    (∀ text now b, bearer authority text now = .ok b → ∃ head payload tag claims,
      Segmented (Text.Utf8.encode text) head payload tag ∧
        Sealed authority head payload tag claims ∧ Names claims b ∧ Unexpired claims now) ∧
    (∀ text text' now now' b b' head payload tag tag',
      Segmented (Text.Utf8.encode text) head payload tag →
      Segmented (Text.Utf8.encode text') head payload tag' →
      bearer authority text now = .ok b → bearer authority text' now' = .ok b' → b = b') ∧
    (∀ text now head payload tag, Segmented (Text.Utf8.encode text) head payload tag →
      Base64.decode? tag ≠ some (signature authority.secret (head ++ point :: payload)) ∨ tag = [] ∨
        (∀ header, object authority.depth.header head = .ok header →
          Members.last? "alg" header ≠ some (.str algorithm)) →
      bearer authority text now = .error .refused ∨
        object authority.depth.header head = .error .tooDeep ∧
          bearer authority text now = .error .tooDeep) := by
  refine ⟨fun _ _ _ => authentic_of_accepted, fun _ _ _ _ _ _ _ _ _ _ => bearer_of_segments, ?_⟩
  intro text now head payload tag hsegments hwrong
  refine bearer_of_not_signed hsegments (fun hsigned => ?_) now
  rcases hwrong with hwrong | rfl | hwrong
  · exact hwrong hsigned.signed
  · exact signature_ne_nil _ _ (Option.some.inj hsigned.signed).symm
  · obtain ⟨header, hheader, halg⟩ := hsigned.header
    exact hwrong header hheader halg

theorem visitor_believed :
    ∃ text, bearer visitorAuthority text 1700000000999 = .ok (.user "Zoë") ∧
      ∃ head payload tag claims, Segmented (Text.Utf8.encode text) head payload tag ∧
        Sealed visitorAuthority head payload tag claims ∧ Names claims (.user "Zoë") ∧
        Unexpired claims 1700000000999 := by
  have hgood := goodThrough visitorAuthority (by decide) (by decide) ordinary_visitor (by decide)
    (show (1700001800 : Int).natAbs < 10 ^ 20 by decide)
  have haccepted := (hgood.accepted 1700000000999 rfl (by decide)).1
  exact ⟨_, haccepted, (only_authentic_accepted visitorAuthority).1 _ _ _ haccepted⟩

end Noticeboard.Token
