import Noticeboard.Proofs.Http.Respond
import Noticeboard.Proofs.Token.Stumbling

/-!
How authentication ends. Whatever stands in the header of a request and whatever the time is, the
request is made on behalf of somebody, or it is refused with a challenge to bring a token. The only
exceptions are tokens over which their check stumbles, which it does already over a header that is
nested too deep.
-/

namespace Noticeboard.Http

/-- Whether it is known on whose behalf a request is made, or it is refused for want of a token. -/
inductive Settled : Except Refusal Token.Bearer → Prop
  | known {b : Token.Bearer} (h : b.name ≠ "") : Settled (.ok b)
  | challenged {refusal : Refusal} (hstatus : refusal.response.status = 401)
      (hheader : refusal.response.headers = [("www-authenticate", "Bearer")]) :
      Settled (.error refusal)

theorem settled_unauthenticated (detail : String) : Settled (.error (.unauthenticated detail)) :=
  .challenged rfl rfl

theorem not_settled_broken : ¬ Settled (.error .broken) := by
  rintro (_ | ⟨hstatus, -⟩)
  exact absurd hstatus (by decide)

/-- Whether a request brings a token over which its check stumbles at a time. -/
def Request.BreaksAt (r : Request) (authority : Token.Authority) (now : Int) : Prop :=
  ∃ token, r.authorization?.bind credentials? = some token ∧
    Token.BreaksAt authority token now

theorem Refusal.ofToken_of_ne {failure : Token.CheckFailure} (h : failure ≠ .refused) :
    ofToken failure = .broken := by
  cases failure with
  | refused => exact absurd rfl h
  | momentNotNumber | momentInfinite | outOfYears | tooDeep => rfl

theorem bearerAt_of_breaks {authority : Token.Authority} {r : Request} {now : Int}
    (h : r.BreaksAt authority now) : bearerAt authority r now = .error .broken := by
  obtain ⟨token, htoken, hbreaks⟩ := h
  obtain ⟨failure, hbearer, hne⟩ := Token.breaks_bearer_iff.mpr hbreaks
  rw [bearerAt, htoken]
  simp only [hbearer, Except.mapError, Refusal.ofToken_of_ne hne]

theorem settled_bearerAt {authority : Token.Authority} {r : Request} {now : Int}
    (h : ¬ r.BreaksAt authority now) : Settled (bearerAt authority r now) := by
  rw [bearerAt]
  cases htoken : r.authorization?.bind credentials? with
  | none => exact settled_unauthenticated _
  | some token =>
      dsimp only
      cases hbearer : Token.bearer authority token now with
      | ok b => exact .known (Token.name_of_bearer hbearer)
      | error failure =>
          by_cases hfailure : failure = .refused
          · subst hfailure
            exact settled_unauthenticated _
          · exact absurd ⟨token, htoken, Token.breaks_bearer_iff.mp ⟨failure, hbearer, hfailure⟩⟩ h

/-- A token is accepted with its claims or refused, and a request is made on behalf of somebody or
refused with a challenge, at any time and whatever the header holds, exactly if no check stumbles.
Where one does, the request breaks without an explanation. Nothing is changed in any case. -/
theorem authentication_settled_unless_stumbling (authority : Token.Authority) (token : String)
    (now : Int) (r : Request) (d : Desk) :
    ((∃ claims, Token.check authority token now = .ok claims) ∨
      Token.check authority token now = .error .refused ↔ ¬ Token.BreaksAt authority token now) ∧
    ∃ result, (ExceptT.run (bearerOf authority r)).run d = (result, d) ∧
      (Settled result ↔ ¬ r.BreaksAt authority d.clock) ∧
      (result = .error .broken ↔ r.BreaksAt authority d.clock) := by
  refine ⟨?_, bearerAt authority r d.clock, run_bearerOf authority r d, ?_⟩
  · rw [← Token.breaks_check_iff]
    exact Token.ok_or_refused_iff
  · by_cases h : r.BreaksAt authority d.clock
    · rw [bearerAt_of_breaks h]
      exact ⟨iff_of_false not_settled_broken (not_not_intro h), iff_of_true rfl h⟩
    · have hsettled := settled_bearerAt h
      refine ⟨iff_of_true hsettled h, iff_of_false (fun hbroken => ?_) h⟩
      exact not_settled_broken (hbroken ▸ hsettled)

/-- A token that is signed and says that it expires at no moment. -/
def timelessToken : String :=
  "eyJhbGciOiJIUzI1NiIsInR5cCI6IkpXVCJ9.eyJzdWIiOiJ1MSIsImV4cCI6bnVsbH0." ++
    "f6ewxLEkkQ83PH5AR8uqZKo80tdKWF1EOec9R5qP7DU"

/-- The authority that signed the token. -/
def timelessAuthority : Token.Authority where
  secret := "test-secret"
  minutes := ⟨15, by decide⟩
  depth := ⟨900, 900⟩

def timelessRequest : Request where
  method := "GET"
  reference := ⟨[], [], [], none, "/notifications".toList, []⟩
  headers := [("authorization", "Bearer " ++ timelessToken)]
  body := []

/-- The token is neither accepted nor refused, and whoever sends it is not told to bring another. -/
theorem timeless_token_breaks :
    ¬ ((∃ claims, Token.check timelessAuthority timelessToken 1700000000000 = .ok claims) ∨
      Token.check timelessAuthority timelessToken 1700000000000 = .error .refused) ∧
    bearerAt timelessAuthority timelessRequest 1700000000000 = .error .broken ∧
    ¬ Settled (bearerAt timelessAuthority timelessRequest 1700000000000) := by
  have hbearer : Token.bearer timelessAuthority timelessToken 1700000000000 =
      .error .momentNotNumber := by
    decide +kernel
  have hbroken : bearerAt timelessAuthority timelessRequest 1700000000000 =
      .error .broken := by
    decide +kernel
  have hcheck := Token.breaks_check_iff.mpr
    (Token.breaks_bearer_iff.mp ⟨_, hbearer, by decide⟩)
  exact ⟨fun h => Token.ok_or_refused_iff.mp h hcheck, hbroken, hbroken ▸ not_settled_broken⟩

end Noticeboard.Http
