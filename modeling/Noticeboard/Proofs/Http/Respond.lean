import Noticeboard.Http.App
import Noticeboard.Proofs.Service.Along

/-!
What a response is made of: whom the request speaks for at the time, the endpoint that serves it,
and how the result of that endpoint is put into a response. A request that no endpoint serves
has a response that asks nothing of the world.
-/

namespace Noticeboard
namespace Http

/-- The bearer on whose behalf a request is made at a time, or why it is not accepted. -/
def bearerAt (authority : Token.Authority) (r : Request) (now : Int) :
    Except Refusal Token.Bearer :=
  match r.authorization?.bind credentials? with
  | none => .error (.unauthenticated "Not authenticated")
  | some token => (Token.bearer authority token now).mapError .ofToken

theorem run_bearerOf (authority : Token.Authority) (r : Request) (d : Desk) :
    (ExceptT.run (bearerOf authority r)).run d = (bearerAt authority r d.clock, d) := by
  rw [bearerOf, bearerAt]
  cases r.authorization?.bind credentials? with
  | none => rfl
  | some token =>
      dsimp only
      rw [Plan.run_exceptBind, Plan.run_lift]
      simp only [Plan.ask, Plan.run_call, Plan.run_done, Desk.perform]
      cases Token.bearer authority token d.clock <;> rfl

theorem run_bearerOf_bind {α : Type} {authority : Token.Authority} {r : Request} {d : Desk}
    {b : Token.Bearer} (hb : bearerAt authority r d.clock = .ok b)
    (f : Token.Bearer → Handler α) :
    (ExceptT.run (bearerOf authority r >>= f)).run d = (ExceptT.run (f b)).run d := by
  rw [Plan.run_exceptBind, run_bearerOf, hb]

/-- Whether the paths of an endpoint hold an identifier. -/
def Endpoint.names (e : Endpoint) : Bool :=
  match e.target with
  | .notice _ => true
  | .fixed _ => false

theorem verb_of_route {verb : String} {path : List Char} {e : Endpoint} {id : String}
    (h : route verb path = .served e id) : e.verb = verb := by
  rw [route] at h
  split at h
  · next hfind =>
      cases h
      simpa using List.find?_some hfind
  · split at h <;> cases h

theorem ne_head_of_route {verb : String} {path : List Char} {e : Endpoint} {id : String}
    (h : route verb path = .served e id) : verb ≠ "HEAD" := by
  rw [← verb_of_route h]
  cases e <;> decide

namespace App

def spoken (app : App) (r : Request) (result : Except Refusal Response) : Response :=
  let headers := ((CrossOrigin.origin? app.origins r).map (CrossOrigin.headers app.origins)).getD []
  if r.verb = "HEAD" then (answered headers result).bare else answered headers result

theorem asked_of_served {r : Request} {endpoint : Endpoint} {id : String}
    (h : route r.verb r.path = .served endpoint id) : CrossOrigin.asked? r = none := by
  rw [CrossOrigin.asked?]
  rw [← verb_of_route h]
  cases endpoint <;> rfl

theorem respond_of_served (app : App) {r : Request} {endpoint : Endpoint} {id : String}
    (h : route r.verb r.path = .served endpoint id) :
    app.respond r = ExceptT.run (app.serve r endpoint id) >>= fun result =>
      .done (app.spoken r result) := by
  have hdispatch : app.dispatch r = app.serve r endpoint id := by rw [dispatch, h]
  have hanswer : app.answer r = ExceptT.run (app.serve r endpoint id) >>= fun result =>
      .done (answered (((CrossOrigin.origin? app.origins r).map
        (CrossOrigin.headers app.origins)).getD []) result) := by
    rw [answer]
    cases CrossOrigin.origin? app.origins r with
    | none => rw [hdispatch]; rfl
    | some origin => simp only [asked_of_served h, hdispatch]; rfl
  rw [respond, hanswer, Plan.bind_assoc]
  rfl

theorem respond_of_unserved (app : App) {r : Request}
    (h : ∀ endpoint id, route r.verb r.path ≠ .served endpoint id) :
    ∃ response, app.respond r = .done response := by
  obtain ⟨result, hresult⟩ : ∃ result, ExceptT.run (app.dispatch r) = .done result := by
    rw [dispatch]
    cases hroute : route r.verb r.path with
    | served endpoint id => exact absurd hroute (h endpoint id)
    | otherVerb allowed => exact ⟨_, rfl⟩
    | unknown =>
        rw [elsewhere]
        dsimp only
        split <;> exact ⟨_, rfl⟩
  obtain ⟨response, hanswer⟩ : ∃ response, app.answer r = .done response := by
    rw [answer]
    rw [hresult]
    split
    · exact ⟨_, rfl⟩
    · split <;> exact ⟨_, rfl⟩
  exact ⟨_, by rw [respond, hanswer]; rfl⟩

/-- A request is served by one endpoint, or else its response is settled at once. -/
theorem respond_cases (app : App) (r : Request) :
    (∃ response, app.respond r = .done response) ∨
      ∃ endpoint id, route r.verb r.path = .served endpoint id ∧
        app.respond r = ExceptT.run (app.serve r endpoint id) >>= fun result =>
          .done (app.spoken r result) := by
  by_cases h : ∃ endpoint id, route r.verb r.path = .served endpoint id
  · obtain ⟨endpoint, id, hroute⟩ := h
    exact .inr ⟨endpoint, id, hroute, app.respond_of_served hroute⟩
  · exact .inl (app.respond_of_unserved fun endpoint id hroute => h ⟨endpoint, id, hroute⟩)

theorem status_spoken (app : App) (r : Request) (refusal : Refusal) :
    (app.spoken r (.error refusal)).status = refusal.response.status := by
  rw [spoken]
  split <;> cases refusal <;> rfl

end App
end Http
end Noticeboard
