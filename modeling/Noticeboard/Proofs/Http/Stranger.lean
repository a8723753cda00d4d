import Noticeboard.Proofs.Http.Respond

/-!
Requests of strangers: those that bring no token, or one that is refused. Whatever they ask for,
they are turned away before anything is looked up, so that the response is the same on every
store, and nothing happens to the store or to anything else.
-/

namespace Noticeboard
namespace Http

/-- Whether a request is accepted as nobody's at a time, for want of a token. -/
inductive Stranger (authority : Token.Authority) (r : Request) (now : Int) : Prop
  | silent (h : r.authorization? = none)
  | otherScheme {value : String} (h : r.authorization? = some value)
      (hscheme : credentials? value = none)
  | refused {value token : String} (h : r.authorization? = some value)
      (htoken : credentials? value = some token)
      (hrefused : Token.bearer authority token now = .error .refused)

variable {authority : Token.Authority} {r : Request} {now : Int}

theorem Stranger.bearerAt (h : Stranger authority r now) :
    ∃ detail, bearerAt authority r now = .error (.unauthenticated detail) := by
  cases h with
  | silent h => exact ⟨_, by rw [Http.bearerAt, h]; rfl⟩
  | otherScheme h hscheme =>
      refine ⟨"Not authenticated", ?_⟩
      rw [Http.bearerAt, h, Option.bind_some, hscheme]
  | refused h htoken hrefused =>
      refine ⟨"Invalid credentials", ?_⟩
      rw [Http.bearerAt, h, Option.bind_some, htoken]
      simp only [hrefused]
      rfl

namespace App

/-- The endpoint of a request turns a stranger away and leaves the desk as it is. A body that is no
document is noticed first. -/
theorem run_serve_stranger (app : App) (endpoint : Endpoint) (id : String)
    (h : Stranger app.authority r now) :
    ∃ refusal : Refusal,
      refusal.response.status =
        (if endpoint = .create ∧ ¬ (Document.read (.bytes r.body)).isOk then 400 else 401) ∧
      ∀ d : Desk, d.clock = now →
        (ExceptT.run (app.serve r endpoint id)).run d = (.error refusal, d) := by
  obtain ⟨detail, hbearer⟩ := h.bearerAt
  have turned {α : Type} (f : Token.Bearer → Handler α) (d : Desk) (hd : d.clock = now) :
      (ExceptT.run (bearerOf app.authority r >>= f)).run d =
        (.error (.unauthenticated detail), d) := by
    apply Plan.run_exceptBind_error
    rw [run_bearerOf, hd, hbearer]
  cases endpoint with
  | create =>
      cases hread : Document.read (.bytes r.body) with
      | error problems =>
          refine ⟨.refused 400 "cannot parse request body", rfl, fun d _ => ?_⟩
          simp only [serve, create, hread]
          rfl
      | ok payload =>
          refine ⟨.unauthenticated detail, rfl, fun d hd => ?_⟩
          simp only [serve, create, hread]
          exact turned _ d hd
  | list | countUnread | markAllRead | find | markRead | delete =>
      exact ⟨.unauthenticated detail, rfl, turned _⟩

end App

/-- A stranger's request at any endpoint has one response at a given time, whatever is in the
store, and leaves everything as it is: no row is touched, and no identifier is drawn. The response
is a refusal for want of a token, but for a body to be stored that is no document. -/
theorem strangers_learn_nothing (app : App) {endpoint : Endpoint} {id : String}
    (hroute : route r.verb r.path = .served endpoint id) (h : Stranger app.authority r now) :
    ∃ response : Response,
      response.status =
        (if endpoint = .create ∧ ¬ (Document.read (.bytes r.body)).isOk then 400 else 401) ∧
      ∀ d : Desk, d.clock = now → (app.respond r).run d = (response, d) := by
  obtain ⟨refusal, hstatus, hserve⟩ := app.run_serve_stranger endpoint id h
  refine ⟨app.spoken r (.error refusal), ?_, fun d hd => ?_⟩
  · rw [App.status_spoken, hstatus]
  · rw [app.respond_of_served hroute, Plan.run_bind, hserve d hd]
    rfl

def guardedApp : App where
  authority := ⟨"k", ⟨1, Nat.one_pos⟩, ⟨900, 900⟩⟩
  origins := []
  host := "h"

/-- A request to store a notice, with a token that nobody has signed. -/
def forgedRequest : Request where
  method := "POST"
  reference := ⟨[], [], [], none, "/notifications".toList, []⟩
  headers := [("authorization", "Bearer bob")]
  body := Text.Utf8.encode "\x7b\"message\":\"hi\",\"from\":\"cat\"\x7d"

theorem forged_token_turned_away :
    route forgedRequest.verb forgedRequest.path = .served .create "" ∧
    Stranger guardedApp.authority forgedRequest 5 ∧
    ∃ response : Response, response.status = 401 ∧ ∀ d : Desk, d.clock = 5 →
      (guardedApp.respond forgedRequest).run d = (response, d) := by
  have hroute : route forgedRequest.verb forgedRequest.path = .served .create "" := by
    decide +kernel
  have hvalue : forgedRequest.authorization? = some "Bearer bob" := by decide +kernel
  have htoken : credentials? "Bearer bob" = some "bob" := by decide +kernel
  have hstranger : Stranger guardedApp.authority forgedRequest 5 := .refused hvalue htoken rfl
  obtain ⟨response, hstatus, hrun⟩ := strangers_learn_nothing guardedApp hroute hstranger
  have hread : (Document.read (.bytes forgedRequest.body)).isOk = true := by
    decide +kernel
  refine ⟨hroute, hstranger, response, ?_, hrun⟩
  rw [hstatus, hread]
  rfl

end Http
end Noticeboard
