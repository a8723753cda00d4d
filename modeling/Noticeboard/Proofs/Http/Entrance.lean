import Noticeboard.Proofs.Service.Answers
import Noticeboard.Proofs.Service.Calls
import Noticeboard.Proofs.Service.Operation

/-!
The ways in which notices come in. There are two: a draft is completed and inserted, by itself or on
behalf of a request, or a new notice is created, by itself or on behalf of an event. What can be
said of these two can be said of every operation.
-/

namespace Noticeboard

open Plan

variable {A : (c : Call) → c.Answer → Prop} {P : Call → Prop}

namespace Service

theorem ensures_insert {draft : Draft} (h : P (.insert draft)) :
    (ExceptT.run (Action.insert draft)).Ensures A P (Gives fun _ => True) :=
  ensures_calls (makes_ofExcept (makes_ask h))

/-- Whether an action completes a draft so that it may be inserted. -/
abbrev Completes (A : (c : Call) → c.Answer → Prop) (P : Call → Prop) (draft : Draft) : Prop :=
  (ExceptT.run (completed draft)).Ensures A P (Gives fun d => P (.insert d))

/-- Whether new notices come in as they may. -/
abbrev CreatesNew (A : (c : Call) → c.Answer → Prop) (P : Call → Prop) : Prop :=
  ∀ recipient message sender board card,
    (ExceptT.run (createNew recipient message sender board card)).Ensures A P (Gives fun _ => True)

theorem ensures_create {draft : Draft} (h : Completes A P draft) :
    (ExceptT.run (create draft)).Ensures A P (Gives fun _ => True) :=
  ensures_exceptBind h fun _ hd => ensures_insert hd

theorem ensures_notifyAdded (hsilent : ∀ c, c.Silent → P c) (h : CreatesNew A P)
    (actor : Option Person) (recipient board : Option String) :
    (ExceptT.run (notifyAdded actor recipient board)).Ensures A P (Gives fun _ => True) := by
  unfold notifyAdded
  split
  · split
    · refine ensures_exceptBind (ensures_calls (makes_ofExcept (makes_ask (hsilent _ trivial))))
        fun found _ => ?_
      cases found with
      | none => trivial
      | some found => exact ensures_exceptBind (h _ _ _ _ _) fun _ _ => trivial
    · trivial
  · trivial

theorem ensures_notifyCard (h : CreatesNew A P) (event : CardEvent) (actor : Option Person)
    (recipient board card : Option String) (title : String) :
    (ExceptT.run (notifyCard event actor recipient board card title)).Ensures A P
      (Gives fun _ => True) := by
  unfold notifyCard
  split
  · split
    · exact ensures_exceptBind (h _ _ _ _ _) fun _ _ => trivial
    · trivial
  · trivial

end Service

/-! ## Requests -/

namespace Http

/-- The link that the body of a request supplies for a notice. -/
def Request.link (r : Request) : String :=
  match Document.read (.bytes r.body) with
  | .ok payload => payload.link
  | .error _ => ""

namespace App

theorem ensures_store (hsilent : ∀ c, c.Silent → P c) {draft : Draft}
    (h : Service.Completes A P draft) (bearer : Token.Bearer) :
    (ExceptT.run (store draft bearer)).Ensures A P (Gives fun _ => True) :=
  ensures_exceptBind h fun _ hd => ensures_calls (makes_tokenAsk hsilent _ fun _ _ =>
    makes_ofExcept (makes_ask hd))

theorem ensures_create (hsilent : ∀ c, c.Silent → P c) (app : App) {r : Request}
    (h : ∀ draft, draft.link = some r.link → Service.Completes A P draft) :
    (ExceptT.run (app.create r)).Ensures A P (Gives fun _ => True) := by
  rw [Request.link] at h
  rw [create]
  cases hbody : Document.read (.bytes r.body) with
  | error _ => trivial
  | ok payload =>
      rw [hbody] at h
      refine ensures_exceptBind (ensures_calls (makes_bearerOf hsilent _ _)) fun bearer _ => ?_
      dsimp only
      split
      · trivial
      · split
        · trivial
        · refine ensures_exceptBind (ensures_calls (makes_lift (makes_ask (hsilent _ trivial))))
            fun now _ => ?_
          refine ensures_exceptBind (ensures_lift (ensures_store hsilent (h _ rfl) _))
            fun result _ => ?_
          cases result with
          | ok n =>
              exact ensures_calls (makes_exceptBind (makes_lift (makes_ask (hsilent _ trivial)))
                fun _ => trivial)
          | error failure =>
              exact ensures_calls (makes_exceptBind (makes_lift (makes_noteOn hsilent _ _))
                fun _ => trivial)

end App
end Http

/-! ## Operations -/

namespace Service

/-- The link that an operation supplies for the notice that it creates, if it creates one. -/
def Operation.link : Operation → String
  | create draft => draft.link.getD ""
  | respond _ request => request.link
  | _ => ""

variable (hreads : ∀ c, c.Reads → P c) (hmark : ∀ id, P (.setRead id (some true)))
  (hdelete : ∀ id, P (.delete id)) (hdeleteFor : ∀ recipient, P (.deleteFor recipient))

include hreads hmark hdelete in
theorem ensures_respond (app : Http.App) {r : Http.Request}
    (h : ∀ draft, draft.link = some r.link → Completes A P draft) :
    (app.respond r).Ensures A P fun _ => True := by
  rcases app.respond_cases r with ⟨response, hdone⟩ | ⟨endpoint, id, _, hserve⟩
  · rw [hdone]
    trivial
  have hserves : (ExceptT.run (app.serve r endpoint id)).Ensures A P (Gives fun _ => True) := by
    by_cases hcreate : endpoint = .create
    · subst hcreate
      exact app.ensures_create (fun c hc => hreads c (c.reads_of_silent hc)) h
    · exact ensures_calls (app.makes_serve hreads r id (fun h => absurd h hcreate) (fun _ => hmark)
        fun _ => hdelete)
  rw [hserve]
  exact ensures_bind hserves fun _ _ => trivial

include hreads hmark hdelete hdeleteFor in
/-- An operation may make the calls that it makes, if it may complete drafts with the link that it
supplies, and may create new notices if it supplies none. -/
theorem Operation.ensures {o : Operation} (hboard : ∀ id title, o = .insertBoard id title →
    P (.insertBoard id title)) (hdraft : ∀ draft, draft.link.getD "" = o.link →
    Completes A P draft) (hnew : o.link = "" → CreatesNew A P) :
    o.plan.Ensures A P fun _ => True := by
  have hsilent : ∀ c, c.Silent → P c := fun c hc => hreads c (c.reads_of_silent hc)
  have creating {α : Type} {a : Action α}
      (h : (ExceptT.run a).Ensures A P (Gives fun _ => True)) :
      (ExceptT.run a).Ensures A P fun _ => True :=
    ensures_mono h fun _ _ => trivial
  have other {α : Type} {a : Action α} (h : (ExceptT.run a).Makes P) :
      (ExceptT.run a).Ensures A P fun _ => True :=
    ensures_of_makes h fun _ => trivial
  cases o with
  | create draft => exact creating (ensures_create (hdraft draft rfl))
  | createNew recipient message sender board card => exact creating (hnew rfl _ _ _ _ _)
  | notifyAdded actor recipient board =>
      exact creating (ensures_notifyAdded hsilent (hnew rfl) _ _ _)
  | notifyCard event actor recipient board card title =>
      exact creating (ensures_notifyCard (hnew rfl) _ _ _ _ _ _)
  | list recipient limit offset =>
      exact other (makes_list hsilent (fun _ _ _ _ => hreads _ trivial) _ _)
  | countUnread recipient => exact other (makes_countUnread fun _ _ => hreads _ trivial)
  | find id => exact other (makes_find fun _ _ => hreads _ trivial)
  | markRead id => exact other (makes_markRead fun _ _ => hmark _)
  | markAllRead recipient limit =>
      exact other (makes_markAllRead hsilent (fun _ _ _ _ => hreads _ trivial) hmark _)
  | delete id => exact other (makes_delete fun _ _ => hdelete _)
  | deleteFor recipient => exact other (makes_deleteFor fun _ _ => hdeleteFor _)
  | insertBoard id title => exact other (makes_ofExcept (makes_ask (hboard id title rfl)))
  | respond app r =>
      exact ensures_respond hreads hmark hdelete app fun draft hlink =>
        hdraft draft (by rw [hlink]; rfl)

end Service
end Noticeboard
