import Noticeboard.Proofs.Http.Isolation
import Noticeboard.Proofs.Service.Creation
import Noticeboard.Proofs.Store.Listing

/-!
What users are told of their notices where the store is intact: a notice by its identifier, the
whole listing, and the count of those that are unread.
-/

namespace Noticeboard

theorem Token.filled_of_bearer {authority : Authority} {token user : String} {now : Int}
    (h : Token.bearer authority token now = .ok (.user user)) : user ≠ "" := by
  rw [Token.bearer] at h
  split at h
  · cases h
  · split at h
    · split at h
      · cases h
      · next hfilled =>
          cases h
          exact hfilled
    · cases h
    · cases h

namespace Service

variable {d : Desk} {user : String}

theorem run_list (huser : user ≠ "") {limit offset : Int} {rows : List Notice}
    (h : d.store.list (some user) limit offset = .ok rows) :
    (ExceptT.run (list (some user) (some limit) offset)).run d = (.ok rows, d) := by
  rw [list, Plan.run_exceptBind_ok (run_required huser d), Plan.run_exceptBind_ok (x := limit) rfl]
  apply Action.run_ofExcept_ok
  rw [Plan.run_ask, Desk.perform, h]
  rfl

theorem run_countUnread (huser : user ≠ "") {count : Nat}
    (h : d.store.countUnread (some user) = .ok count) :
    (ExceptT.run (countUnread (some user))).run d = (.ok count, d) := by
  rw [countUnread, Plan.run_exceptBind_ok (run_required huser d)]
  apply Action.run_ofExcept_ok
  rw [Plan.run_ask, Desk.perform, h]
  rfl

end Service

namespace Http

/-! ## Responses that say something -/

/-- Whether a response has a status and a value as its body. -/
def Response.Says (r : Response) (status : Nat) (value : Json) : Prop :=
  r.status = status ∧ r.body = .json value

theorem App.says_spoken (app : App) {r : Request} (hverb : r.verb ≠ "HEAD") (status : Nat)
    (value : Json) : (app.spoken r (.ok (.json status value))).Says status value := by
  rw [App.spoken, if_neg hverb]
  exact ⟨rfl, rfl⟩

namespace Visit

variable {app : App} {v : Visit} {s : Store} {user id : String} {endpoint : Endpoint}

theorem filled_of_bearer (h : v.bearer? app = some (.user user)) : user ≠ "" := by
  have hbearer := bearerAt_eq_ok_iff.mpr h
  rw [bearerAt] at hbearer
  split at hbearer
  · cases hbearer
  · next token _ =>
      cases htoken : Token.bearer app.authority token v.clock with
      | error _ => rw [htoken] at hbearer; cases hbearer
      | ok b =>
          rw [htoken] at hbearer
          cases hbearer
          exact Token.filled_of_bearer htoken

theorem run_of_serve (hroute : route v.request.verb v.request.path = .served endpoint id)
    {result : Except Refusal Response} {d' : Desk}
    (h : (ExceptT.run (app.serve v.request endpoint id)).run (v.desk s) = (result, d')) :
    v.response app s = app.spoken v.request result ∧ v.after app s = d'.store := by
  rw [response, after, app.respond_of_served hroute, Plan.run_bind, h]
  exact ⟨rfl, rfl⟩

theorem says_of_run (hroute : route v.request.verb v.request.path = .served endpoint id)
    {status : Nat} {value : Json} {d' : Desk}
    (h : (ExceptT.run (app.serve v.request endpoint id)).run (v.desk s) =
      (.ok (.json status value), d')) : (v.response app s).Says status value := by
  rw [(run_of_serve hroute h).1]
  exact app.says_spoken (ne_head_of_route hroute) status value

/-- The bearer of a request is found out first, whatever the endpoint does with it. -/
theorem run_bearerOf (hb : v.bearer? app = some (.user user)) (f : Token.Bearer → Handler Response)
    (s : Store) :
    (ExceptT.run (bearerOf app.authority v.request >>= f)).run (v.desk s) =
      (ExceptT.run (f (.user user))).run (v.desk s) := by
  exact run_bearerOf_bind (d := v.desk s) (bearerAt_eq_ok_iff.mpr hb) f

end Visit

namespace App

variable {d : Desk} {t : NoticeTable} {user : String}

theorem run_doing_ok {α : Type} {a : Action α} {x : α} {d' : Desk}
    (ha : (ExceptT.run a).run d = (.ok x, d')) :
    (ExceptT.run (doing a)).run d = (.ok x, d') := by
  change (ExceptT.run a >>= _).run d = _
  rw [Plan.run_bind, ha]
  rfl

section Pages

variable {r : Request} {settings : Settings} (hsettings : d.settings = .ok settings)

include hsettings

theorem run_settings_ok : (ExceptT.run Action.settings).run d = (.ok settings, d) := by
  apply Action.run_ofExcept_ok
  rw [Plan.run_ask, Desk.perform, hsettings]

theorem run_page {limit offset : Int}
    (hlimit : parameter "limit" settings.pageSize.val (r.parameter? "limit") = .ok limit)
    (hoffset : parameter "offset" 0 (r.parameter? "offset") = .ok offset) (huser : user ≠ "")
    {rows : List Notice} (hlist : d.store.list (some user) limit offset = .ok rows) :
    (ExceptT.run (page r (.user user))).run d = (.ok rows, d) := by
  rw [page, Plan.run_exceptBind_ok (run_settings_ok hsettings), hlimit,
    Plan.run_exceptBind_ok (x := limit) rfl, hoffset, Plan.run_exceptBind_ok (x := offset) rfl]
  exact Service.run_list huser hlist

end Pages

variable (h : d.store.Intact)

include h

theorem run_owned_ok {id : String} (hid : id ≠ "") {n : Notice} (hn : d.store.noticeAt id = some n)
    (hrecipient : n.recipient = user) :
    (ExceptT.run (owned id (.user user))).run d = (.ok n, d) := by
  have hfind : d.store.find (some id) = .ok (some n) := hn ▸ h.find id
  have hask : (ExceptT.run (Service.find (some id))).run d = (.ok (some n), d) := by
    rw [Service.find, Plan.run_exceptBind_ok (Service.run_required hid d)]
    apply Action.run_ofExcept_ok
    rw [Plan.run_ask, Desk.perform, hfind]
    rfl
  rw [owned, Plan.run_exceptBind_ok hask]
  simp only [Token.Bearer.owns, hrecipient, decide_true, ↓reduceIte]
  rfl

theorem run_countUnread (huser : user ≠ "") (ht : d.store.notices = some t) :
    (ExceptT.run (Service.countUnread (some user))).run d =
      (.ok (t.rows.countP fun n => user = n.recipient && !n.read), d) := by
  apply Service.run_countUnread huser
  simp [Store.countUnread, h.noticesFor, ht]

end App

namespace Visit

variable {app : App} {v : Visit} {s : Store} {user id : String} {t : NoticeTable}

theorem run_listing (hb : v.bearer? app = some (.user user))
    (hroute : route v.request.verb v.request.path = .served .list id)
    {settings : Settings} (hsettings : v.settings = .ok settings) {limit offset : Int}
    (hlimit : parameter "limit" settings.pageSize.val (v.request.parameter? "limit") = .ok limit)
    (hoffset : parameter "offset" 0 (v.request.parameter? "offset") = .ok offset)
    {rows : List Notice} (hlist : s.list (some user) limit offset = .ok rows) :
    (v.response app s).Says 200 (.arr (rows.map Notice.document)) ∧ v.after app s = s := by
  have hpage := App.run_page (d := v.desk s) hsettings hlimit hoffset (filled_of_bearer hb) hlist
  have hrun : (ExceptT.run (app.serve v.request .list id)).run (v.desk s) =
      (.ok (.json 200 (.arr (rows.map Notice.document))), v.desk s) := by
    refine (run_bearerOf hb _ s).trans ?_
    rw [Plan.run_exceptBind_ok (App.run_doing_ok hpage)]
    rfl
  exact ⟨says_of_run hroute hrun, (run_of_serve hroute hrun).2⟩

variable (h : s.Intact) (hb : v.bearer? app = some (.user user))

include h hb

theorem says_found (hroute : route v.request.verb v.request.path = .served .find id)
    (hid : id ≠ "") {n : Notice} (hn : s.noticeAt id = some n) (hrecipient : n.recipient = user) :
    (v.response app s).Says 200 n.document := by
  have howned := App.run_owned_ok (d := v.desk s) h hid hn hrecipient
  have hrun : (ExceptT.run (app.serve v.request .find id)).run (v.desk s) =
      (.ok (.json 200 n.document), v.desk s) := by
    refine (run_bearerOf hb _ s).trans ?_
    rw [Plan.run_exceptBind_ok (App.run_doing_ok howned)]
    rfl
  exact says_of_run hroute hrun

theorem says_count (hroute : route v.request.verb v.request.path = .served .countUnread id)
    (ht : s.notices = some t) :
    (v.response app s).Says 200 (.obj [("count",
      .int (t.rows.countP fun n => user = n.recipient && !n.read))]) := by
  have hcount := App.run_countUnread (d := v.desk s) h (filled_of_bearer hb) ht
  have hrun : (ExceptT.run (app.serve v.request .countUnread id)).run (v.desk s) =
      (.ok (.json 200 (.obj [("count",
        .int (t.rows.countP fun n => user = n.recipient && !n.read))])), v.desk s) := by
    refine (run_bearerOf hb _ s).trans ?_
    dsimp only [Token.Bearer.ask]
    rw [Plan.run_exceptBind_ok (App.run_doing_ok hcount)]
    rfl
  exact says_of_run hroute hrun

end Visit
end Http
end Noticeboard
