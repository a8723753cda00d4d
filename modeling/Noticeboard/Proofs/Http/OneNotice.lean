import Noticeboard.Proofs.Http.Posting

/-!
Requests for one notice: to read it, to mark it as read, or to delete it. They are decided by the
row under the identifier in the path, and whatever else is stored has no part in them. Where there
is no such row, or it is somebody else's, they change nothing; otherwise they act on that row alone.
-/

namespace Noticeboard

open Token (Bearer)

/-! ## Paths -/

namespace Http

/-- The path at which an endpoint takes an identifier. -/
def Endpoint.pathFor (e : Endpoint) (id : String) : List Char :=
  match e.target with
  | .notice after => Target.pathOf id ++ after.toList
  | .fixed path => path.toList

/-- Whether an endpoint is for one notice, and its path for an identifier can be told from the fixed
paths of the same method. A fixed path may be followed by one line feed. -/
structure Endpoint.Takes (e : Endpoint) (id : String) : Prop where
  names : e.names
  filled : id ≠ ""
  unslashed : '/' ∉ id.toList
  notCount : e = .find → ¬ Target.isText "unread_count" id.toList

variable {e : Endpoint} {id : String}

open Target in
theorem Endpoint.Takes.identifier? (h : e.Takes id) :
    e.target.identifier? (e.pathFor id) = some id := by
  have own (after : String) (hafter : after.toList.head?.all (· = '/')) :
      (notice after).identifier? (pathOf id ++ after.toList) = some id :=
    (identifier?_segment h.filled h.unslashed _ hafter after).trans (if_pos (by simp [isText]))
  cases e with
  | list | create | countUnread | markAllRead => cases h.names
  | find | delete => exact own "" rfl
  | markRead => exact own "/read" rfl

open Target in
theorem Endpoint.Takes.route (h : e.Takes id) : route e.verb (e.pathFor id) = .served e id := by
  cases e with
  | list | create | countUnread | markAllRead => cases h.names
  | find =>
      refine route_of_skipped [.list, .create, .countUnread, .markAllRead] _ rfl rfl h.identifier?
        fun f hf hverb => ?_
      have hpath : pathFor .find id = pathOf id := List.append_nil _
      cases f with
      | list => exact hpath ▸ identifier?_root id.toList
      | countUnread => exact hpath ▸ identifier?_fixed (h.notCount rfl) rfl
      | create | markAllRead => exact absurd hverb (by decide)
      | find | markRead | delete => exact absurd hf (by decide)
  | markRead =>
      refine route_of_skipped [.list, .create, .countUnread, .markAllRead, .find] _ rfl rfl
        h.identifier? fun f hf hverb => ?_
      cases f with
      | markAllRead =>
          -- The word has no slash, and the path has one behind the identifier.
          have other : ¬ isText "mark_all_as_read" (id.toList ++ "/read".toList) :=
            not_isText_of_slash (by decide) (by simp)
          have hpath : pathFor .markRead id =
              (root ++ "/").toList ++ (id.toList ++ "/read".toList) := List.append_assoc _ _ _
          exact hpath ▸ identifier?_fixed other rfl
      | list | create | countUnread | find => exact absurd hverb (by decide)
      | markRead | delete => exact absurd hf (by decide)
  | delete =>
      refine route_of_skipped [.list, .create, .countUnread, .markAllRead, .find, .markRead] _ rfl
        rfl h.identifier? fun f hf hverb => ?_
      cases f with
      | delete => exact absurd hf (by decide)
      | _ => exact absurd hverb (by decide)

/-! ## What endpoints do for the owner -/

/-- What the owner of a notice is told. -/
def Endpoint.told (n : Notice) : Endpoint → Json
  | .find => n.document
  | _ => .obj []

/-- The rows that an endpoint leaves when the owner of one of them asks. -/
def Endpoint.left (id : String) (rows : List Notice) : Endpoint → List Notice
  | .markRead => rows.map fun n => if n.id = id then { n with read := true } else n
  | .delete => rows.filter (·.id ≠ id)
  | _ => rows

end Http

namespace Store

variable {s : Store} {t : NoticeTable} {id : String} {n : Notice}

theorem Intact.setRead (h : s.Intact) (ht : s.notices = some t) (hn : s.noticeAt id = some n)
    (read : Bool) :
    s.setRead (some id) (some read) =
      .ok (s.withNotices (t.update (marked id read) (id_marked id read))) := by
  rw [setRead_present ht (has_of_noticeAt ht hn), h.broken]
  rfl

theorem Intact.delete (h : s.Intact) (ht : s.notices = some t) (id : String) :
    s.delete (some id) = .ok (s.withNotices (t.remove fun n => some id = some n.id)) := by
  simp only [Store.delete, removeWhere, ht, h.broken, Bool.and_false, Bool.false_eq_true,
    ↓reduceIte]
  rfl

end Store

namespace Service

variable {d : Desk} {id : String} {s' : Store}

theorem run_markRead (hid : id ≠ "") (h : d.store.setRead (some id) (some true) = .ok s') :
    (ExceptT.run (markRead (some id))).run d = (.ok (), { d with store := s' }) := by
  rw [markRead, Plan.run_exceptBind_ok (run_required hid d)]
  apply Action.run_ofExcept_ok
  rw [Plan.run_ask, Desk.perform, h]
  rfl

theorem run_delete (hid : id ≠ "") (h : d.store.delete (some id) = .ok s') :
    (ExceptT.run (delete (some id))).run d = (.ok (), { d with store := s' }) := by
  rw [delete, Plan.run_exceptBind_ok (run_required hid d)]
  apply Action.run_ofExcept_ok
  rw [Plan.run_ask, Desk.perform, h]
  rfl

end Service

namespace Http

/-- The owner of a notice is served, and the endpoint acts on the row of that notice alone. -/
theorem App.run_serve_owned (app : App) {r : Request} {d : Desk} {t : NoticeTable} {n : Notice}
    {e : Endpoint} {id : String} (h : d.store.Intact) (ht : d.store.notices = some t)
    (hnames : e.names) (hid : id ≠ "") (hn : d.store.noticeAt id = some n)
    (hb : bearerAt app.authority r d.clock = .ok (.user n.recipient)) :
    ∃ d', (ExceptT.run (app.serve r e id)).run d = (.ok (.json 200 (e.told n)), d') ∧
      ∃ t' : NoticeTable, t'.rows = e.left id t.rows ∧ d'.store = d.store.withNotices t' := by
  have hbearer (f : Bearer → Handler Response) := run_bearerOf_bind hb f
  have howned := run_owned_ok h hid hn rfl
  cases e with
  | create | list | countUnread | markAllRead => cases hnames
  | find =>
      refine ⟨d, ?_, t, rfl, ?_⟩
      · refine (hbearer _).trans ?_
        rw [Plan.run_exceptBind_ok (run_doing_ok howned)]
        rfl
      · rw [Store.withNotices_self ht]
  | markRead =>
      have hmarked := Service.run_markRead hid (h.setRead ht hn true)
      have hmarking : (ExceptT.run (owned id (.user n.recipient) >>= fun _ =>
          Service.markRead (some id) >>= fun _ =>
          (return .json 200 (.obj []) : Action Response))).run d = _ :=
        (Plan.run_exceptBind_ok howned _).trans (Plan.run_exceptBind_ok hmarked _)
      have hrun : (ExceptT.run (app.serve r .markRead id)).run d = _ :=
        (hbearer _).trans (run_doing_ok hmarking)
      exact ⟨_, hrun, t.update (Store.marked id true) (Store.id_marked id true), rfl, rfl⟩
  | delete =>
      have hdeleted := Service.run_delete hid (h.delete ht id)
      have hdeletion : (ExceptT.run (owned id (.user n.recipient) >>= fun _ =>
          Service.delete (some id))).run d = _ :=
        (Plan.run_exceptBind_ok howned _).trans hdeleted
      have hrun : (ExceptT.run (app.serve r .delete id)).run d = _ :=
        (hbearer _).trans (Plan.run_lift_bind hdeletion _)
      refine ⟨_, hrun, t.remove fun n => some id = some n.id, ?_, rfl⟩
      simp [Endpoint.left, eq_comm]

/-! ## Requests for one notice -/

/-- Whether a request asks an endpoint for one notice on behalf of a bearer. -/
structure Visit.Asks (app : App) (v : Visit) (b : Bearer) (e : Endpoint) (id : String) : Prop where
  takes : e.Takes id
  bearer : v.bearer? app = some b
  verb : v.request.verb = e.verb
  path : v.request.path = e.pathFor id

theorem App.says_refused (app : App) {r : Request} (hverb : r.verb ≠ "HEAD") (status : Nat)
    (detail : String) : (app.spoken r (.error (.refused status detail))).Says status
      (.obj [("detail", .str detail)]) := by
  rw [App.spoken, if_neg hverb]
  exact ⟨rfl, rfl⟩

namespace Visit

variable {app : App} {v : Visit} {b : Bearer} {e : Endpoint} {id : String} {s s' : Store}

namespace Asks

variable (h : v.Asks app b e id)

include h

theorem route : route v.request.verb v.request.path = .served e id := by
  rw [h.verb, h.path, h.takes.route]

theorem named : v.named? = some id := by
  rw [named?, h.route]
  exact if_pos h.takes.names

/-- A bearer who does not own the notice is refused, for a reason that depends only on whether it
is there. -/
theorem refused (hs : s.Intact) (hforeign : ¬ s.Holds b (some id)) :
    v.response app s = app.spoken v.request (.error
      (if (s.noticeAt id).isSome then
        .refused 403 "user doesn't have permission to this notification"
      else .refused 404 "notification not found")) ∧
      v.after app s = s := by
  obtain ⟨hresponse, hafter⟩ := run_respond h.bearer h.named hforeign
  refine ⟨?_, hafter⟩
  rw [hresponse, Store.withheld, if_neg h.takes.filled, hs.find id]
  cases s.noticeAt id <;> rfl

theorem absent (hs : s.Intact) (hid : s.noticeAt id = none) :
    v.response app s =
        app.spoken v.request (.error (.refused 404 "notification not found")) ∧
      v.after app s = s := by
  have hforeign : ¬ s.Holds b (some id) := by
    rintro ⟨k, n, hk, hn, _⟩
    cases hk
    cases hid.symm.trans hn
  have hrefused := h.refused hs hforeign
  rwa [hid] at hrefused

theorem foreign (hs : s.Intact) {n : Notice} (hn : s.noticeAt id = some n)
    (hother : b.owns n = false) :
    v.response app s = app.spoken v.request (.error
        (.refused 403 "user doesn't have permission to this notification")) ∧
      v.after app s = s := by
  have hforeign : ¬ s.Holds b (some id) := by
    rintro ⟨k, m, hk, hm, hown⟩
    cases hk
    cases hn.symm.trans hm
    cases hother.symm.trans hown
  have hrefused := h.refused hs hforeign
  rwa [hn] at hrefused

theorem owned (hs : s.Intact) {t : NoticeTable} (ht : s.notices = some t) {n : Notice}
    (hn : s.noticeAt id = some n) (hown : b.owns n = true) :
    (v.response app s).Says 200 (e.told n) ∧
      ∃ t' : NoticeTable, t'.rows = e.left id t.rows ∧ v.after app s = s.withNotices t' := by
  have hb := Bearer.owns_iff.mp hown ▸ h.bearer
  obtain ⟨d', hrun, t', hrows, hstore⟩ := app.run_serve_owned (d := v.desk s) hs ht h.takes.names
    h.takes.filled hn (bearerAt_eq_ok_iff.mpr hb)
  exact ⟨says_of_run h.route hrun, t', hrows, (run_of_serve h.route hrun).2.trans hstore⟩

theorem owned_of_ok (hs : s.Intact) (hok : (v.response app s).status = 200) :
    ∃ n, s.noticeAt id = some n ∧ b.owns n = true := by
  have hverb := ne_head_of_route h.route
  cases hn : s.noticeAt id with
  | none =>
      rw [(h.absent hs hn).1, (app.says_refused hverb _ _).1] at hok
      cases hok
  | some n =>
      cases hown : b.owns n with
      | true => exact ⟨n, rfl, hown⟩
      | false =>
          rw [(h.foreign hs hn hown).1, (app.says_refused hverb _ _).1] at hok
          cases hok

end Asks

/-- What is deleted is gone. -/
theorem absent_after_delete (h : v.Asks app b .delete id) (hs : s.Intact)
    (hok : (v.response app s).status = 200) : (v.after app s).noticeAt id = none := by
  obtain ⟨n, hn, hown⟩ := h.owned_of_ok hs hok
  obtain ⟨t, ht⟩ := Option.isSome_iff_exists.mp hs.notices
  obtain ⟨_, t', hrows, hafter⟩ := h.owned hs ht hn hown
  rw [hafter, Store.noticeAt, Store.notices_withNotices, Option.bind_some, Table.find?, hrows]
  simp [Endpoint.left]

/-- To mark what is marked already changes nothing. -/
theorem after_markRead_twice {w : Visit} (h : v.Asks app b .markRead id)
    (hw : w.Asks app b .markRead id) (hs : s.Intact) (hok : (v.response app s).status = 200) :
    (w.response app (v.after app s)).Says 200 (.obj []) ∧
      w.after app (v.after app s) = v.after app s := by
  obtain ⟨n, hn, hown⟩ := h.owned_of_ok hs hok
  obtain ⟨t, ht⟩ := Option.isSome_iff_exists.mp hs.notices
  obtain ⟨_, t', hrows, hafter⟩ := h.owned hs ht hn hown
  obtain rfl : t' = t.update (Store.marked id true) (Store.id_marked id true) := Table.ext hrows
  have hrow : (v.after app s).noticeAt id = some (Store.marked id true n) := by
    rw [Store.noticeAt, ht, Option.bind_some] at hn
    rw [hafter, Store.noticeAt, Store.notices_withNotices, Option.bind_some, Table.find?_update, hn,
      Option.map_some]
  have hagain : (v.after app s).Intact := hafter ▸ hs.withNotices _
  have hnotices := congrArg Store.notices hafter
  obtain ⟨htold, t'', hrows', hafter'⟩ :=
    hw.owned hagain hnotices hrow ((b.owns_marked id true n).trans hown)
  -- The flag of the row is set already, so the table comes out as it was.
  have hsame : t'' = t.update (Store.marked id true) (Store.id_marked id true) := by
    apply Table.ext
    rw [hrows', hrows]
    simp only [Endpoint.left, List.map_map]
    apply List.map_congr_left
    intro m _
    by_cases hm : m.id = id <;> simp [hm]
  exact ⟨htold, by rw [hafter', hsame, hafter]; rfl⟩

end Visit

/-! ## What comes later -/

end Http

/-- Whether a call on a store creates a row under an identifier. -/
def Call.Creates (s : Store) (id : String) (c : Call) : Prop :=
  ∃ draft n s', c = .insert draft ∧ s.insert draft = .ok (n, s') ∧ n.id = id

/-- The stores that come of one by carrying out plans, until one of them creates a row under an
identifier. -/
inductive UntilCreated (id : String) (s : Store) : Store → Prop
  | refl : UntilCreated id s s
  | run {α : Type} (p : Plan α) {d : Desk} (h : UntilCreated id s d.store)
      (hp : p.Along (fun s c => ¬ c.Creates s id) d) : UntilCreated id s (p.run d).2.store

namespace UntilCreated

variable {id : String} {s s' : Store} (h : UntilCreated id s s')

include h

theorem intact (hs : s.Intact) : s'.Intact := by
  induction h with
  | refl => exact hs
  | run p _ _ ih => exact p.intact_run ih

theorem absent (hid : s.noticeAt id = none) : s'.noticeAt id = none := by
  induction h with
  | refl => exact hid
  | run p _ hp ih =>
      refine Plan.related_of_along (R := fun s s' => s.noticeAt id = none → s'.noticeAt id = none)
        (fun _ h => h) (fun h h' hid => h' (h hid)) (fun d c hc hid => ?_) hp ih
      exact Store.absent_of_effect (d.effect_perform c) hid fun draft n hdraft hinsert hn =>
        hc ⟨draft, n, _, hdraft, hinsert, hn⟩

end UntilCreated

namespace Http

/-- What becomes of a request that asks an endpoint for one notice on behalf of a bearer. -/
structure ActsOnOne (app : App) (v : Visit) (b : Bearer) (e : Endpoint) (id : String) : Prop where
  /-- The response is the same on every store without such a notice. -/
  absent : ∃ r : Response, r.Says 404 (.obj [("detail", .str "notification not found")]) ∧
    ∀ s : Store, s.Intact → s.noticeAt id = none → v.response app s = r ∧ v.after app s = s
  /-- The response is the same whatever the notice of somebody else is. -/
  foreign : ∃ r : Response,
    r.Says 403 (.obj [("detail", .str "user doesn't have permission to this notification")]) ∧
    ∀ (s : Store) (n : Notice), s.Intact → s.noticeAt id = some n → b.owns n = false →
      v.response app s = r ∧ v.after app s = s
  owned : ∀ (s : Store) (t : NoticeTable) (n : Notice), s.Intact → s.notices = some t →
    s.noticeAt id = some n → b.owns n = true →
    (v.response app s).Says 200 (e.told n) ∧
      ∃ t' : NoticeTable, t'.rows = e.left id t.rows ∧ v.after app s = s.withNotices t'
  /-- Whoever asks for what has been deleted is told that it is not there. -/
  deleted : e = .delete → ∀ s s' : Store, s.Intact → (v.response app s).status = 200 →
    UntilCreated id (v.after app s) s' → ∀ (w : Visit) (b' : Bearer) (e' : Endpoint),
      w.Asks app b' e' id →
      (w.response app s').Says 404 (.obj [("detail", .str "notification not found")]) ∧
        w.after app s' = s'
  repeated : e = .markRead → ∀ s : Store, s.Intact → (v.response app s).status = 200 →
    ∀ w : Visit, w.Asks app b .markRead id →
      (w.response app (v.after app s)).Says 200 (.obj []) ∧
        w.after app (v.after app s) = v.after app s

/-- Whether the fixed paths below that of all notices lead to endpoints of their own, whatever is
stored under their last words. -/
structure FixedPathsLead (app : App) : Prop where
  markAllRead : ∀ r : Request, r.verb = "PUT" →
    Target.isText "/notifications/mark_all_as_read" r.path →
    app.dispatch r = app.serve r .markAllRead ""
  countUnread : ∀ r : Request, r.verb = "GET" → Target.isText "/notifications/unread_count" r.path →
    app.dispatch r = app.serve r .countUnread ""

theorem fixedPathsLead (app : App) : FixedPathsLead app where
  markAllRead r hverb hpath := by
    have hroute : route r.verb r.path = .served .markAllRead "" := by
      refine route_of_skipped [.list, .create, .countUnread] _ rfl hverb.symm (if_pos hpath)
        fun f hf hf' => ?_
      rw [hverb] at hf'
      cases f with
      | list | create | countUnread => exact absurd hf' (by decide)
      | markAllRead | find | markRead | delete => exact absurd hf (by decide)
    rw [App.dispatch, hroute]
  countUnread r hverb hpath := by
    have hroute : route r.verb r.path = .served .countUnread "" := by
      refine route_of_skipped [.list, .create] _ rfl hverb.symm (if_pos hpath) fun f hf hf' => ?_
      rw [hverb] at hf'
      cases f with
      | list =>
          rcases Target.isText_iff.mp hpath with hpath | hpath <;>
            · rw [hpath]
              decide
      | create => exact absurd hf' (by decide)
      | countUnread | markAllRead | find | markRead | delete => exact absurd hf (by decide)
    rw [App.dispatch, hroute]

/-- A request for one notice is decided by the row under its identifier and acts on that row alone.
The words of the fixed paths are no identifiers to the methods of those paths. -/
theorem one_notice_decides {app : App} {v : Visit} {b : Bearer} {e : Endpoint} {id : String}
    (h : v.Asks app b e id) : ActsOnOne app v b e id ∧ FixedPathsLead app := by
  have hverb := ne_head_of_route h.route
  refine ⟨⟨?absent, ?foreign, ?owned, ?deleted, ?repeated⟩, fixedPathsLead app⟩
  case absent => exact ⟨_, app.says_refused hverb _ _, fun s hs => h.absent hs⟩
  case foreign => exact ⟨_, app.says_refused hverb _ _, fun s n hs => h.foreign hs⟩
  case owned => exact fun s t n hs ht => h.owned hs ht
  case deleted =>
    rintro rfl s s' hs hok hlater w b' e' hw
    have hafter : (v.after app s).Intact := Plan.intact_run _ hs
    obtain ⟨hresponse, hkept⟩ := hw.absent (hlater.intact hafter)
      (hlater.absent (Visit.absent_after_delete h hs hok))
    exact ⟨hresponse ▸ app.says_refused (ne_head_of_route hw.route) _ _, hkept⟩
  case repeated =>
    rintro rfl s hs hok w hw
    exact Visit.after_markRead_twice h hw hs hok

/-- A request of bob's without a body. -/
def bobsVisit (method path : String) : Visit :=
  { boardVisit with
    request :=
      { boardVisit.request with
        method
        reference := ⟨[], [], [], none, path.toList, []⟩
        body := [] } }

theorem bobs_deletion_decided :
    (bobsVisit "DELETE" "/notifications/n").Asks plainApp (.user "bob") .delete "n" ∧
    ActsOnOne plainApp (bobsVisit "DELETE" "/notifications/n") (.user "bob") .delete "n" ∧
    FixedPathsLead plainApp := by
  have hasks : (bobsVisit "DELETE" "/notifications/n").Asks plainApp (.user "bob") .delete "n" :=
    ⟨⟨rfl, by decide, by decide, nofun⟩, by decide +kernel, by decide +kernel, by decide +kernel⟩
  exact ⟨hasks, one_notice_decides hasks⟩

/-- A notice under the last word of a fixed path, with a line feed after it. -/
def lineFeedNotice : Notice := ⟨"unread_count\n", "bob", "hi", "cat", 5, false, "", "", ""⟩

def lineFeedStore : Store := Store.empty.withNotices (Table.empty.insert lineFeedNotice rfl)

theorem reachable_lineFeedStore : Reachable lineFeedStore := by
  have hinsert : Store.empty.insert lineFeedNotice.draft = .ok (lineFeedNotice, lineFeedStore) :=
    Store.intact_empty.insert_draft rfl (by decide) rfl
  have hstore : ((Plan.ask (.insert lineFeedNotice.draft)).run (boardVisit.desk .empty)).2.store =
      lineFeedStore := by
    rw [Plan.run_ask, Desk.perform, Desk.store_saving, Desk.store_save]
    exact congrArg (Desk.kept Store.empty) hinsert
  exact hstore ▸ Reachable.empty.run _

/-- Such a notice cannot be read by its owner: the request is taken for one to count. -/
theorem line_feed_hides_notice :
    Reachable lineFeedStore ∧ lineFeedStore.noticeAt "unread_count\n" = some lineFeedNotice ∧
    ("unread_count\n" ≠ "" ∧ '/' ∉ "unread_count\n".toList ∧ "unread_count\n" ≠ "unread_count") ∧
    let v := bobsVisit "GET" "/notifications/unread_count%0A"
    v.bearer? plainApp = some (.user lineFeedNotice.recipient) ∧ v.request.verb = "GET" ∧
    v.request.path = Endpoint.pathFor .find "unread_count\n" ∧
    (v.response plainApp lineFeedStore).Says 200 (.obj [("count", .int 1)]) ∧
    ¬ (v.response plainApp lineFeedStore).Says 200 lineFeedNotice.document := by
  have hb : (bobsVisit "GET" "/notifications/unread_count%0A").bearer? plainApp =
      some (.user "bob") := by
    decide +kernel
  have hroute : route (bobsVisit "GET" "/notifications/unread_count%0A").request.verb
      (bobsVisit "GET" "/notifications/unread_count%0A").request.path =
        .served .countUnread "" := by
    decide +kernel
  have htold := Visit.says_count reachable_lineFeedStore.intact hb hroute rfl
  refine ⟨reachable_lineFeedStore, by decide, by decide, hb, by decide +kernel, by decide +kernel,
    htold, fun h => ?_⟩
  have hmembers := congrArg List.length (Json.obj.inj (Body.json.inj (h.2.symm.trans htold.2)))
  exact absurd hmembers (by decide)

end Http
end Noticeboard
