import Noticeboard.Proofs.Http.Reading
import Noticeboard.Proofs.Http.Routing

/-!
Notices that are posted. What a request describes is stored as one row for whoever makes the
request, and from then on its response, the notice itself, the listing and the count of unread
notices all speak of that one row, while nobody else gets to see it.
-/

namespace Noticeboard

open Token (Bearer)

/-- The row for a user that comes of what the body of a request describes. -/
def Store.posted (s : Store) (p : Notice) (user : String) (draw : Draw) (clock : Int) : Notice :=
  { p with
    id := Id.ofDraw Id.noticeTag draw
    recipient := user
    createdAt := clock
    link := s.linkOf p.link p.board p.card }

namespace Http

namespace App

variable {d : Desk} {p : Notice} {user : String}

theorem run_insert {draft : Draft} {n : Notice} {s' : Store}
    (h : d.store.insert draft = .ok (n, s')) (hreads : d.store.ReadsBack) :
    (ExceptT.run (Action.insert draft)).run d = (.ok n, { d with store := s' }) := by
  apply Action.run_ofExcept_ok
  rw [Plan.run_ask, Desk.perform, Store.save_stored h, hreads.notices]
  rfl

variable {t : NoticeTable} (h : d.store.Intact) (ht : d.store.notices = some t)
  (huser : user ≠ "") (hmessage : p.message ≠ "") (hsender : p.sender ≠ "")

include h ht huser hmessage hsender

/-- What a user describes is stored as one row. -/
theorem run_store {moment : Int} (hmoment : 0 < moment) (hfits : Int64.fits moment)
    (free : t.has (d.store.posted p user (d.supply d.drawn) moment).id = false) :
    (ExceptT.run (store { p with id := "", recipient := user, createdAt := moment }.draft
        (.user user))).run d =
      (.ok (d.store.posted p user (d.supply d.drawn) moment),
        { d with drawn := d.drawn + 1, store := d.store.withNotices (t.insert _ free) }) := by
  have hcompleted := Service.run_completed h (n := { p with
    id := "", recipient := user, createdAt := moment }) rfl huser hmessage hsender hmoment hfits
  rw [store, Plan.run_exceptBind_ok hcompleted]
  exact run_insert (d := { d with drawn := d.drawn + 1 }) (h.insert_draft ht hfits free)
    h.readsBack

theorem run_create (app : App) {r : Request}
    (hbearer : bearerAt app.authority r d.clock = .ok (.user user))
    (hbody : Document.read (.bytes r.body) = .ok p)
    (hclock : 0 < d.clock) (hfits : Int64.fits d.clock)
    (free : t.has (d.store.posted p user (d.supply d.drawn) d.clock).id = false) :
    (ExceptT.run (app.create r)).run d =
      (.ok (.json 201 (d.store.posted p user (d.supply d.drawn) d.clock).document),
        { d with drawn := d.drawn + 1, store := d.store.withNotices (t.insert _ free) }.noted
          (.created (d.store.posted p user (d.supply d.drawn) d.clock).id user)) := by
  have hstore := run_store h ht huser hmessage hsender hclock hfits free
  rw [create, hbody]
  dsimp only
  rw [run_bearerOf_bind hbearer]
  simp only [hmessage, hsender, ↓reduceIte]
  have hnow : (Plan.ask .now).run d = (d.clock, d) := rfl
  rw [Plan.run_lift_bind hnow]
  dsimp only [Token.Bearer.name]
  rw [Plan.run_lift_bind hstore]
  rfl

end App

/-! ## What becomes of a posted notice -/

/-- What holds of a notice that a request has stored for a user. -/
structure Delivered (app : App) (v : Visit) (s : Store) (user : String) (n : Notice) : Prop where
  created : (v.response app s).Says 201 n.document
  /-- There is one more row, and nothing else has changed. -/
  gained : ∃ t, s.notices = some t ∧ ∃ free : t.has n.id = false,
    v.after app s = s.withNotices (t.insert n free)
  /-- The path of the notice is none of the fixed paths. -/
  addressed : endpointsAt (Target.pathOf n.id) = [(.find, n.id), (.delete, n.id)]
  found : ∀ w : Visit, w.bearer? app = some (.user user) → w.request.verb = "GET" →
    w.request.path = Target.pathOf n.id → (w.response app (v.after app s)).Says 200 n.document
  withheld : ∀ (w : Visit) (b : Bearer), w.bearer? app = some b → b ≠ .user user →
    w.named? = some n.id → (w.response app (v.after app s)).status = 403
  /-- A listing without bounds shows the notice once. -/
  listed : ∀ (w : Visit) (id : String) (settings : Settings) (limit offset : Int),
    w.bearer? app = some (.user user) → route w.request.verb w.request.path = .served .list id →
    w.settings = .ok settings →
    parameter "limit" settings.pageSize.val (w.request.parameter? "limit") = .ok limit →
    parameter "offset" 0 (w.request.parameter? "offset") = .ok offset →
    limit ≤ 0 ∧ offset ≤ 0 →
    ∃ above below : List Notice, (∀ m ∈ above ++ below, m.id ≠ n.id) ∧
      (w.response app (v.after app s)).Says 200
        (.arr ((above ++ n :: below).map Notice.document))
  /-- The notice counts as unread unless it has been posted as read. -/
  counted : ∀ (w : Visit) (id : String), w.bearer? app = some (.user user) →
    route w.request.verb w.request.path = .served .countUnread id →
    ∃ k : Nat, (w.response app s).Says 200 (.obj [("count", .int k)]) ∧
      (w.response app (v.after app s)).Says 200
        (.obj [("count", .int (k + if n.read then 0 else 1 : Nat))])

variable {app : App} {v : Visit} {s : Store} {user id : String} {n p : Notice}

theorem delivered_of_inserted {t : NoticeTable} (hs : s.Intact) (ht : s.notices = some t)
    (haddressable : Addressable n.id) (hrecipient : n.recipient = user)
    (created : (v.response app s).Says 201 n.document) (free : t.has n.id = false)
    (hafter : v.after app s = s.withNotices (t.insert n free)) : Delivered app v s user n := by
  have hintact : (v.after app s).Intact := by
    rw [hafter]
    exact hs.withNotices _
  have hnotices : (v.after app s).notices = some (t.insert n free) := by rw [hafter]; rfl
  have hrow : (v.after app s).noticeAt n.id = some n := by
    simp [Store.noticeAt, hnotices, Table.find?_insert]
  refine ⟨created, ⟨t, ht, free, hafter⟩, endpointsAt_pathOf haddressable, ?found, ?withheld,
    ?listed, ?counted⟩
  case found =>
    intro w hw hverb hpath
    have hroute : route w.request.verb w.request.path = .served .find n.id := by
      rw [hverb, hpath, route_pathOf haddressable]
    exact Visit.says_found hintact hw hroute haddressable.filled hrow hrecipient
  case withheld =>
    -- The row is there, so it can only be refused as that of somebody else.
    intro w b hw hother hnamed
    have hforeign : ¬ (v.after app s).Holds b (some n.id) := by
      rintro ⟨k, m, hk, hm, hown⟩
      cases hk
      rw [hrow] at hm
      cases hm
      exact hother (hrecipient ▸ Bearer.owns_iff.mp hown)
    have hworks : ((v.after app s).noticesFor .findNotice).isSome := by
      rw [hintact.noticesFor, hnotices]
      rfl
    rw [(Visit.run_respond hw hnamed hforeign).1, App.status_spoken,
      Store.status_withheld haddressable.filled hworks, hrow]
    rfl
  case listed =>
    -- The row stands somewhere in the listing, and its identifier nowhere else.
    intro w id settings limit offset hw hroute hsettings hlimit hoffset hunbounded
    have hlist := Store.list_unbounded ((hintact.noticesFor _).trans hnotices) hunbounded.1
      hunbounded.2 user
    have hsays := (Visit.run_listing hw hroute hsettings hlimit hoffset hlist).1
    obtain ⟨above, below, hsplit, _⟩ := Store.listing_split (t := t.insert n free)
      (List.mem_cons_self (a := n))
    rw [hrecipient] at hsplit
    refine ⟨above, below, ?_, hsplit ▸ hsays⟩
    have hdistinct := Store.nodup_listing_id (t.insert n free) user
    rw [hsplit, List.map_append, List.map_cons, List.nodup_middle, List.nodup_cons,
      ← List.map_append] at hdistinct
    intro m hm hid
    exact hdistinct.1 (List.mem_map.mpr ⟨m, hm, hid⟩)
  case counted =>
    intro w id hw hroute
    refine ⟨_, Visit.says_count hs hw hroute ht, ?_⟩
    have hgained : (if (user = n.recipient && !n.read) = true then 1 else 0) =
        if n.read then 0 else 1 := by
      cases n.read <;> simp [hrecipient]
    have hsays := Visit.says_count hintact hw hroute hnotices
    rw [Table.rows_insert, List.countP_cons, hgained] at hsays
    exact hsays

section Posting

variable (hs : s.Intact) (hroute : route v.request.verb v.request.path = .served .create id)
  (hb : v.bearer? app = some (.user user)) (hclock : 0 < v.clock) (hfits : Int64.fits v.clock)
  (hfree : s.noticeAt (Id.ofDraw Id.noticeTag v.draw) = none)
  (hbody : Document.read (.bytes v.request.body) = .ok p) (hmessage : p.message ≠ "")
  (hsender : p.sender ≠ "")

include hs hroute hb hclock hfits hfree hbody hmessage hsender

theorem run_posting :
    ∃ t, s.notices = some t ∧
      ∃ free : t.has (s.posted p user v.draw v.clock).id = false,
        v.response app s =
            app.spoken v.request (.ok (.json 201 (s.posted p user v.draw v.clock).document)) ∧
          (v.response app s).Says 201 (s.posted p user v.draw v.clock).document ∧
          v.after app s = s.withNotices (t.insert _ free) := by
  obtain ⟨t, ht, free⟩ := hs.free_of_noticeAt hfree
  have hrun := App.run_create (d := v.desk s) hs ht (Visit.filled_of_bearer hb) hmessage hsender app
    (Visit.bearerAt_eq_ok_iff.mpr hb) hbody hclock hfits free
  obtain ⟨hresponse, hafter⟩ := Visit.run_of_serve hroute hrun
  exact ⟨t, ht, free, hresponse, Visit.says_of_run hroute hrun, hafter⟩

/-- A request to store a notice is answered with the row that is stored, and all that is told later
of notices speaks of that row and to nobody else. What the body says of the identifier, the
recipient and the creation time changes nothing. -/
theorem posting_agrees :
    Delivered app v s user (s.posted p user v.draw v.clock) ∧
      ∀ (body : Text.Bytes) (i r : String) (m : Int),
        Document.read (.bytes body) = .ok { p with id := i, recipient := r, createdAt := m } →
        let v' : Visit := { v with request := { v.request with body } }
        v'.response app s = v.response app s ∧ v'.after app s = v.after app s := by
  obtain ⟨t, ht, free, hresponse, hsays, hafter⟩ :=
    run_posting hs hroute hb hclock hfits hfree hbody hmessage hsender
  refine ⟨delivered_of_inserted hs ht (addressable_ofDraw v.draw) rfl hsays free hafter, ?_⟩
  -- The row does not depend on these fields, and the response on nothing else of the body.
  intro body i r m hbody' v'
  obtain ⟨t', ht', free', hresponse', _, hafter'⟩ :=
    run_posting (v := v') hs hroute hb hclock hfits hfree hbody' hmessage hsender
  obtain rfl := Option.some.inj (ht.symm.trans ht')
  exact ⟨hresponse'.trans hresponse.symm, hafter'.trans hafter.symm⟩

end Posting

/-- A request of bob's for a notice on a board that there is none of. -/
def boardVisit : Visit :=
  visitWith "POST" "/notifications"
    ("eyJhbGciOiJIUzI1NiIsInR5cCI6IkpXVCJ9.eyJzdWIiOiJib2IifQ" ++
      ".y3Z01X_iNu4mwJ9yH_8_xurIF7e7kc_34Xy5wWrmr_4")
    "\x7b\"message\":\"hi\",\"from\":\"cat\",\"userID\":\"ann\",\"boardID\":\"b\"\x7d" 1

theorem board_notice_delivered :
    Reachable .empty ∧
    route boardVisit.request.verb boardVisit.request.path = .served .create "" ∧
    boardVisit.bearer? plainApp = some (.user "bob") ∧
    Document.read (.bytes boardVisit.request.body) =
      .ok ⟨"", "ann", "hi", "cat", 0, false, "", "b", ""⟩ ∧
    Delivered plainApp boardVisit .empty "bob"
      ⟨Id.ofDraw Id.noticeTag 1, "bob", "hi", "cat", 5, false, "", "b", ""⟩ := by
  have hroute : route boardVisit.request.verb boardVisit.request.path = .served .create "" := by
    decide +kernel
  have hb : boardVisit.bearer? plainApp = some (.user "bob") := by decide +kernel
  have hbody : Document.read (.bytes boardVisit.request.body) =
      .ok ⟨"", "ann", "hi", "cat", 0, false, "", "b", ""⟩ := by
    decide +kernel
  exact ⟨.empty, hroute, hb, hbody, (posting_agrees Reachable.empty.intact hroute hb (by decide)
    (by decide) rfl hbody (by decide) (by decide)).1⟩

end Http
end Noticeboard
