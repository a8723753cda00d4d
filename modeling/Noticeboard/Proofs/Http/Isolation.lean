import Noticeboard.Proofs.Http.Serve

/-!
Users are isolated. In a sequence of requests by anybody, the answers to one user's requests and
the notices that the user has in the end are the same as if the others had made no request at
all. A user can at most tell whether an identifier that is not one of the user's own notices is
taken.
-/

namespace Noticeboard

open Token (Bearer)

namespace Http

/-! ## Sequences of requests -/

/-- A request and what is settled before it is served: the time, the random bits, and the
settings. -/
structure Visit where
  request : Request
  clock : Int
  draw : Draw
  settings : Except Settings.Failure Settings

namespace Visit

def desk (v : Visit) (s : Store) : Desk where
  store := s
  clock := v.clock
  supply := fun _ => v.draw
  drawn := 0
  settings := v.settings
  log := []

/-- Who makes the request, if it is accepted as anybody's. -/
def bearer? (app : App) (v : Visit) : Option Bearer :=
  (bearerAt app.authority v.request v.clock).toOption

def isBy (app : App) (u : Bearer) (v : Visit) : Bool := v.bearer? app = some u

/-- The identifier for the notice that the request may create. -/
def generated? (v : Visit) : Option String :=
  if v.request.verb = Endpoint.create.verb then some (Id.ofDraw Id.noticeTag v.draw) else none

/-- The identifier of the one notice that the request is about. -/
def named? (v : Visit) : Option String :=
  match route v.request.verb v.request.path with
  | .served endpoint id => if endpoint.names then some id else none
  | .otherVerb _ | .unknown => none

def response (app : App) (v : Visit) (s : Store) : Response :=
  ((app.respond v.request).run (v.desk s)).1

def after (app : App) (v : Visit) (s : Store) : Store :=
  ((app.respond v.request).run (v.desk s)).2.store

end Visit

/-- A request that was served, with the store before it and the response to it. -/
structure Answered where
  visit : Visit
  before : Store
  response : Response

/-- The requests of a sequence, each with its response. -/
def answers (app : App) : List Visit → Store → List Answered
  | [], _ => []
  | v :: rest, s => ⟨v, s, v.response app s⟩ :: answers app rest (v.after app s)

def final (app : App) : List Visit → Store → Store
  | [], s => s
  | v :: rest, s => final app rest (v.after app s)

/-- Whether the generated identifiers are distinct, and none of them is taken. -/
structure Fresh (visits : List Visit) (s : Store) : Prop where
  distinct : (visits.filterMap Visit.generated?).Nodup
  free : ∀ id ∈ visits.filterMap Visit.generated?, s.noticeAt id = none

/-- Whether a request is about a notice that the bearer does not own, and is refused: as
forbidden if there is such a notice, and as not found if there is none. -/
def Answered.Withheld (a : Answered) (u : Bearer) : Prop :=
  ∃ id, a.visit.named? = some id ∧ ¬ a.before.Holds u (some id) ∧
    a.response.status = if (a.before.noticeAt id).isSome then 403 else 404

/-- Whether a request has the same response twice, unless it is refused for a notice that the
bearer does not own: as forbidden the one time, and as not found the other. -/
def Answered.Alike (u : Bearer) (a a' : Answered) : Prop :=
  a.visit = a'.visit ∧ (a.response = a'.response ∨
    a.Withheld u ∧ a'.Withheld u ∧ a.response.status ≠ a'.response.status)

end Http

/-! ## One request -/

namespace Store

variable {u : Bearer} {s s' : Store}

theorem holds_iff_share {id : String} :
    s.Holds u (some id) ↔ ((s.share u).noticeAt id).isSome := by
  rw [noticeAt_share]
  constructor
  · rintro ⟨k, n, hk, hn, hu⟩
    cases hk
    simp [hn, hu]
  · intro h
    obtain ⟨n, hn⟩ := Option.isSome_iff_exists.mp h
    obtain ⟨hn, hu⟩ := Option.filter_eq_some_iff.mp hn
    exact ⟨id, n, rfl, hn, hu⟩

/-- Nothing is told of a notice but whether it is there. -/
theorem withheld_eq {id : String} (hid : id ≠ "") (h : (s.noticesFor .findNotice).isSome) :
    s.withheld id = if (s.noticeAt id).isSome then .notOwner else .noSuchNotice := by
  obtain ⟨t, ht⟩ := Option.isSome_iff_exists.mp h
  have hfind : s.find (some id) = .ok (s.noticeAt id) := by
    simp [find, noticeAt, ht, (noticesFor_eq_some_iff.mp ht).2]
  rw [withheld, if_neg hid, hfind]
  cases s.noticeAt id <;> rfl

theorem status_withheld {id : String} (hid : id ≠ "") (h : (s.noticesFor .findNotice).isSome) :
    (Http.Refusal.ofFailure (s.withheld id)).response.status =
      if (s.noticeAt id).isSome then 403 else 404 := by
  rw [withheld_eq hid h]
  cases s.noticeAt id <;> rfl

/-- Stores with the same share withhold a notice for the same reason, or they differ in whether it
is there. -/
theorem withheld_of_share (h : s.share u = s'.share u) (id : String) :
    s.withheld id = s'.withheld id ∨
      id ≠ "" ∧ (s.noticesFor .findNotice).isSome ∧ (s'.noticesFor .findNotice).isSome ∧
        (s.noticeAt id).isSome ≠ (s'.noticeAt id).isSome := by
  by_cases hid : id = ""
  · simp [withheld, hid]
  · have hboth : (s.noticesFor .findNotice).map (·.remove (!u.owns ·)) =
        (s'.noticesFor .findNotice).map (·.remove (!u.owns ·)) := by
      rw [← noticesFor_share, h, noticesFor_share]
    cases ht : s.noticesFor .findNotice with
    | none =>
        rw [ht] at hboth
        have ht' := Option.map_eq_none_iff.mp hboth.symm
        simp [withheld, hid, find, ht, ht']
    | some t =>
        have hworks' : (s'.noticesFor .findNotice).isSome := by
          rw [ht] at hboth
          simpa using congrArg Option.isSome hboth.symm
        by_cases hthere : (s.noticeAt id).isSome = (s'.noticeAt id).isSome
        · left
          rw [withheld_eq hid (by rw [ht]; rfl), withheld_eq hid hworks', hthere]
        · exact .inr ⟨hid, rfl, hworks', hthere⟩

end Store

namespace Http
namespace Visit

variable {app : App} {u b : Bearer} {v : Visit} {s s' : Store}

theorem bearerAt_eq_ok_iff :
    bearerAt app.authority v.request v.clock = .ok b ↔ v.bearer? app = some b := by
  rw [bearer?]
  cases bearerAt app.authority v.request v.clock <;> simp [Except.toOption]

theorem along_respond (hb : ∀ b', v.bearer? app = some b' → b' = b)
    (hnew : ∀ id, v.generated? = some id → s.noticeAt id = none)
    (hnames : ∀ id, v.bearer? app = some b → v.named? = some id → s.Holds b (some id)) :
    (app.respond v.request).Along (fun s c => c.Confined b v.generated? s) (v.desk s) := by
  rcases app.respond_cases v.request with ⟨response, h⟩ | ⟨endpoint, id, hroute, h⟩
  · rw [h]
    trivial
  · rw [h]
    refine Plan.along_bind (App.along_serve app v.request endpoint id
      (fun b' h => hb b' (bearerAt_eq_ok_iff.mp h)) ?_ ?_) trivial
    · rintro rfl
      have hgenerated : v.generated? = some (Id.ofDraw Id.noticeTag v.draw) :=
        if_pos (verb_of_route hroute).symm
      exact ⟨hgenerated, hnew _ hgenerated⟩
    · intro hb' hendpoint
      refine hnames id (bearerAt_eq_ok_iff.mp hb') ?_
      rw [named?, hroute]
      exact if_pos hendpoint

/-- A request about a notice that its bearer does not own is refused and changes nothing. -/
theorem run_respond {id : String} (hb : v.bearer? app = some b) (hid : v.named? = some id)
    (h : ¬ s.Holds b (some id)) :
    v.response app s = app.spoken v.request (.error (.ofFailure (s.withheld id))) ∧
      v.after app s = s := by
  rw [named?] at hid
  split at hid
  · next endpoint k hroute =>
      split at hid
      · next hnames =>
          cases hid
          obtain ⟨d', hserve, hstore⟩ := App.run_serve app v.request (d := v.desk s)
            (bearerAt_eq_ok_iff.mpr hb) hnames h
          have hrun : (app.respond v.request).run (v.desk s) =
              (app.spoken v.request (.error (.ofFailure (s.withheld id))), d') := by
            rw [app.respond_of_served hroute, Plan.run_bind, hserve]
            rfl
          rw [response, after, hrun]
          exact ⟨rfl, hstore⟩
      · cases hid
  · cases hid
  · cases hid

/-- A request leaves the store alone, or it stays with a bearer who owns nothing of what others
own. -/
theorem after_cases (app : App) (v : Visit) (s : Store)
    (hnew : ∀ id, v.generated? = some id → s.noticeAt id = none) :
    v.after app s = s ∨ ∃ b : Bearer, (∀ u, v.bearer? app ≠ some u → b.Apart u) ∧
      (app.respond v.request).Along (fun s c => c.Confined b v.generated? s) (v.desk s) := by
  cases hb : v.bearer? app with
  | none =>
      -- Who is nobody owns nothing.
      refine .inr ⟨.garbled "", ?_, along_respond ?_ hnew ?_⟩
      · intro u _ n hn
        cases hn
      all_goals
        rw [hb]
        intro _ h
        cases h
  | some b =>
      by_cases hown : ∀ id, v.named? = some id → s.Holds b (some id)
      · refine .inr ⟨b, fun u hu => Token.Bearer.apart_of_ne fun h => hu (congrArg some h),
          along_respond ?_ hnew fun id _ => hown id⟩
        rw [hb]
        exact fun _ h => (Option.some.inj h).symm
      · obtain ⟨id, hid⟩ := not_forall.mp hown
        obtain ⟨hnamed, hforeign⟩ := Classical.not_imp.mp hid
        exact .inl (run_respond hb hnamed hforeign).2

theorem share_after (hu : v.bearer? app ≠ some u)
    (hnew : ∀ id, v.generated? = some id → s.noticeAt id = none) :
    (v.after app s).share u = s.share u := by
  rcases after_cases app v s hnew with h | ⟨b, hapart, hrun⟩
  · rw [h]
  · exact Plan.share_run hrun (hapart u hu)

theorem noticeAt_after (hnew : ∀ id, v.generated? = some id → s.noticeAt id = none) {id : String}
    (hid : v.generated? ≠ some id) (hfree : s.noticeAt id = none) :
    (v.after app s).noticeAt id = none := by
  rcases after_cases app v s hnew with h | ⟨b, _, hrun⟩
  · rw [h, hfree]
  · exact Plan.noticeAt_run hrun hid hfree

/-- On two stores with the same share of its bearer, a request is answered alike and leaves the
same share. -/
theorem alike_of_share (hu : v.bearer? app = some u) (hshare : s.share u = s'.share u)
    (hnew : ∀ id, v.generated? = some id → s.noticeAt id = none)
    (hnew' : ∀ id, v.generated? = some id → s'.noticeAt id = none) :
    Answered.Alike u ⟨v, s, v.response app s⟩ ⟨v, s', v.response app s'⟩ ∧
      (v.after app s).share u = (v.after app s').share u := by
  have hsame (id : String) : s.Holds u (some id) ↔ s'.Holds u (some id) := by
    rw [Store.holds_iff_share, hshare, Store.holds_iff_share]
  by_cases hown : ∀ id, v.named? = some id → s.Holds u (some id)
  · -- The request stays with its bearer, so it runs on the share as it runs on either store.
    have hbearer : ∀ b', v.bearer? app = some b' → b' = u := by
      rw [hu]
      exact fun _ h => (Option.some.inj h).symm
    have hrun := Plan.run_share (along_respond hbearer hnew fun id _ => hown id)
    have hrun' := Plan.run_share (along_respond hbearer hnew' fun id _ hid =>
      (hsame id).mp (hown id hid))
    have hdesk : (v.desk s).share u = (v.desk s').share u := congrArg v.desk hshare
    rw [hdesk, hrun', Prod.mk.injEq] at hrun
    exact ⟨⟨rfl, .inl hrun.1.symm⟩, (congrArg Desk.store hrun.2).symm⟩
  · obtain ⟨id, hid⟩ := not_forall.mp hown
    obtain ⟨hnamed, hforeign⟩ := Classical.not_imp.mp hid
    have hforeign' : ¬ s'.Holds u (some id) := fun h => hforeign ((hsame id).mpr h)
    obtain ⟨hresponse, hafter⟩ := run_respond hu hnamed hforeign
    obtain ⟨hresponse', hafter'⟩ := run_respond hu hnamed hforeign'
    refine ⟨⟨rfl, ?_⟩, by rw [hafter, hafter', hshare]⟩
    rcases Store.withheld_of_share hshare id with heq | ⟨hfilled, hworks, hworks', hthere⟩
    · exact .inl (by rw [hresponse, hresponse', heq])
    · have hstatus : (v.response app s).status = if (s.noticeAt id).isSome then 403 else 404 := by
        rw [hresponse, App.status_spoken, Store.status_withheld hfilled hworks]
      have hstatus' : (v.response app s').status =
          if (s'.noticeAt id).isSome then 403 else 404 := by
        rw [hresponse', App.status_spoken, Store.status_withheld hfilled hworks']
      refine .inr ⟨⟨id, hnamed, hforeign, hstatus⟩, ⟨id, hnamed, hforeign', hstatus'⟩, ?_⟩
      dsimp only
      rw [hstatus, hstatus']
      revert hthere
      cases (s.noticeAt id).isSome <;> cases (s'.noticeAt id).isSome <;> decide

end Visit

/-! ## Many requests -/

variable {app : App} {u : Bearer} {v : Visit} {rest visits : List Visit} {s s' : Store}

theorem Fresh.head (h : Fresh (v :: rest) s) {id : String} (hid : v.generated? = some id) :
    s.noticeAt id = none :=
  h.free id (List.mem_filterMap.mpr ⟨v, List.mem_cons_self, hid⟩)

theorem Fresh.tail (h : Fresh (v :: rest) s) : Fresh rest s where
  distinct := h.distinct.sublist ((List.sublist_cons_self v rest).filterMap _)
  free id hid := h.free id (((List.sublist_cons_self v rest).filterMap _).subset hid)

theorem Fresh.after (h : Fresh (v :: rest) s) : Fresh rest (v.after app s) where
  distinct := h.tail.distinct
  free id hid := by
    refine Visit.noticeAt_after (fun _ => h.head) (fun hv => ?_) (h.tail.free id hid)
    have hdistinct := h.distinct
    rw [List.filterMap_cons_some hv, List.nodup_cons] at hdistinct
    exact hdistinct.1 hid

theorem Fresh.filter (h : Fresh visits s) (p : Visit → Bool) : Fresh (visits.filter p) s where
  distinct := h.distinct.sublist (List.filter_sublist.filterMap _)
  free id hid := h.free id ((List.filter_sublist.filterMap _).subset hid)

/-- What holds of two runs that start with the same share: all requests on the one side, and
those of the bearer alone on the other. -/
theorem isolated_of_share (hshare : s.share u = s'.share u) (h : Fresh visits s)
    (h' : Fresh (visits.filter (·.isBy app u)) s') :
    List.Forall₂ (Answered.Alike u) ((answers app visits s).filter (·.visit.isBy app u))
        (answers app (visits.filter (·.isBy app u)) s') ∧
      (final app visits s).share u = (final app (visits.filter (·.isBy app u)) s').share u := by
  induction visits generalizing s s' with
  | nil => exact ⟨.nil, hshare⟩
  | cons v rest ih =>
      by_cases hv : v.isBy app u = true
      · have hanswers : (answers app (v :: rest) s).filter (·.visit.isBy app u) =
            ⟨v, s, v.response app s⟩ ::
              (answers app rest (v.after app s)).filter (·.visit.isBy app u) :=
          List.filter_cons_of_pos hv
        rw [List.filter_cons_of_pos hv] at h' ⊢
        rw [hanswers]
        obtain ⟨halike, hafter⟩ := Visit.alike_of_share (of_decide_eq_true hv) hshare
          (fun _ => h.head) (fun _ => h'.head)
        obtain ⟨hrest, hfinal⟩ := ih hafter h.after h'.after
        exact ⟨.cons halike hrest, hfinal⟩
      · have hanswers : (answers app (v :: rest) s).filter (·.visit.isBy app u) =
            (answers app rest (v.after app s)).filter (·.visit.isBy app u) :=
          List.filter_cons_of_neg hv
        rw [List.filter_cons_of_neg hv] at h' ⊢
        rw [hanswers]
        have hother : v.bearer? app ≠ some u := fun hu => hv (decide_eq_true hu)
        have hafter := Visit.share_after hother fun _ => h.head
        exact ih (hafter.trans hshare) h.after h'

/-- Whoever else makes requests, a user's requests are answered alike and the user has the same
notices in the end, if the requests of the others are left out. -/
theorem users_isolated (app : App) (u : Bearer) (visits : List Visit) (s : Store)
    (h : Fresh visits s) :
    List.Forall₂ (Answered.Alike u) ((answers app visits s).filter (·.visit.isBy app u))
        (answers app (visits.filter (·.isBy app u)) s) ∧
      (final app visits s).share u = (final app (visits.filter (·.isBy app u)) s).share u :=
  isolated_of_share rfl h (h.filter _)

/-- An application with one origin only, and a secret that is easy to guess. -/
def plainApp : App where
  authority := ⟨"k", ⟨30, by decide⟩, ⟨900, 900⟩⟩
  origins := []
  host := "h"

def visitWith (method path token body : String) (draw : Draw) : Visit where
  request := {
    method
    reference := ⟨[], [], [], none, path.toList, []⟩
    headers := [("authorization", "Bearer " ++ token)]
    body := Text.Utf8.encode body }
  clock := 5
  draw
  settings := .error .originsNotJson

/-- One user creates a notice, and another one asks for it. -/
def twoVisits : List Visit :=
  let bob := "eyJhbGciOiJIUzI1NiIsInR5cCI6IkpXVCJ9.eyJzdWIiOiJib2IifQ" ++
    ".y3Z01X_iNu4mwJ9yH_8_xurIF7e7kc_34Xy5wWrmr_4"
  let ann := "eyJhbGciOiJIUzI1NiIsInR5cCI6IkpXVCJ9.eyJzdWIiOiJhbm4ifQ" ++
    ".P9U0VquQPGEVFSAj6AOVP5T9zaQaaM793rCT_9nweK8"
  [visitWith "POST" "/notifications" bob "\x7b\"message\":\"hi\",\"from\":\"cat\"\x7d" 1,
    visitWith "GET" ("/notifications/" ++ Id.ofDraw Id.noticeTag 1) ann "" 0]

theorem foreign_notice_withheld :
    Fresh twoVisits .empty ∧
    (answers plainApp twoVisits .empty).map (·.response.status) = [201, 403] ∧
    (answers plainApp (twoVisits.filter (·.isBy plainApp (.user "ann"))) .empty).map
      (·.response.status) = [404] ∧
    List.Forall₂ (Answered.Alike (.user "ann"))
      ((answers plainApp twoVisits .empty).filter (·.visit.isBy plainApp (.user "ann")))
      (answers plainApp (twoVisits.filter (·.isBy plainApp (.user "ann"))) .empty) := by
  have fresh : Fresh twoVisits .empty := ⟨by decide +kernel, fun _ _ => rfl⟩
  have statuses : (answers plainApp twoVisits .empty).map (·.response.status) = [201, 403] ∧
      (answers plainApp (twoVisits.filter (·.isBy plainApp (.user "ann"))) .empty).map
        (·.response.status) = [404] := by
    decide +kernel
  exact ⟨fresh, statuses.1, statuses.2,
    (users_isolated plainApp (.user "ann") twoVisits .empty fresh).1⟩

end Http
end Noticeboard
