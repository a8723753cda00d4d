import Noticeboard.Proofs.Http.Isolation
import Noticeboard.Proofs.Service.Amid

/-!
Requests that are served at the same time. Each makes its calls to the one store in its own order,
and between two of them any number of calls of the others may come. A request that checks whose
notice it is about and then changes it cannot be overtaken by them: every identifier is ascribed to
one user for good, so that whatever stands under it by then belongs to the user who was checked.
-/

namespace Noticeboard

open Plan
open Token (Bearer)

/-! ## Ownership -/

/-- Whether every row belongs to the user to whom its identifier is ascribed. -/
def Store.Ascribed (owner : String → Option String) (s : Store) : Prop :=
  ∀ id n, s.noticeAt id = some n → owner id = some n.recipient

/-- The identifier of the one row that a call is about, where it changes or removes one. -/
def Call.target? : Call → Option String
  | .setRead id _ | .delete id => id
  | _ => none

namespace Http

/-- Whether a notice is one that a request may change: it belongs to the bearer of the request, as
its identifier is ascribed, and it is the one that the request names, if it names one. -/
structure Visit.Entitled (app : App) (owner : String → Option String) (v : Visit) (n : Notice) :
    Prop where
  bearer : v.bearer? app = some (.user n.recipient)
  ascribed : owner n.id = some n.recipient
  named : ∀ id, v.named? = some id → n.id = id

/-- Whether a request may make a call, after what it has been shown. It changes and removes only
what it was shown as its bearer's, and inserts only what is ascribed to its bearer. -/
def Visit.May (app : App) (owner : String → Option String) (v : Visit) (past : List Exchange) :
    Call → Prop
  | .insert draft => ∀ n, Store.row? draft = some n →
      v.bearer? app = some (.user n.recipient) ∧ owner n.id = some n.recipient
  | .setRead id _ | .delete id => ∃ n ∈ shown past, id = some n.id ∧ v.Entitled app owner n
  | .deleteFor _ | .insertBoard _ _ => False
  | _ => True

/-- The terms of a request: others keep every row with its owner. -/
def Visit.terms (app : App) (owner : String → Option String) (v : Visit) : Terms where
  others _ _ s := s.Ascribed owner
  own past _ c := v.May app owner past c
  trans _ h := h

/-- What the call of a request does to the rows that it finds. -/
structure Rightful (app : App) (v : Visit) (past : List Exchange) (c : Call) (s s' : Store) :
    Prop where
  /-- What changes or goes belongs to the bearer, and it is the row that the call is about. -/
  own : ∀ id n, s.noticeAt id = some n → s'.noticeAt id ≠ some n →
    v.bearer? app = some (.user n.recipient) ∧ c.target? = some id
  /-- A row that the call is about was shown to the request as its bearer's, and it is the one that
  the request names, if it names one. -/
  checked : ∀ id, c.target? = some id → (∀ k, v.named? = some k → id = k) ∧
    ∃ n ∈ shown past, n.id = id ∧ v.bearer? app = some (.user n.recipient)
  /-- Whatever is there by then belongs to the bearer as well. -/
  kept : ∀ id n, c.target? = some id → s.noticeAt id = some n →
    v.bearer? app = some (.user n.recipient)
  /-- Where it is gone by then, nothing changes. -/
  vanished : ∀ id, c.target? = some id → s.noticeAt id = none → s' = s

end Http

namespace Store

variable {owner : String → Option String} {s s' : Store}

theorem delete_absent {id : String} (h : s.noticeAt id = none)
    (hs' : s.delete (some id) = .ok s') : s' = s := by
  obtain ⟨t, ht, rfl⟩ := removeWhere_ok hs'
  have same : t.remove (fun n => some id = some n.id) = t := by
    apply Table.ext
    rw [Table.rows_remove, List.filter_eq_self]
    intro n hn
    have hid : n.id ≠ id := by
      rintro rfl
      rw [noticeAt, ht, Option.bind_some, Table.find?_eq_some_iff.mpr ⟨hn, rfl⟩] at h
      cases h
    simpa using Ne.symm hid
  rw [same, withNotices_self ht]

end Store

namespace Http
namespace Visit

variable {app : App} {owner : String → Option String} {v : Visit} {past : List Exchange}

theorem may_of_reads (c : Call) (h : c.Reads) (past : List Exchange) (s : Store) :
    (v.terms app owner).own past s c := by
  cases c <;> trivial

theorem ascribed_of_effect {s s' : Store} {c : Call} (hs : s.Ascribed owner)
    (hc : v.May app owner past c) (h : Effect s c s') : s'.Ascribed owner := by
  cases h with
  | none => exact hs
  | @inserted draft n _ hinsert =>
      obtain ⟨_, _, hrow, _⟩ := Store.insert_eq_ok_iff.mp hinsert
      intro id m hm
      rw [Store.noticeAt_insert hinsert] at hm
      split at hm
      · next hid =>
          cases hm
          exact hid ▸ (hc n hrow).2
      · exact hs id m hm
  | @flagged id read _ hflag =>
      intro k m hm
      rw [Store.noticeAt_setRead hflag] at hm
      obtain ⟨n, hn, rfl⟩ := Option.map_eq_some_iff.mp hm
      rw [Store.marked_eq]
      exact hs k n hn
  | deleted hdelete =>
      intro k m hm
      rw [Store.noticeAt_removeWhere hdelete] at hm
      exact hs k m (Option.filter_eq_some_iff.mp hm).1
  | deletedFor _ | boarded => exact hc.elim

theorem target_of_may {c : Call} {id : String} (hc : v.May app owner past c)
    (hid : c.target? = some id) : ∃ n ∈ shown past, n.id = id ∧ v.Entitled app owner n := by
  have hshown : ∀ k : Option String, k = some id →
      (∃ n ∈ shown past, k = some n.id ∧ v.Entitled app owner n) →
      ∃ n ∈ shown past, n.id = id ∧ v.Entitled app owner n := by
    rintro k hk ⟨n, hn, hkn, hentitled⟩
    exact ⟨n, hn, Option.some.inj (hkn.symm.trans hk), hentitled⟩
  cases c with
  | setRead k read => exact hshown k hid hc
  | delete k => exact hshown k hid hc
  | _ => cases hid

/-- Only the row that a call is about changes or goes. -/
theorem target_of_changed {s s' : Store} {c : Call} (hc : v.May app owner past c)
    (h : Effect s c s') {id : String} {n : Notice} (hn : s.noticeAt id = some n)
    (hchanged : s'.noticeAt id ≠ some n) : c.target? = some id := by
  cases h with
  | none => exact absurd hn hchanged
  | @inserted draft m _ hinsert =>
      rw [Store.noticeAt_insert hinsert] at hchanged
      split at hchanged
      · next hid =>
          rw [← hid, Store.noticeAt_free hinsert] at hn
          cases hn
      · exact absurd hn hchanged
  | @flagged k read _ hflag =>
      rw [Store.noticeAt_setRead hflag, hn, Option.map_some, Store.marked] at hchanged
      split at hchanged
      · next hid =>
          rw [← hid, Store.id_of_noticeAt hn]
          rfl
      · exact absurd rfl hchanged
  | @deleted k _ hdelete =>
      rw [Store.noticeAt_removeWhere hdelete, hn, Option.filter_some] at hchanged
      by_cases hk : k = some n.id
      · rw [hk, Store.id_of_noticeAt hn]
        rfl
      · simp [hk] at hchanged
  | deletedFor _ | boarded => exact hc.elim

theorem rightful_of_effect {s s' : Store} {c : Call} (hs : s.Ascribed owner)
    (hc : v.May app owner past c) (h : Effect s c s') : Rightful app v past c s s' := by
  -- What the request was shown may be out of date by now, but whose it is cannot be.
  have kept (id : String) (n : Notice) (hid : c.target? = some id) (hn : s.noticeAt id = some n) :
      v.bearer? app = some (.user n.recipient) := by
    obtain ⟨m, _, hm, hentitled⟩ := target_of_may hc hid
    have hsame : m.recipient = n.recipient :=
      Option.some.inj (hentitled.ascribed.symm.trans (hm ▸ hs id n hn))
    exact hsame ▸ hentitled.bearer
  refine ⟨fun id n hn hchanged => ?own, fun id hid => ?checked, kept,
    fun id hid habsent => ?vanished⟩
  case own =>
    have hid := target_of_changed hc h hn hchanged
    exact ⟨kept id n hid hn, hid⟩
  case checked =>
    obtain ⟨n, hn, rfl, hentitled⟩ := target_of_may hc hid
    exact ⟨hentitled.named, n, hn, rfl, hentitled.bearer⟩
  case vanished =>
    cases h with
    | none => rfl
    | flagged hflag =>
        cases hid
        obtain ⟨t, ht, _⟩ := Store.setRead_ok hflag
        exact Except.ok.inj (hflag.symm.trans (Store.setRead_absent (by simp [ht]) habsent))
    | @deleted k _ hdelete =>
        obtain rfl : k = some id := hid
        exact Store.delete_absent habsent hdelete
    | inserted _ | deletedFor _ | boarded => cases hid

end Visit

/-! ## What a request does amid others -/

variable {app : App} {owner : String → Option String} {v : Visit} {past : List Exchange} {d : Desk}
  {b : Bearer}

theorem silent (c : Call) (hc : c.Silent) (later : List Exchange) (s : Store) :
    (v.terms app owner).own (past ++ later) s c :=
  Visit.may_of_reads c (c.reads_of_silent hc) _ s

theorem amid_bearerOf (hclock : d.clock = v.clock) :
    (ExceptT.run (bearerOf app.authority v.request)).Amid (v.terms app owner)
      (fun _ result d' => (∀ b, result = .ok b → v.bearer? app = some b) ∧ ∃ s, d' = d.withStore s)
      past d := by
  rw [bearerOf]
  split
  · exact ⟨fun _ hb => (by cases hb), d.store, rfl⟩
  · next token htoken =>
      refine amid_lift_bind fun s _ => ⟨trivial, ?_⟩
      dsimp only [Desk.perform, Desk.withStore]
      cases h : Token.bearer app.authority token d.clock with
      | ok b =>
          have hbearer : v.bearer? app = some b := by
            rw [← Visit.bearerAt_eq_ok_iff, bearerAt, htoken, ← hclock]
            simp only [h]
            rfl
          exact ⟨fun b' hb' => Except.ok.inj hb' ▸ hbearer, s, rfl⟩
      | error e => exact ⟨fun _ hb => (by cases hb), s, rfl⟩

theorem amid_owned {id : String} (hb : v.bearer? app = some b)
    (hnamed : ∀ k, v.named? = some k → k = id) :
    (ExceptT.run (App.owned id b)).Amid (v.terms app owner)
      (fun past result _ => ∀ n, result = .ok n →
        n ∈ shown past ∧ n.id = id ∧ v.Entitled app owner n) past d := by
  refine amid_exceptBind (R := fun past found _ => ∀ n, found = .ok (some n) →
      n ∈ shown past ∧ n.id = id ∧ owner n.id = some n.recipient) ?_ ?_ (fun _ _ _ _ => nofun)
  · refine amid_required_bind (fun k hk => ?_) nofun
    cases hk
    refine amid_find fun s d' hs _ => ⟨trivial, fun n hn => ?_⟩
    cases hfind : s.find (some id) with
    | error _ => rw [hfind] at hn; cases hn
    | ok found =>
        rw [hfind] at hn
        cases hn
        have hrow : s.noticeAt id = some n := Store.find_ok hfind
        refine ⟨?_, Store.id_of_noticeAt hrow, ?_⟩
        · rw [shown_concat]
          exact List.mem_append_right _ List.mem_cons_self
        · rw [Store.id_of_noticeAt hrow]
          exact hs id n hrow
  · intro past found d h
    cases found with
    | none => exact nofun
    | some n =>
        dsimp only
        split
        · next howns =>
            obtain ⟨hn, hid, howner⟩ := h n rfl
            intro m hm
            cases hm
            refine ⟨hn, hid, ?_, howner, fun k hk => hid.trans (hnamed k hk).symm⟩
            rw [hb, Bearer.owns_iff.mp howns]
        · exact nofun

/-- From when on a request was shown a notice that it is entitled to, it may act on it. -/
theorem may_of_shown {n : Notice} (hn : n ∈ shown past) (h : v.Entitled app owner n)
    (later : List Exchange) (s : Store) :
    (∀ read, (v.terms app owner).own (past ++ later) s (.setRead n.id read)) ∧
      (v.terms app owner).own (past ++ later) s (.delete n.id) :=
  ⟨fun _ => ⟨n, mem_shown_append hn later, rfl, h⟩, n, mem_shown_append hn later, rfl, h⟩

theorem amid_doing {α : Type} {a : Action α}
    (h : (ExceptT.run a).Amid (v.terms app owner) (fun _ _ _ => True) past d) :
    (ExceptT.run (App.doing a)).Amid (v.terms app owner) (fun _ _ _ => True) past d :=
  amid_bind h fun _ _ _ _ => trivial

theorem amid_markRead {id : String} (hb : v.bearer? app = some b)
    (hnamed : ∀ k, v.named? = some k → k = id) :
    (ExceptT.run (App.markRead id b)).Amid (v.terms app owner) (fun _ _ _ => True) past d := by
  refine amid_doing (amid_follow (amid_owned hb hnamed) fun past n d h => ?_)
  obtain ⟨hn, rfl, hentitled⟩ := h n rfl
  refine amid_of_makes (makes_exceptBind (Service.makes_markRead fun k hk => ?_) fun _ => ?_) d
  · cases hk
    exact fun later s => (may_of_shown hn hentitled later s).1 _
  · trivial

theorem amid_delete {id : String} (hb : v.bearer? app = some b)
    (hnamed : ∀ k, v.named? = some k → k = id) :
    (ExceptT.run (App.delete id b)).Amid (v.terms app owner) (fun _ _ _ => True) past d := by
  refine amid_attempt ?deletion fun past result d => amid_of_makes ?answer d
  case deletion =>
    refine amid_follow (amid_owned hb hnamed) fun past n d h => ?_
    obtain ⟨hn, rfl, hentitled⟩ := h n rfl
    refine amid_of_makes (Service.makes_delete fun k hk => ?_) d
    cases hk
    exact fun later s => (may_of_shown hn hentitled later s).2
  case answer =>
    cases result with
    | ok _ => exact makes_exceptBind (makes_lift (makes_ask fun _ _ => trivial)) fun _ => trivial
    | error failure =>
        exact makes_exceptBind (makes_lift (App.makes_noteOn silent _ _)) fun _ => trivial

theorem amid_markEach {notices : List Notice} (h : ∀ n ∈ notices, n ∈ shown past ∧
    v.Entitled app owner n) :
    (Service.markEach notices).Amid (v.terms app owner) (fun _ _ _ => True) past d := by
  refine amid_of_makes (Service.makes_markEach silent fun n hn later s => ?_) d
  exact (may_of_shown (h n hn).1 (h n hn).2 later s).1 _

theorem amid_markAll (hb : v.bearer? app = some b) (hnamed : v.named? = none) :
    (ExceptT.run (App.markAll b)).Amid (v.terms app owner) (fun _ _ _ => True) past d := by
  refine amid_follow (amid_of_makes (Service.makes_limitOr silent _ _) d) fun past limit d _ => ?_
  cases b with
  | garbled _ => exact amid_of_makes (App.makes_tokenAsk silent _ fun _ h => by cases h) d
  | user user =>
      refine amid_required_bind (fun recipient hrecipient => ?_) trivial
      cases hrecipient
      change (ExceptT.run (Action.list (some user) limit 0 >>= _)).Amid _ _ _ _
      refine amid_follow (R := fun past rows _ => ∀ notices, rows = .ok notices →
        ∀ n ∈ notices, n ∈ shown past ∧ v.Entitled app owner n) (amid_list fun s d' hs _ =>
          ⟨trivial, fun notices hrows n hn => ?_⟩) fun past notices d h => ?_
      · cases hlist : s.list (some user) limit 0 with
        | error _ => rw [hlist] at hrows; cases hrows
        | ok rows =>
            rw [hlist] at hrows
            cases hrows
            obtain ⟨hrow, rfl⟩ := Store.noticeAt_of_list hlist hn
            refine ⟨?_, hb, hs n.id n hrow, fun k hk => ?_⟩
            · rw [shown_concat]
              exact List.mem_append_right _ hn
            · rw [hnamed] at hk
              cases hk
      · have hunread : ∀ n ∈ notices.filter (!·.read), n ∈ shown past ∧ v.Entitled app owner n :=
          fun n hn => h notices rfl n (List.mem_of_mem_filter hn)
        refine amid_attempt (amid_markEach hunread) fun past failed d => ?_
        dsimp only
        split
        · refine amid_of_makes (makes_exceptBind (makes_lift (makes_ask fun _ _ => trivial))
            fun _ => ?_) d
          trivial
        · trivial

theorem amid_completed {draft : Draft} (hid : draft.id = some "")
    (hdraw : ∀ k, d.supply k = v.draw) :
    (ExceptT.run (Service.completed draft)).Amid (v.terms app owner)
      (fun _ result _ => ∀ draft', result = .ok draft' → draft'.recipient = draft.recipient ∧
        draft'.id = some (Id.ofDraw Id.noticeTag v.draw)) past d := by
  rw [Service.completed]
  refine amid_required_bind (fun recipient hrecipient => ?_) fun _ h => nomatch h
  refine amid_required_bind (fun message _ => ?_) fun _ h => nomatch h
  refine amid_required_bind (fun sender _ => ?_) fun _ h => nomatch h
  refine amid_exceptBind (R := fun _ _ d' => d' = d) ?_ (fun past moment d' hd => ?_)
    fun _ _ _ _ _ h => nomatch h
  · rw [Service.momentOf]
    split
    · exact rfl
    · split <;> exact rfl
  subst hd
  rw [hid, hrecipient]
  refine amid_lift_bind fun s _ => ⟨trivial, ?_⟩
  simp only [Desk.perform, Desk.withStore, hdraw]
  -- What is left looks up the link and fills it in, after the time is settled in one of two ways.
  have filled (createdAt : Int) (past : List Exchange) (d : Desk) :
      (ExceptT.run (Service.linkFor draft.link draft.board draft.card >>= fun link =>
        (pure { draft with
          id := some (Id.ofDraw Id.noticeTag v.draw), recipient := some recipient
          message := some message, sender := some sender, createdAt := some createdAt
          link := some link } : Action Draft))).Amid (v.terms app owner)
        (fun _ result _ => ∀ draft', result = .ok draft' → draft'.recipient = some recipient ∧
          draft'.id = some (Id.ofDraw Id.noticeTag v.draw)) past d := by
    refine amid_exceptBind (amid_of_makes (Service.makes_linkFor silent _ _ _) d)
      (fun _ _ _ _ draft' h => ?_) fun _ _ _ _ _ h => nomatch h
    cases h
    exact ⟨rfl, rfl⟩
  split
  · exact filled _ _ _
  · exact amid_lift_bind fun s _ => ⟨trivial, filled _ _ _⟩

theorem amid_store {draft : Draft} (hid : draft.id = some "")
    (hrecipient : draft.recipient = some b.name) (hdraw : ∀ k, d.supply k = v.draw)
    (hb : v.bearer? app = some b)
    (howner : ∀ user, b = .user user → owner (Id.ofDraw Id.noticeTag v.draw) = some user) :
    (ExceptT.run (App.store draft b)).Amid (v.terms app owner) (fun _ _ _ => True) past d := by
  refine amid_follow (amid_completed hid hdraw) fun past draft' d h => ?_
  obtain ⟨hrecipient', hid'⟩ := h draft' rfl
  refine amid_of_makes (App.makes_tokenAsk silent _ fun user huser =>
    makes_ofExcept (makes_ask fun later s n hrow => ?_)) d
  have hn_id : n.id = Id.ofDraw Id.noticeTag v.draw :=
    Option.some.inj ((Store.id_of_row hrow).symm.trans hid')
  have hn_recipient : n.recipient = b.name :=
    Option.some.inj ((Store.recipient_of_row hrow).symm.trans (hrecipient'.trans hrecipient))
  rw [hn_id, hn_recipient, huser]
  exact ⟨huser ▸ hb, howner user huser⟩

theorem amid_create (hclock : d.clock = v.clock) (hdraw : ∀ k, d.supply k = v.draw)
    (howner : ∀ user, v.bearer? app = some (.user user) →
      owner (Id.ofDraw Id.noticeTag v.draw) = some user) :
    (ExceptT.run (app.create v.request)).Amid (v.terms app owner) (fun _ _ _ => True) past d := by
  rw [App.create]
  split
  · trivial
  · refine amid_follow (amid_bearerOf hclock) fun past b d' h => ?_
    obtain ⟨hbearer, s, rfl⟩ := h
    have hb := hbearer b rfl
    dsimp only
    split
    · trivial
    · split
      · trivial
      · refine amid_lift_bind fun s _ => ⟨trivial, ?_⟩
        refine amid_attempt
          (amid_store rfl rfl hdraw hb fun user huser => howner user (huser ▸ hb))
          fun past result d => ?_
        cases result with
        | ok n =>
            refine amid_of_makes (makes_exceptBind (makes_lift (makes_ask fun _ _ => trivial))
              fun _ => ?_) d
            trivial
        | error failure =>
            refine amid_of_makes (makes_exceptBind (makes_lift (App.makes_noteOn silent _ _))
              fun _ => ?_) d
            trivial

theorem amid_serve {endpoint : Endpoint} {id : String} (hclock : d.clock = v.clock)
    (hdraw : ∀ k, d.supply k = v.draw)
    (howner : endpoint = .create → ∀ user, v.bearer? app = some (.user user) →
      owner (Id.ofDraw Id.noticeTag v.draw) = some user)
    (hnamed : v.named? = if endpoint.names then some id else none) :
    (ExceptT.run (app.serve v.request endpoint id)).Amid (v.terms app owner) (fun _ _ _ => True)
      past d := by
  have hbearer {f : Bearer → Handler Response}
      (h : ∀ b past d, v.bearer? app = some b →
        (ExceptT.run (f b)).Amid (v.terms app owner) (fun _ _ _ => True) past d) :
      (ExceptT.run (bearerOf app.authority v.request >>= f)).Amid (v.terms app owner)
        (fun _ _ _ => True) past d :=
    amid_follow (amid_bearerOf hclock) fun past b d hb => h b past d (hb.1 b rfl)
  have hsame (h : endpoint.names) : ∀ k, v.named? = some k → k = id := by
    intro k hk
    rw [hnamed, if_pos h] at hk
    exact (Option.some.inj hk).symm
  cases endpoint with
  | create => exact amid_create hclock hdraw (howner rfl)
  | list | countUnread | find =>
      refine amid_of_makes (App.makes_serve (fun c hc later s => ?_) app v.request id ?_ ?_ ?_) d
      · exact Visit.may_of_reads c hc (past ++ later) s
      all_goals simp
  | markAllRead =>
      exact hbearer fun b past d hb => amid_follow (amid_doing (amid_markAll hb hnamed))
        fun _ _ _ _ => trivial
  | markRead => exact hbearer fun b past d hb => amid_markRead hb (hsame rfl)
  | delete => exact hbearer fun b past d hb => amid_delete hb (hsame rfl)

/-- A request keeps to its terms, if the identifier for the notice that it may create is ascribed to
its bearer. -/
theorem Visit.amid_respond (s : Store) (howner : ∀ id user, v.generated? = some id →
      v.bearer? app = some (.user user) → owner id = some user) :
    (app.respond v.request).Amid (v.terms app owner) (fun _ _ _ => True) [] (v.desk s) := by
  rcases app.respond_cases v.request with ⟨response, h⟩ | ⟨endpoint, id, hroute, h⟩
  · rw [h]
    trivial
  · rw [h]
    refine amid_bind (amid_serve rfl (fun _ => rfl) ?_ ?_) fun _ _ _ _ => trivial
    · rintro rfl user hb
      exact howner _ user (if_pos (verb_of_route hroute).symm) hb
    · rw [named?, hroute]

/-! ## Many requests at once -/

/-- Requests that are being served on one store, each with what is left of serving it. -/
structure Hall where
  store : Store
  sessions : List (Visit × Session Response)

namespace Hall

/-- Requests that have all come in, none of which has made a call yet. -/
def opened (app : App) (visits : List Visit) (s : Store) : Hall where
  store := s
  sessions := visits.map fun v => (v, .start (app.respond v.request) (v.desk s))

/-- The request with the given number makes its next call, on the store that the others have
left. -/
def step (h : Hall) (i : Nat) : Hall :=
  match h.sessions[i]? with
  | none => h
  | some (v, x) =>
      { store := (x.finding h.store).next.desk.store
        sessions := h.sessions.set i (v, (x.finding h.store).next) }

def after (h : Hall) (schedule : List Nat) : Hall := schedule.foldl step h

theorem after_concat (h : Hall) (schedule : List Nat) (i : Nat) :
    h.after (schedule ++ [i]) = (h.after schedule).step i :=
  List.foldl_concat ..

end Hall

/-- The user to whom an identifier is ascribed: the recipient of the row that is there at first, or
else the bearer of the request that the identifier is generated for. -/
def ownerIn (app : App) (visits : List Visit) (s : Store) (id : String) : Option String :=
  match s.noticeAt id with
  | some n => some n.recipient
  | none => (visits.find? (·.generated? = some id)).bind fun v => (v.bearer? app).map Bearer.name

theorem ascribed_ownerIn (app : App) (visits : List Visit) (s : Store) :
    s.Ascribed (ownerIn app visits s) := by
  intro id n hn
  rw [ownerIn, hn]

theorem find_generated {visits : List Visit} (h : (visits.filterMap Visit.generated?).Nodup)
    (hv : v ∈ visits) {id : String} (hid : v.generated? = some id) :
    visits.find? (·.generated? = some id) = some v := by
  induction visits with
  | nil => cases hv
  | cons w rest ih =>
      by_cases hw : w.generated? = some id
      · rw [List.find?_cons_of_pos (by simpa using hw)]
        rcases List.mem_cons.mp hv with rfl | hv
        · rfl
        · rw [List.filterMap_cons_some hw, List.nodup_cons] at h
          exact absurd (List.mem_filterMap.mpr ⟨v, hv, hid⟩) h.1
      · rw [List.find?_cons_of_neg (by simpa using hw)]
        have hrest : v ∈ rest := (List.mem_cons.mp hv).resolve_left fun heq => hw (heq ▸ hid)
        exact ih (h.sublist ((List.sublist_cons_self w rest).filterMap _)) hrest

theorem Fresh.ownerIn_generated {visits : List Visit} {s : Store} (h : Fresh visits s)
    (hv : v ∈ visits) {id user : String} (hid : v.generated? = some id)
    (hb : v.bearer? app = some (.user user)) : ownerIn app visits s id = some user := by
  rw [ownerIn, h.free id (List.mem_filterMap.mpr ⟨v, hv, hid⟩)]
  dsimp only
  rw [find_generated h.distinct hv hid, Option.bind_some, hb]
  rfl

/-- Whether every row is with its owner, and every request keeps to its terms. -/
structure Hall.Orderly (app : App) (owner : String → Option String) (h : Hall) : Prop where
  ascribed : h.store.Ascribed owner
  keeps : ∀ v x, (v, x) ∈ h.sessions → x.Keeps (v.terms app owner) fun _ _ _ => True

namespace Hall.Orderly

variable {h : Hall}

theorem opened {visits : List Visit} {s : Store} (hfresh : Fresh visits s) :
    (Hall.opened app visits s).Orderly app (ownerIn app visits s) where
  ascribed := ascribed_ownerIn app visits s
  keeps v x hx := by
    obtain ⟨w, hw, heq⟩ := List.mem_map.mp hx
    cases heq
    exact v.amid_respond s fun id user hid hb => hfresh.ownerIn_generated hw hid hb

theorem next (horderly : h.Orderly app owner) {x : Session Response}
    (hx : (v, x) ∈ h.sessions) :
    (x.finding h.store).next.Keeps (v.terms app owner) (fun _ _ _ => True) ∧
      (∀ c, x.upcoming? = some c → v.May app owner x.past c) ∧
      (x.finding h.store).next.desk.store.Ascribed owner := by
  -- The terms of all requests are kept alike, so that each may rely on what the others leave.
  have hkeeps : (x.finding h.store).Keeps (v.terms app owner) fun _ _ _ => True :=
    Session.keeps_finding (fun _ _ _ _ _ _ => trivial) (horderly.keeps v x hx) horderly.ascribed
  obtain ⟨hnext, hown⟩ := Session.keeps_next hkeeps horderly.ascribed
  refine ⟨hnext, hown, ?_⟩
  cases hc : (x.finding h.store).upcoming? with
  | none =>
      rw [Session.next_of_done hc]
      exact horderly.ascribed
  | some c =>
      rw [(Session.next_of_upcoming hc).2]
      exact Visit.ascribed_of_effect horderly.ascribed (hown c hc)
        ((x.desk.withStore h.store).effect_perform c)

theorem step (horderly : h.Orderly app owner) (i : Nat) : (h.step i).Orderly app owner := by
  rw [Hall.step]
  split
  · exact horderly
  · next v x hx =>
      obtain ⟨hnext, _, hascribed⟩ := horderly.next (List.mem_of_getElem? hx)
      refine ⟨hascribed, fun w y hy => ?_⟩
      rcases List.mem_or_eq_of_mem_set hy with hy | heq
      · exact horderly.keeps w y hy
      · cases heq
        exact hnext

theorem after (horderly : h.Orderly app owner) (schedule : List Nat) :
    (h.after schedule).Orderly app owner := by
  induction schedule generalizing h with
  | nil => exact horderly
  | cons i rest ih => exact ih (horderly.step i)

end Hall.Orderly

/-- However the calls of requests come between one another, what the next call of a request changes
or removes belongs to its bearer. A call on a row that a request has checked before still finds a
row of the same owner there, or none, and then it changes nothing. -/
theorem ownership_not_overtaken (app : App) (visits : List Visit) (s : Store)
    (hfresh : Fresh visits s) (schedule : List Nat) {i : Nat} {v : Visit} {x : Session Response}
    {c : Call} (hx : ((Hall.opened app visits s).after schedule).sessions[i]? = some (v, x))
    (hc : x.upcoming? = some c) :
    Rightful app v x.past c ((Hall.opened app visits s).after schedule).store
      ((Hall.opened app visits s).after (schedule ++ [i])).store := by
  have horderly : ((Hall.opened app visits s).after schedule).Orderly app (ownerIn app visits s) :=
    (Hall.Orderly.opened hfresh).after schedule
  rw [Hall.after_concat]
  generalize (Hall.opened app visits s).after schedule = h at hx horderly ⊢
  obtain ⟨_, hmay, _⟩ := horderly.next (List.mem_of_getElem? hx)
  have hstore : (h.step i).store = ((x.desk.withStore h.store).perform c).2.store := by
    rw [Hall.step, hx]
    exact congrArg Desk.store (Session.next_of_upcoming (x := x.finding h.store) hc).2
  rw [hstore]
  exact Visit.rightful_of_effect horderly.ascribed (hmay c hc)
    ((x.desk.withStore h.store).effect_perform c)

/-- The requests of a user to mark a notice as read and to delete it. -/
def rivalVisits : List Visit :=
  let bob := "eyJhbGciOiJIUzI1NiIsInR5cCI6IkpXVCJ9.eyJzdWIiOiJib2IifQ" ++
    ".y3Z01X_iNu4mwJ9yH_8_xurIF7e7kc_34Xy5wWrmr_4"
  [visitWith "PUT" "/notifications/b1/read" bob "" 0,
    visitWith "DELETE" "/notifications/b1" bob "" 0]

def storeWithOne : Store where
  notices := some ⟨[⟨"b1", "bob", "hello", "cat", 5, false, "", "", ""⟩], by decide⟩
  boards := some .empty
  flaws := []

/-- The notice is deleted after the other request has checked whose it is. -/
theorem deleted_before_marked :
    Fresh rivalVisits storeWithOne ∧
    ∃ v x, ((Hall.opened plainApp rivalVisits storeWithOne).after [0, 0, 1, 1, 1]).sessions[0]? =
        some (v, x) ∧
      x.upcoming? = some (.setRead (some "b1") (some true)) ∧
      ((Hall.opened plainApp rivalVisits storeWithOne).after [0, 0, 1, 1, 1]).store.noticeAt "b1" =
        none ∧
      Rightful plainApp v x.past (.setRead (some "b1") (some true))
        ((Hall.opened plainApp rivalVisits storeWithOne).after [0, 0, 1, 1, 1]).store
        ((Hall.opened plainApp rivalVisits storeWithOne).after [0, 0, 1, 1, 1, 0]).store := by
  have fresh : Fresh rivalVisits storeWithOne := ⟨by decide +kernel, by decide +kernel⟩
  have upcoming : (((Hall.opened plainApp rivalVisits storeWithOne).after
      [0, 0, 1, 1, 1]).sessions[0]?.bind (·.2.upcoming?)) =
        some (.setRead (some "b1") (some true)) := by
    decide +kernel
  have vanished : ((Hall.opened plainApp rivalVisits storeWithOne).after
      [0, 0, 1, 1, 1]).store.noticeAt "b1" = none := by
    decide +kernel
  obtain ⟨⟨v, x⟩, hx, hc⟩ := Option.bind_eq_some_iff.mp upcoming
  exact ⟨fresh, v, x, hx, hc, vanished,
    ownership_not_overtaken plainApp rivalVisits storeWithOne fresh [0, 0, 1, 1, 1] hx hc⟩

end Http
end Noticeboard
