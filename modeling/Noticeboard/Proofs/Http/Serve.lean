import Noticeboard.Proofs.Http.Confined
import Noticeboard.Proofs.Service.Calls
import Noticeboard.Proofs.Service.Run

/-!
Requests stay with their bearer. Whatever a request does, it does to notices of the bearer whom
it speaks for, unless it names a notice that is not the bearer's: then it is refused and
nothing changes.
-/

namespace Noticeboard

open Plan Token

variable {b : Bearer} {new : Option String} {d d' : Desk}

namespace Store

/-- What a bearer is told of a notice that is not the bearer's own. -/
def withheld (s : Store) (id : String) : Failure :=
  if id = "" then .needed .notice
  else
    match s.find (some id) with
    | .error task => .storage task
    | .ok none => .noSuchNotice
    | .ok (some _) => .notOwner

end Store

namespace Service

theorem required_ok {need : Need} {value : Option String} {s : String}
    (h : (ExceptT.run (required need value)).run d = (.ok s, d')) : value = some s ∧ d' = d := by
  rcases required_cases need value with ⟨v, hvalue, _, hrequired⟩ | hrequired
  · rw [hrequired] at h
    cases h
    exact ⟨hvalue, rfl⟩
  · rw [hrequired] at h
    cases h

theorem momentOf_ok {draft : Draft} {moment : Int}
    (h : (ExceptT.run (momentOf draft)).run d = (.ok moment, d')) : d' = d := by
  rw [momentOf] at h
  split at h
  · cases h
  · split at h <;> cases h
    rfl

theorem along_required {P : Store → Call → Prop} {α : Type} {need : Need} {value : Option String}
    {f : String → Action α} (h : ∀ s, value = some s → (ExceptT.run (f s)).Along P d) :
    (ExceptT.run (required need value >>= f)).Along P d := by
  refine along_exceptBind (along_of_makes (makes_required _ _) d) fun s d' hrun => ?_
  obtain ⟨hvalue, rfl⟩ := required_ok hrun
  exact h s hvalue

/-- A completed draft keeps its recipient, and has a drawn identifier if it had none. -/
theorem completed_ok {draft draft' : Draft} (hid : draft.id = some "")
    (h : (ExceptT.run (completed draft)).run d = (.ok draft', d')) :
    draft'.recipient = draft.recipient ∧
      draft'.id = some (Id.ofDraw Id.noticeTag (d.supply d.drawn)) := by
  obtain ⟨recipient, d1, h1, h⟩ := ok_of_exceptBind h
  obtain ⟨message, d2, h2, h⟩ := ok_of_exceptBind h
  obtain ⟨sender, d3, h3, h⟩ := ok_of_exceptBind h
  obtain ⟨moment, d4, h4, h⟩ := ok_of_exceptBind h
  obtain ⟨id, d5, h5, h⟩ := ok_of_exceptBind h
  have hrest : draft'.recipient = some recipient ∧ draft'.id = some id := by
    dsimp only at h
    split at h
    all_goals
      obtain ⟨createdAt, d6, _, h⟩ := ok_of_exceptBind h
      obtain ⟨link, d7, _, h⟩ := ok_of_exceptBind h
      cases h
      exact ⟨rfl, rfl⟩
  have hd : d4 = d := (momentOf_ok h4).trans <| (required_ok h3).2.trans <|
    (required_ok h2).2.trans (required_ok h1).2
  have hdrawn : id = Id.ofDraw Id.noticeTag (d.supply d.drawn) := by
    rw [hid, hd] at h5
    cases h5
    rfl
  exact ⟨hrest.1.trans (required_ok h1).1.symm, hrest.2.trans (congrArg some hdrawn)⟩

theorem holds_of_setRead {id k : Option String} {read : Option Bool} (h : d.store.Holds b id) :
    (d.perform (.setRead k read)).2.store.Holds b id := by
  obtain ⟨i, n, rfl, hn, hb⟩ := h
  have heffect := d.effect_perform (.setRead k read)
  generalize (d.perform (.setRead k read)).2.store = s' at heffect
  cases heffect with
  | none => exact ⟨i, n, rfl, hn, hb⟩
  | @flagged k read _ hflag =>
      refine ⟨i, Store.marked k read n, rfl, ?_, by rwa [Bearer.owns_marked]⟩
      rw [Store.noticeAt_setRead hflag, hn, Option.map_some]

/-- Marking notices of a bearer stays with that bearer, since they stay the bearer's own. -/
theorem along_markEach {notices : List Notice} (h : ∀ n ∈ notices, d.store.Holds b (some n.id)) :
    (markEach notices).Along (fun s c => c.Confined b new s) d := by
  induction notices generalizing d with
  | nil => trivial
  | cons n rest ih =>
      refine along_bind (along_ask (h n List.mem_cons_self)) ?_
      have later : ∀ m ∈ rest,
          (d.perform (.setRead (some n.id) (some true))).2.store.Holds b (some m.id) :=
        fun m hm => holds_of_setRead (h m (List.mem_cons_of_mem _ hm))
      simp only [ask, run_call, run_done]
      split
      · exact ih later
      · exact along_bind (along_ask trivial) (along_bind (ih later) trivial)

theorem along_markAllRead (user : String) (limit : Option Int) :
    (ExceptT.run (markAllRead (some user) limit)).Along
      (fun s c => c.Confined (.user user) new s) d := by
  refine along_required fun recipient hrecipient => ?_
  cases hrecipient
  refine along_exceptBind (along_of_makes (makes_limitOr Call.confined_of_silent _ _) d)
    fun limit d2 _ => ?_
  refine along_exceptBind (along_ofExcept (along_ask ⟨user, rfl, rfl⟩)) fun notices d3 h3 => ?_
  obtain ⟨hlist, hstore⟩ := Action.list_ok h3
  refine along_exceptBind (along_lift (along_markEach fun n hn => ?_)) fun failed d4 _ => ?_
  · obtain ⟨hrow, huser⟩ := Store.noticeAt_of_list hlist (List.mem_of_mem_filter hn)
    exact ⟨n.id, n, rfl, hstore ▸ hrow, Bearer.owns_iff.mpr (congrArg _ huser.symm)⟩
  · dsimp only
    split
    · exact along_exceptBind (along_lift (along_ask trivial)) fun _ _ _ => trivial
    · trivial

end Service

namespace Http
namespace App

variable {α : Type}

theorem along_tokenAsk (task : Task) {act : String → Action α}
    (h : ∀ user, b = .user user →
      (ExceptT.run (act user)).Along (fun s c => c.Confined b new s) d) :
    (ExceptT.run (b.ask task act)).Along (fun s c => c.Confined b new s) d := by
  cases b with
  | user user => exact h user rfl
  | garbled _ => exact along_exceptBind (along_ofExcept (along_ask trivial)) fun _ _ _ => trivial

theorem along_doing {a : Action α}
    (h : (ExceptT.run a).Along (fun s c => c.Confined b new s) d) :
    (ExceptT.run (doing a)).Along (fun s c => c.Confined b new s) d :=
  along_bind h trivial

theorem along_store {draft : Draft} (hid : draft.id = some "")
    (hrecipient : draft.recipient = some b.name)
    (hnew : new = some (Id.ofDraw Id.noticeTag (d.supply d.drawn)))
    (hfree : d.store.noticeAt (Id.ofDraw Id.noticeTag (d.supply d.drawn)) = none) :
    (ExceptT.run (store draft b)).Along (fun s c => c.Confined b new s) d := by
  refine along_exceptBind (along_of_makes
    (Service.makes_completed Call.confined_of_silent draft) d) fun draft' d' h => ?_
  obtain ⟨hrecipient', hid'⟩ := Service.completed_ok hid h
  have hstore : d'.store = d.store := by
    have hkept := store_of_makes (Service.makes_completed Call.reads_of_silent draft) d
    rwa [h] at hkept
  refine along_tokenAsk _ fun user huser => along_ofExcept (along_ask fun n hn => ?_)
  have hn_id : n.id = Id.ofDraw Id.noticeTag (d.supply d.drawn) :=
    Option.some.inj ((Store.id_of_row hn).symm.trans hid')
  have hn_recipient : n.recipient = b.name :=
    Option.some.inj ((Store.recipient_of_row hn).symm.trans (hrecipient'.trans hrecipient))
  refine ⟨?_, hn_id ▸ hnew, by rw [hn_id, hstore, hfree]⟩
  rw [Bearer.owns_iff, hn_recipient, huser]
  rfl

theorem along_create (app : App) (r : Request)
    (hb : ∀ b', bearerAt app.authority r d.clock = .ok b' → b' = b)
    (hnew : new = some (Id.ofDraw Id.noticeTag (d.supply d.drawn)))
    (hfree : d.store.noticeAt (Id.ofDraw Id.noticeTag (d.supply d.drawn)) = none) :
    (ExceptT.run (app.create r)).Along (fun s c => c.Confined b new s) d := by
  rw [create]
  split
  · trivial
  · refine along_exceptBind (along_of_makes (makes_bearerOf Call.confined_of_silent _ _) d)
      fun b' d' h => ?_
    rw [run_bearerOf, Prod.mk.injEq] at h
    obtain ⟨hbearer, rfl⟩ := h
    obtain rfl := hb b' hbearer
    dsimp only
    split
    · trivial
    · split
      · trivial
      · refine along_exceptBind (along_lift (along_ask trivial)) fun now d' h => ?_
        cases h
        refine along_exceptBind (along_lift (along_store rfl rfl hnew hfree)) fun result d' _ => ?_
        cases result with
        | ok n => exact along_exceptBind (along_lift (along_ask trivial)) fun _ _ _ => trivial
        | error failure =>
            refine along_exceptBind (along_lift ?_) fun _ _ _ => trivial
            exact along_of_makes (makes_noteOn Call.confined_of_silent _ _) _

theorem store_owned (id : String) (b : Bearer) (d : Desk) :
    ((ExceptT.run (owned id b)).run d).2.store = d.store :=
  store_of_makes (makes_owned trivial b) d

theorem along_owned {id : String} (h : d.store.Holds b (some id)) :
    (ExceptT.run (owned id b)).Along (fun s c => c.Confined b new s) d := by
  refine along_exceptBind (Service.along_required fun k hk => ?_) fun found d' _ => ?_
  · exact along_ofExcept (along_ask (hk ▸ h))
  · cases found with
    | none => trivial
    | some n =>
        dsimp only
        split <;> trivial

theorem along_markAll (b : Bearer) :
    (ExceptT.run (markAll b)).Along (fun s c => c.Confined b new s) d := by
  refine along_exceptBind (along_of_makes
    (Service.makes_limitOr Call.confined_of_silent _ _) d) fun limit d' _ => ?_
  exact along_tokenAsk _ fun user huser => huser ▸ Service.along_markAllRead user _

theorem along_markRead {id : String} (h : d.store.Holds b (some id)) :
    (ExceptT.run (markRead id b)).Along (fun s c => c.Confined b new s) d := by
  refine along_doing (along_exceptBind (along_owned h) fun n d' hrun => ?_)
  have hstore : d'.store = d.store := by
    have hkept := store_owned id b d
    rwa [hrun] at hkept
  refine along_exceptBind (Service.along_required fun k hk => ?_) fun _ _ _ => trivial
  exact along_ofExcept (along_ask (hk ▸ hstore ▸ h))

theorem along_delete {id : String} (h : d.store.Holds b (some id)) :
    (ExceptT.run (delete id b)).Along (fun s c => c.Confined b new s) d := by
  refine along_exceptBind (along_lift (along_exceptBind (along_owned h) fun n d' hrun => ?_))
    fun result d' _ => ?_
  · have hstore : d'.store = d.store := by
      have hkept := store_owned id b d
      rwa [hrun] at hkept
    exact Service.along_required fun k hk => along_ofExcept (along_ask (hk ▸ hstore ▸ h))
  · cases result with
    | ok _ => exact along_exceptBind (along_lift (along_ask trivial)) fun _ _ _ => trivial
    | error failure =>
        refine along_exceptBind (along_lift ?_) fun _ _ _ => trivial
        exact along_of_makes (makes_noteOn Call.confined_of_silent _ _) _

/-- Where a request names no notice but the bearer's own, it stays with the bearer. -/
theorem along_serve (app : App) (r : Request) (endpoint : Endpoint) (id : String)
    (hb : ∀ b', bearerAt app.authority r d.clock = .ok b' → b' = b)
    (hcreate : endpoint = .create → new = some (Id.ofDraw Id.noticeTag (d.supply d.drawn)) ∧
      d.store.noticeAt (Id.ofDraw Id.noticeTag (d.supply d.drawn)) = none)
    (hnames : bearerAt app.authority r d.clock = .ok b → endpoint.names →
      d.store.Holds b (some id)) :
    (ExceptT.run (app.serve r endpoint id)).Along (fun s c => c.Confined b new s) d := by
  -- All endpoints but one begin with the bearer, who is `b`, and have done nothing until then.
  have hbearer {f : Bearer → Handler Response}
      (h : bearerAt app.authority r d.clock = .ok b →
        (ExceptT.run (f b)).Along (fun s c => c.Confined b new s) d) :
      (ExceptT.run (bearerOf app.authority r >>= f)).Along (fun s c => c.Confined b new s) d := by
    refine along_exceptBind (along_of_makes (makes_bearerOf Call.confined_of_silent _ _) d)
      fun b' d' hrun => ?_
    rw [run_bearerOf, Prod.mk.injEq] at hrun
    obtain ⟨hb', rfl⟩ := hrun
    obtain rfl := hb b' hb'
    exact h hb'
  cases endpoint with
  | create => exact along_create app r hb (hcreate rfl).1 (hcreate rfl).2
  | list =>
      refine hbearer fun _ =>
        along_exceptBind (along_of_makes (makes_doing ?_) d) fun _ _ _ => trivial
      exact makes_page Call.confined_of_silent r fun user _ _ huser _ => ⟨user, huser, rfl⟩
  | countUnread =>
      refine hbearer fun _ =>
        along_exceptBind (along_of_makes (makes_doing ?_) d) fun _ _ _ => trivial
      exact makes_tokenAsk Call.confined_of_silent _ fun user huser =>
        Service.makes_countUnread fun _ h _ => ⟨user, huser, h.symm⟩
  | markAllRead =>
      exact hbearer fun _ => along_exceptBind (along_doing (along_markAll b)) fun _ _ _ => trivial
  | find =>
      exact hbearer fun hb' =>
        along_exceptBind (along_doing (along_owned (hnames hb' rfl))) fun _ _ _ => trivial
  | markRead => exact hbearer fun hb' => along_markRead (hnames hb' rfl)
  | delete => exact hbearer fun hb' => along_delete (hnames hb' rfl)

/-! ## Notices of others -/

theorem answer_find (id : String) (d : Desk) :
    ((ExceptT.run (Service.find (some id))).run d).1 =
      if id = "" then .error (.needed .notice)
      else (d.store.find (some id)).mapError .storage := by
  by_cases hid : id = ""
  · simp only [Service.find, Service.required, filled?, hid, ↓reduceIte]
    rfl
  · simp only [Service.find, Service.required, filled?, hid, ↓reduceIte]
    exact Action.answer_find (some id) d

theorem run_owned {id : String} (h : ¬ d.store.Holds b (some id)) :
    ∃ d', (ExceptT.run (owned id b)).run d = (.error (d.store.withheld id), d') ∧
      d'.store = d.store := by
  refine ⟨((ExceptT.run (owned id b)).run d).2, Prod.ext ?_ rfl, store_owned id b d⟩
  have hanswer := answer_find id d
  rw [owned, run_exceptBind]
  generalize (ExceptT.run (Service.find (some id))).run d = result at hanswer
  obtain ⟨found, d'⟩ := result
  rw [Store.withheld]
  by_cases hid : id = ""
  · rw [if_pos hid] at hanswer ⊢
    cases hanswer
    rfl
  · rw [if_neg hid] at hanswer ⊢
    cases hfind : d.store.find (some id) with
    | error task =>
        rw [hfind] at hanswer
        cases hanswer
        rfl
    | ok found =>
        rw [hfind] at hanswer
        cases hanswer
        cases found with
        | none => rfl
        | some n =>
            have hforeign : b.owns n = false := by
              rw [Bool.eq_false_iff]
              exact fun hb => h ⟨id, n, rfl, Store.find_ok hfind, hb⟩
            simp only [hforeign]
            rfl

theorem run_doing_error {a : Action α} {failure : Failure}
    (h : (ExceptT.run a).run d = (.error failure, d')) :
    (ExceptT.run (doing a)).run d = (.error (.ofFailure failure), d') := by
  change (ExceptT.run a >>= _).run d = _
  rw [run_bind, h]
  rfl

/-- A request that names a notice that is not the bearer's own is refused and changes
nothing. -/
theorem run_serve (app : App) (r : Request) {endpoint : Endpoint} {id : String}
    (hb : bearerAt app.authority r d.clock = .ok b) (hnames : endpoint.names)
    (h : ¬ d.store.Holds b (some id)) :
    ∃ d', (ExceptT.run (app.serve r endpoint id)).run d =
        (.error (.ofFailure (d.store.withheld id)), d') ∧ d'.store = d.store := by
  obtain ⟨d', howned, hstore⟩ := run_owned h
  have hbearer (f : Bearer → Handler Response) := run_bearerOf_bind hb f
  cases endpoint with
  | create | list | countUnread | markAllRead => cases hnames
  | find =>
      refine ⟨d', ?_, hstore⟩
      exact (hbearer _).trans (run_exceptBind_error (run_doing_error howned) _)
  | markRead =>
      refine ⟨d', ?_, hstore⟩
      exact (hbearer _).trans (run_doing_error (run_exceptBind_error howned _))
  | delete =>
      have hdeletion := run_exceptBind_error howned fun _ => Service.delete (some id)
      refine ⟨((noteOn (d.store.withheld id) (.notDeleted id b.name)).run d').2, ?_, ?_⟩
      · refine (hbearer _).trans ?_
        rw [delete, run_exceptBind, run_lift]
        dsimp only
        rw [hdeletion]
        dsimp only
        rw [run_exceptBind, run_lift]
        rfl
      · rw [store_of_makes (makes_noteOn Call.reads_of_silent _ _), hstore]

end App
end Http
end Noticeboard
