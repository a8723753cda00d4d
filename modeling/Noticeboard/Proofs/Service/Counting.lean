import Noticeboard.Proofs.Service.Calls
import Noticeboard.Proofs.Service.Run
import Noticeboard.Service.Event
import Noticeboard.Proofs.Store.Unread

/-!
What actions do to the numbers of unread notices. An action looks things up and then writes, so that
one that fails leaves the store as it was, and what one that succeeds did to it can be told from its
answer, as long as what is stored can be read back.
-/

namespace Noticeboard

/-! ## Reports -/

/-- What an answer says of what was done. -/
inductive Report
  | nothing
  | created (recipient : String) (read : Bool)
  | marked (id : String)
  | markedAll (recipient : String) (succeeded : Int)
  | deleted (id : String)
  | deletedFor (recipient : String)
  deriving DecidableEq, Repr

namespace Report

/-- How the number of unread notices of a user moves by what is reported. -/
def shift (s : Store) (user : String) : Report → Int
  | nothing => 0
  | created recipient read => if recipient = user ∧ read = false then 1 else 0
  | marked id | deleted id => -s.due id user
  | markedAll recipient succeeded => if recipient = user then -succeeded else 0
  | deletedFor recipient => if recipient = user then -s.unread user else 0

/-- Whether the numbers of unread notices of all users move by what is reported. -/
def Moves (r : Report) (s s' : Store) : Prop :=
  ∀ user, (s'.unread user : Int) = s.unread user + r.shift s user

theorem moves_nothing (s : Store) : nothing.Moves s s := fun _ => (Int.add_zero _).symm

theorem moves_insert {s s' : Store} {draft : Draft} {n : Notice}
    (h : s.insert draft = .ok (n, s')) : (created n.recipient n.read).Moves s s' := by
  intro user
  rw [Store.unread_insert h, shift]
  by_cases hn : n.recipient = user <;> cases hread : n.read <;> simp [Notice.isDue, hn, hread]

theorem moves_setRead {s s' : Store} {id : String}
    (h : s.setRead (some id) (some true) = .ok s') : (marked id).Moves s s' := by
  intro user
  have := Store.unread_setRead h user
  rw [shift]
  omega

theorem moves_delete {s s' : Store} {id : String} (h : s.delete (some id) = .ok s') :
    (deleted id).Moves s s' := by
  intro user
  have := Store.unread_delete h user
  rw [shift]
  omega

theorem moves_deleteFor {s s' : Store} {recipient : String}
    (h : s.deleteFor (some recipient) = .ok s') : (deletedFor recipient).Moves s s' := by
  intro user
  rw [Store.unread_deleteFor h, shift]
  split <;> omega

end Report

/-! ## How actions end -/

section Ends

variable {α β ε : Type} {E : ε → Prop} {Q : α → Store → Prop} {R : β → Store → Prop} {d : Desk}

/-- Whether an action on a desk leaves the store with `Q`, or fails with `E` and leaves the store
alone. -/
structure Ends (E : ε → Prop) (Q : α → Store → Prop) (a : ExceptT ε Plan α) (d : Desk) : Prop where
  ok : ∀ x d', (ExceptT.run a).run d = (.ok x, d') → Q x d'.store
  error : ∀ e d', (ExceptT.run a).run d = (.error e, d') → E e ∧ d'.store = d.store

theorem error_of_exceptBind {a : ExceptT ε Plan α} {f : α → ExceptT ε Plan β} {e : ε} {d'' : Desk}
    (h : (ExceptT.run (a >>= f)).run d = (.error e, d'')) :
    (ExceptT.run a).run d = (.error e, d'') ∨
      ∃ x d', (ExceptT.run a).run d = (.ok x, d') ∧
        (ExceptT.run (f x)).run d' = (.error e, d'') := by
  rw [Plan.run_exceptBind] at h
  cases ha : (ExceptT.run a).run d with
  | mk result d' =>
      rw [ha] at h
      cases result with
      | ok x => exact .inr ⟨x, d', rfl, h⟩
      | error _ =>
          cases h
          exact .inl rfl

/-- What follows on an action that only reads begins on the same store. -/
theorem ends_bind {a : ExceptT ε Plan α} {f : α → ExceptT ε Plan β}
    (ha : (ExceptT.run a).Makes Call.Reads)
    (herror : ∀ e d', (ExceptT.run a).run d = (.error e, d') → E e)
    (hok : ∀ x d', (ExceptT.run a).run d = (.ok x, d') → d'.store = d.store → Ends E R (f x) d') :
    Ends E R (a >>= f) d := by
  have hstore := Plan.store_of_makes ha d
  constructor
  · intro y d'' h
    obtain ⟨x, d', hrun, h⟩ := Plan.ok_of_exceptBind h
    rw [hrun] at hstore
    exact (hok x d' hrun hstore).ok y d'' h
  · intro e d'' h
    rcases error_of_exceptBind h with hrun | ⟨x, d', hrun, h⟩
    · rw [hrun] at hstore
      exact ⟨herror e d'' hrun, hstore⟩
    · rw [hrun] at hstore
      exact hstore ▸ (hok x d' hrun hstore).error e d'' h

theorem ends_throw {e : ε} (h : E e) : Ends E Q (throw e : ExceptT ε Plan α) d := by
  constructor
  · exact fun _ _ hrun => nomatch hrun
  · intro e' d' hrun
    cases hrun
    exact ⟨h, rfl⟩

/-- What follows on a write changes nothing any more. -/
theorem ends_map {a : ExceptT ε Plan α} {g : α → β} (h : Ends E (fun x => R (g x)) a d) :
    Ends E R (a >>= fun x => pure (g x)) d := by
  constructor
  · intro y d'' hrun
    obtain ⟨x, d', hrun, hy⟩ := Plan.ok_of_exceptBind hrun
    cases hy
    exact h.ok x _ hrun
  · intro e d'' hrun
    rcases error_of_exceptBind hrun with hrun | ⟨x, d', _, hy⟩
    · exact h.error e d'' hrun
    · cases hy

theorem ends_mono {Q' : α → Store → Prop} {a : ExceptT ε Plan α} (h : Ends E Q a d)
    (hQ : ∀ x s, Q x s → Q' x s) : Ends E Q' a d :=
  ⟨fun x d' hrun => hQ x _ (h.ok x d' hrun), h.error⟩

theorem ends_of_run {a : ExceptT ε Plan α} (x : α) (d' : Desk)
    (hrun : (ExceptT.run a).run d = (.ok x, d')) (h : Q x d'.store) : Ends E Q a d := by
  constructor
  · intro y d'' hy
    cases hrun.symm.trans hy
    exact h
  · intro e d'' he
    cases hrun.symm.trans he

theorem ends_of_failure {a : ExceptT ε Plan α} {e : ε} {d' : Desk}
    (hrun : (ExceptT.run a).run d = (.error e, d')) (h : E e) (hstore : d'.store = d.store) :
    Ends E Q a d := by
  constructor
  · intro x d'' hx
    cases hrun.symm.trans hx
  · intro e' d'' he
    cases hrun.symm.trans he
    exact ⟨h, hstore⟩

/-- What writes to the store leaves what the operation of the store does, or fails with it. -/
theorem ends_of_writing {a : Action α} {entry : Task → Log.Entry} {r : Except Task (α × Store)}
    (h : a.run d = ((d.writing entry r).1.mapError .storage, (d.writing entry r).2))
    (hQ : ∀ x s', r = .ok (x, s') → Q x s') : Ends (fun _ => True) Q a d := by
  rw [Action.run] at h
  constructor
  · intro x d' hrun
    rw [h] at hrun
    cases r with
    | ok r =>
        cases hrun
        exact hQ r.1 r.2 rfl
    | error _ => cases hrun
  · intro e d' hrun
    rw [h] at hrun
    cases r with
    | ok r => cases hrun
    | error _ =>
        cases hrun
        exact ⟨trivial, rfl⟩

end Ends

/-- Whether what an action does on a desk can be told from its answer, and one that fails leaves the
store alone. -/
abbrev Reports {α : Type} (report : α → Report) (a : Action α) (d : Desk) : Prop :=
  Ends (fun _ => True) (fun x s' => (report x).Moves d.store s') a d

section Reports

variable {α β : Type} {report : β → Report} {d : Desk}

theorem reports_bind {a : Action α} {f : α → Action β} (ha : (ExceptT.run a).Makes Call.Reads)
    (hf : ∀ x d', (ExceptT.run a).run d = (.ok x, d') → d'.store = d.store →
      Reports report (f x) d') : Reports report (a >>= f) d := by
  refine ends_bind ha (fun _ _ _ => trivial) fun x d' hrun hstore => ?_
  exact ends_mono (hf x d' hrun hstore) fun _ _ h => hstore ▸ h

theorem reports_pure (x : β) (h : report x = .nothing) : Reports report (pure x) d := by
  constructor
  · intro y d' hrun
    cases hrun
    rw [h]
    exact Report.moves_nothing _
  · exact fun e d' hrun => nomatch hrun

theorem reports_throw (f : Failure) : Reports report (throw f : Action β) d := ends_throw trivial

end Reports

namespace Service

variable {d : Desk}

theorem reports_insert (draft : Draft) (hreads : d.store.ReadsBack) :
    Reports (fun n => .created n.recipient n.read) (Action.insert draft) d := by
  have hanswer := Action.answer_insert draft d
  have hstore := Action.store_insert draft d
  rw [Action.run] at hanswer hstore
  cases hinsert : d.store.insert draft with
  | ok r =>
      rw [Store.save_stored hinsert, hreads.notices] at hanswer
      rw [hinsert] at hstore
      refine ends_of_run r.1 _ (Prod.ext hanswer rfl) ?_
      exact hstore ▸ Report.moves_insert hinsert
  | error task =>
      rw [Store.save_refused hinsert] at hanswer
      rw [hinsert] at hstore
      exact ends_of_failure (Prod.ext hanswer rfl) trivial hstore

theorem ok_of_map {s' : Store} {x : Unit} {r : Except Task Store}
    (h : r.map ((), ·) = .ok (x, s')) : r = .ok s' := by
  cases r with
  | error _ => cases h
  | ok s =>
      cases h
      rfl

theorem reports_setRead (id : String) :
    Reports (fun _ => .marked id) (Action.setRead (some id) (some true)) d :=
  ends_of_writing (Action.run_ofStore _ _) fun _ _ h => Report.moves_setRead (ok_of_map h)

theorem reports_remove (id : String) :
    Reports (fun _ => .deleted id) (Action.delete (some id)) d :=
  ends_of_writing (Action.run_ofStore _ _) fun _ _ h => Report.moves_delete (ok_of_map h)

theorem reports_removeFor (recipient : String) :
    Reports (fun _ => .deletedFor recipient) (Action.deleteFor (some recipient)) d :=
  ends_of_writing (Action.run_ofStore _ _) fun _ _ h => Report.moves_deleteFor (ok_of_map h)

theorem reports_required {α : Type} {report : α → Report} {need : Need} {value : Option String}
    {f : String → Action α} (h : ∀ s, value = some s → Reports report (f s) d) :
    Reports report (required need value >>= f) d := by
  rcases required_cases need value with ⟨s, hvalue, _, hrequired⟩ | hrequired
  · rw [hrequired]
    exact h s hvalue
  · rw [hrequired]
    exact reports_throw _

theorem reports_create (draft : Draft) (hreads : d.store.ReadsBack) :
    Reports (fun n => .created n.recipient n.read) (create draft) d :=
  reports_bind (makes_completed Call.reads_of_silent draft) fun draft' _ _ hstore =>
    reports_insert draft' (hstore ▸ hreads)

theorem reports_createNew (recipient message sender board card : Option String)
    (hreads : d.store.ReadsBack) :
    Reports (fun n => .created n.recipient n.read)
      (createNew recipient message sender board card) d := by
  refine reports_required fun recipient _ => ?_
  refine reports_required fun message _ => ?_
  refine reports_required fun sender _ => ?_
  refine reports_bind (makes_newId Call.reads_of_silent) fun id d₁ _ h₁ => ?_
  refine reports_bind (makes_now Call.reads_of_silent) fun createdAt d₂ _ h₂ => ?_
  refine reports_bind (makes_resolveLink Call.reads_of_silent _ _) fun link d₃ _ h₃ => ?_
  exact reports_insert _ (h₃ ▸ h₂ ▸ h₁ ▸ hreads)

/-- What the answer of a helper reports, which may decide to create nothing. -/
def createdIf (created : Option Notice) : Report :=
  created.elim .nothing fun n => .created n.recipient n.read

theorem reports_notifyAdded (actor : Option Person) (recipient board : Option String)
    (hreads : d.store.ReadsBack) :
    Reports createdIf (notifyAdded actor recipient board) d := by
  unfold notifyAdded
  split
  · split
    · refine reports_bind (Plan.makes_ofExcept (Plan.makes_ask trivial))
        fun found d _ hstore => ?_
      cases found with
      | none => exact reports_throw _
      | some found => exact ends_map (reports_createNew _ _ _ _ _ (hstore ▸ hreads))
    · exact reports_pure none rfl
  · exact reports_throw _

theorem reports_notifyCard (event : CardEvent) (actor : Option Person)
    (recipient board card : Option String) (title : String) (hreads : d.store.ReadsBack) :
    Reports createdIf (notifyCard event actor recipient board card title) d := by
  unfold notifyCard
  split
  · split
    · exact ends_map (reports_createNew _ _ _ _ _ hreads)
    · exact reports_pure none rfl
  · exact reports_throw _

theorem reports_markRead (id : Option String) :
    Reports (fun _ => id.elim .nothing .marked) (markRead id) d :=
  reports_required fun k hk => by subst hk; exact reports_setRead k

theorem reports_delete (id : Option String) :
    Reports (fun _ => id.elim .nothing .deleted) (delete id) d :=
  reports_required fun k hk => by subst hk; exact reports_remove k

theorem reports_deleteFor (recipient : Option String) :
    Reports (fun _ => recipient.elim .nothing .deletedFor) (deleteFor recipient) d :=
  reports_required fun user huser => by subst huser; exact reports_removeFor user

/-! ## Marking all -/

/-- To mark the first notice succeeds and leaves the others as they are, or it fails and leaves
everything as it is. -/
theorem run_markEach_cons (n : Notice) (rest : List Notice) (d : Desk) :
    (∃ s', d.store.setRead (some n.id) (some true) = .ok s' ∧
      (markEach (n :: rest)).run d = (markEach rest).run { d with store := s' }) ∨
    ∃ task d', d.store.setRead (some n.id) (some true) = .error task ∧ d'.store = d.store ∧
      (markEach (n :: rest)).run d =
        (n.id :: ((markEach rest).run d').1, ((markEach rest).run d').2) := by
  have hrun : (markEach (n :: rest)).run d = _ :=
    Plan.run_bind (.ask (.setRead n.id (some true))) _ d
  rw [hrun, Plan.ask, Plan.run_call, Plan.run_done, Desk.perform]
  cases hset : d.store.setRead (some n.id) (some true) with
  | ok s' => exact .inl ⟨s', rfl, rfl⟩
  | error task =>
      refine .inr ⟨task, (d.noted (.undone task)).noted .notMarked, rfl, rfl, ?_⟩
      exact Plan.run_bind (markEach rest) _ _

/-- Every notice that is marked without a failure is one unread notice less for its recipient. -/
theorem moves_markEach {user : String} {todo : List Notice}
    (h : ∀ n ∈ todo, d.store.noticeAt n.id = some n ∧ n.recipient = user ∧ n.read = false)
    (hdistinct : (todo.map Notice.id).Nodup) :
    ((markEach todo).run d).1.length ≤ todo.length ∧
      (Report.markedAll user (todo.length - ((markEach todo).run d).1.length)).Moves d.store
        ((markEach todo).run d).2.store := by
  induction todo generalizing d with
  | nil => exact ⟨Nat.le_refl _, fun u => by simp [Report.shift, markEach]⟩
  | cons n rest ih =>
      obtain ⟨hrow, hrecipient, hunread⟩ := h n List.mem_cons_self
      rw [List.map_cons, List.nodup_cons] at hdistinct
      rcases run_markEach_cons n rest d with ⟨s', hset, hrun⟩ | ⟨_, d', _, hstore, hrun⟩
      · have hrest : ∀ m ∈ rest, s'.noticeAt m.id = some m ∧ m.recipient = user ∧
            m.read = false := by
          intro m hm
          have hother : m.id ≠ n.id := fun heq => hdistinct.1 (heq ▸ List.mem_map_of_mem hm)
          refine ⟨?_, (h m (List.mem_cons_of_mem n hm)).2⟩
          rw [Store.noticeAt_setRead hset, (h m (List.mem_cons_of_mem n hm)).1, Option.map_some,
            Store.marked, if_neg hother]
        obtain ⟨hlength, hmoves⟩ := ih (d := { d with store := s' }) hrest hdistinct.2
        rw [hrun, List.length_cons]
        refine ⟨by omega, fun u => ?_⟩
        have hfirst := Store.unread_setRead hset u
        have hdue : d.store.due n.id u = if user = u then 1 else 0 := by
          simp [Store.due, hrow, Notice.isDue, hrecipient, hunread]
        have hlater := hmoves u
        rw [Report.shift] at hlater ⊢
        rw [hdue] at hfirst
        split at hlater <;> simp_all; omega
      · have hrest : ∀ m ∈ rest, d'.store.noticeAt m.id = some m ∧ m.recipient = user ∧
            m.read = false := by
          rw [hstore]
          exact fun m hm => h m (List.mem_cons_of_mem n hm)
        obtain ⟨hlength, hmoves⟩ := ih hrest hdistinct.2
        rw [hrun, List.length_cons, List.length_cons]
        refine ⟨by omega, fun u => ?_⟩
        have hlater := hmoves u
        rw [hstore] at hlater
        rw [hlater, Report.shift, Report.shift]
        split <;> omega

theorem reports_markAllRead (recipient : Option String) (limit : Option Int) :
    Reports (fun m => recipient.elim .nothing fun user => .markedAll user m.succeeded)
      (markAllRead recipient limit) d := by
  refine reports_required fun user huser => ?_
  subst huser
  refine reports_bind (makes_limitOr Call.reads_of_silent _ _) fun limit d _ _ => ?_
  refine reports_bind (Plan.makes_ofExcept (Plan.makes_ask trivial)) fun rows d' hrun _ => ?_
  obtain ⟨hlist, hstore⟩ := Action.list_ok hrun
  have hunread : ∀ n ∈ rows.filter (!·.read),
      d'.store.noticeAt n.id = some n ∧ n.recipient = user ∧ n.read = false := by
    intro n hn
    obtain ⟨hn, hread⟩ := List.mem_filter.mp hn
    obtain ⟨hrow, hrecipient⟩ := Store.noticeAt_of_list hlist hn
    exact ⟨hstore ▸ hrow, hrecipient, by simpa using hread⟩
  have hdistinct : ((rows.filter (!·.read)).map Notice.id).Nodup :=
    (Store.nodup_of_list hlist).sublist (List.filter_sublist.map Notice.id)
  obtain ⟨hlength, hmoves⟩ := moves_markEach hunread hdistinct
  generalize rows.filter (!·.read) = unread at hlength hmoves ⊢
  cases hmark : (markEach unread).run d' with
  | mk failed d'' =>
      rw [hmark] at hlength hmoves
      have hreport : (Report.markedAll user (⟨unread.length, failed⟩ : Marking).succeeded).Moves
          d'.store d''.store := by
        rwa [Marking.succeeded, Int.natCast_sub hlength]
      -- What follows is at most a note in the log.
      cases hfailed : failed.isEmpty with
      | true =>
          refine ends_of_run _ d'' ?_ hreport
          rw [Plan.run_lift_bind hmark]
          simp only [hfailed]
          rfl
      | false =>
          let marking : Marking := ⟨unread.length, failed⟩
          refine ends_of_run _
            (d''.noted (.marked marking.succeeded marking.attempted user)) ?_ hreport
          rw [Plan.run_lift_bind hmark]
          simp only [hfailed]
          rfl

end Service
end Noticeboard
