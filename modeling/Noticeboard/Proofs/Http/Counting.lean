import Noticeboard.Proofs.Http.Reading
import Noticeboard.Proofs.Notice.RoundTrip
import Noticeboard.Proofs.Service.Counting
import Noticeboard.Proofs.Service.Operation

/-!
The count of unread notices. At any time it is the number of unread notices in the listing of the
user, and it moves by exactly what the answer to an operation says was done.
-/

namespace Noticeboard

open Token (Bearer)

namespace Http

/-! ## What responses report -/

/-- What the response of an endpoint reports: that a notice was created, as the body shows it, that
the one in the path was marked or deleted, or that as many as the body says were marked. -/
def Endpoint.report (id : String) (bearer : Except Refusal Bearer) :
    Endpoint → (status : Nat) → Body → Report
  | .create, 201, .json document =>
      match document.get? Field.recipient.name, document.get? Field.read.name with
      | some (.str recipient), some (.bool read) => .created recipient read
      | _, _ => .nothing
  | .markRead, 200, _ => .marked id
  | .delete, 200, _ => .deleted id
  | .markAllRead, 200, .json summary =>
      match bearer, summary.get? "succeeded" with
      | .ok (.user user), some (.int succeeded) => .markedAll user succeeded
      | _, _ => .nothing
  | _, _, _ => .nothing

/-- What the response to a request reports. -/
def App.report (app : App) (r : Request) (clock : Int) (response : Response) : Report :=
  match route r.verb r.path with
  | .served endpoint id =>
      endpoint.report id (bearerAt app.authority r clock) response.status response.body
  | .otherVerb _ | .unknown => .nothing

theorem Endpoint.report_of_refused {endpoint : Endpoint} {id : String}
    {bearer : Except Refusal Bearer} {status : Nat} {body : Body} (h : 400 ≤ status) :
    endpoint.report id bearer status body = .nothing := by
  unfold Endpoint.report
  split <;> first | rfl | omega

theorem Endpoint.report_created (id : String) (bearer : Except Refusal Bearer) (n : Notice) :
    Endpoint.report id bearer .create 201 (.json n.document) = .created n.recipient n.read := by
  have hmember (field : Field) {x : Json} (hx : (field.name, x) ∈ n.members) :
      n.document.get? field.name = some x :=
    (Json.Members.last?_eq_some_iff n.nodup_members).mpr hx
  have hrecipient := hmember .recipient (x := .str n.recipient) (by simp [Notice.members])
  have hread := hmember .read (x := .bool n.read) (by simp [Notice.members])
  simp only [report, hrecipient, hread]

/-! ## Refusals -/

def Refusal.Refuses (refusal : Refusal) : Prop := 400 ≤ refusal.response.status

theorem refuses_refused {status : Nat} (h : 400 ≤ status) (detail : String) :
    (Refusal.refused status detail).Refuses := h

theorem refuses_unauthenticated (detail : String) : (Refusal.unauthenticated detail).Refuses :=
  (by decide : 400 ≤ 401)

theorem refuses_broken : Refusal.broken.Refuses := (by decide : 400 ≤ 500)

theorem refuses_ofFailure (f : Failure) : (Refusal.ofFailure f).Refuses := by
  rw [Refusal.ofFailure]
  split
  · rw [Refusal.ofCategory]
    split
    · exact refuses_refused (by decide) _
    · split
      · exact refuses_refused (by decide) _
      · split <;> exact refuses_refused (by decide) _
  · exact refuses_broken

theorem refuses_bearerAt {authority : Token.Authority} {r : Request} {now : Int} {e : Refusal}
    (h : bearerAt authority r now = .error e) : e.Refuses := by
  rw [bearerAt] at h
  split at h
  · cases h
    exact refuses_unauthenticated _
  · next token _ =>
      cases hb : Token.bearer authority token now with
      | ok _ => rw [hb] at h; cases h
      | error failure =>
          rw [hb] at h
          cases h
          cases failure with
          | refused => exact refuses_unauthenticated _
          | momentNotNumber | momentInfinite | outOfYears | tooDeep => exact refuses_broken

namespace App

variable {α : Type} {d : Desk} {Q : α → Store → Prop}

theorem ends_bearerOf {authority : Token.Authority} {r : Request} {f : Bearer → Handler α}
    (h : ∀ b, bearerAt authority r d.clock = .ok b → Ends Refusal.Refuses Q (f b) d) :
    Ends Refusal.Refuses Q (bearerOf authority r >>= f) d := by
  refine ends_bind (makes_bearerOf Call.reads_of_silent authority r) (fun e d' hrun => ?_)
    fun b d' hrun _ => ?_
  · rw [run_bearerOf, Prod.mk.injEq] at hrun
    exact refuses_bearerAt hrun.1
  · rw [run_bearerOf, Prod.mk.injEq] at hrun
    obtain ⟨hb, rfl⟩ := hrun
    exact h b hb

theorem ends_doing {a : Action α} (h : Ends (fun _ => True) Q a d) :
    Ends Refusal.Refuses Q (doing a) d := by
  cases hrun : (ExceptT.run a).run d with
  | mk result d' =>
      cases result with
      | ok x => exact ends_of_run _ _ (run_doing_ok hrun) (h.ok x d' hrun)
      | error f =>
          constructor
          · intro x d'' hx
            cases (run_doing_error hrun).symm.trans hx
          · intro e d'' he
            cases (run_doing_error hrun).symm.trans he
            exact ⟨refuses_ofFailure f, (h.error f d' hrun).2⟩

theorem reports_tokenAsk {report : α → Report} {b : Bearer} {task : Task} {act : String → Action α}
    (h : ∀ user, b = .user user → Reports report (act user) d) :
    Reports report (b.ask task act) d := by
  cases b with
  | user user => exact h user rfl
  | garbled _ =>
      exact reports_bind (Plan.makes_ofExcept (Plan.makes_ask trivial)) fun _ _ _ _ =>
        reports_throw _

theorem reports_store (draft : Draft) (b : Bearer) (hreads : d.store.ReadsBack) :
    Reports (fun n => .created n.recipient n.read) (store draft b) d := by
  refine reports_bind (Service.makes_completed Call.reads_of_silent draft)
    fun draft d _ hstore => ?_
  exact reports_tokenAsk fun _ _ => Service.reports_insert draft (hstore ▸ hreads)

/-- What follows on an action whose failure is answered as well: at most a note in the log. -/
theorem ends_attempt {β : Type} {R : β → Store → Prop} {a : Action α}
    {g : Except Failure α → Handler β} (h : Ends (fun _ => True) Q a d)
    (hok : ∀ x d', Q x d'.store →
      ∃ y d'', (ExceptT.run (g (.ok x))).run d' = (.ok y, d'') ∧ R y d''.store)
    (herror : ∀ f d', ∃ e d'', (ExceptT.run (g (.error f))).run d' = (.error e, d'') ∧
      e.Refuses ∧ d''.store = d'.store) :
    Ends Refusal.Refuses R (ExceptT.lift (ExceptT.run a) >>= g) d := by
  cases hrun : (ExceptT.run a).run d with
  | mk result d' =>
      cases result with
      | ok x =>
          obtain ⟨y, d'', hy, hR⟩ := hok x d' (h.ok x d' hrun)
          exact ends_of_run _ _ ((Plan.run_lift_bind hrun g).trans hy) hR
      | error f =>
          obtain ⟨e, d'', he, hrefuses, hstore⟩ := herror f d'
          have hend := (Plan.run_lift_bind hrun g).trans he
          constructor
          · intro y d3 hy
            cases hend.symm.trans hy
          · intro e' d3 he'
            cases hend.symm.trans he'
            exact ⟨hrefuses, hstore.trans (h.error f d' hrun).2⟩

theorem run_noteOn (f : Failure) (entry : Log.Entry) (d : Desk) :
    ∃ e d'', (ExceptT.run (ExceptT.lift (noteOn f entry) >>= fun _ =>
        (throw (.ofFailure f) : Handler α))).run d = (.error e, d'') ∧
      e.Refuses ∧ d''.store = d.store :=
  ⟨_, _, Plan.run_lift_bind rfl _, refuses_ofFailure f,
    Plan.store_of_makes (makes_noteOn Call.reads_of_silent f entry) d⟩

/-- Whether what an endpoint does can be told from its response. -/
abbrev Answers (app : App) (r : Request) (endpoint : Endpoint) (id : String) (d : Desk) : Prop :=
  Ends Refusal.Refuses (fun response s' => (endpoint.report id (bearerAt app.authority r d.clock)
    response.status response.body).Moves d.store s') (app.serve r endpoint id) d

variable {app : App} {r : Request} {id : String}

theorem answers_markRead : Answers app r .markRead id d := by
  refine ends_bearerOf fun b _ => ends_doing ?_
  refine reports_bind (makes_owned trivial b) fun n d' _ _ => ?_
  exact ends_map (Service.reports_markRead (some id))

theorem answers_delete : Answers app r .delete id d := by
  refine ends_bearerOf fun b _ => ?_
  have hdeletion : Reports (fun _ => .deleted id)
      (owned id b >>= fun _ => Service.delete (some id)) d :=
    reports_bind (makes_owned trivial b) fun n d' _ _ => Service.reports_delete (some id)
  refine ends_attempt hdeletion (fun _ d' h => ?_) fun f d' => run_noteOn f _ d'
  exact ⟨_, _, Plan.run_lift_bind rfl _, h⟩

theorem answers_create (hreads : d.store.ReadsBack) : Answers app r .create id d := by
  change Ends _ _ (app.create r) d
  rw [create]
  split
  · exact ends_throw (refuses_refused (by decide) _)
  · refine ends_bearerOf fun b _ => ?_
    dsimp only
    split
    · exact ends_throw (refuses_refused (by decide) _)
    · split
      · exact ends_throw (refuses_refused (by decide) _)
      · refine ends_bind (Plan.makes_lift (Plan.makes_ask trivial)) (fun _ _ h => by cases h)
          fun now d' _ hd' => ?_
        rw [← hd'] at hreads ⊢
        refine ends_attempt (reports_store _ b hreads) (fun n d'' h => ?_) fun f d'' => run_noteOn f _ d''
        refine ⟨_, _, Plan.run_lift_bind rfl _, ?_⟩
        simp only [Response.json, Endpoint.report_created]
        exact h

theorem answers_markAllRead : Answers app r .markAllRead id d := by
  refine ends_bearerOf fun b hb => ends_map (ends_doing ?_)
  have hreport : Reports (fun m => Endpoint.report id (.ok b) .markAllRead 200 (.json (summary m)))
      (markAll b) d := by
    refine reports_bind (Service.makes_limitOr Call.reads_of_silent _ _) fun limit d _ _ => ?_
    refine reports_tokenAsk fun user huser => ?_
    subst huser
    exact Service.reports_markAllRead (some user) (some limit)
  exact hb ▸ hreport

/-- The endpoints that only read report nothing. -/
theorem moves_of_reads {endpoint : Endpoint}
    (h : endpoint = .list ∨ endpoint = .countUnread ∨ endpoint = .find)
    (bearer : Except Refusal Bearer) (status : Nat) (body : Body) :
    (endpoint.report id bearer status body).Moves d.store
      ((ExceptT.run (app.serve r endpoint id)).run d).2.store := by
  have hreads : (ExceptT.run (app.serve r endpoint id)).Makes Call.Reads := by
    apply makes_serve fun _ hc => hc
    all_goals rcases h with rfl | rfl | rfl <;> simp
  rw [Plan.store_of_makes hreads]
  rcases h with rfl | rfl | rfl <;> exact Report.moves_nothing _

/-- What a response is made of keeps what the endpoint reports. -/
theorem moves_spoken {endpoint : Endpoint} (hverb : r.verb ≠ "HEAD")
    (h : Answers app r endpoint id d) {result : Except Refusal Response} {d' : Desk}
    (hrun : (ExceptT.run (app.serve r endpoint id)).run d = (result, d')) :
    (endpoint.report id (bearerAt app.authority r d.clock) (app.spoken r result).status
      (app.spoken r result).body).Moves d.store d'.store := by
  cases result with
  | ok response =>
      rw [spoken, if_neg hverb]
      exact h.ok response d' hrun
  | error refusal =>
      obtain ⟨hrefuses, hstore⟩ := h.error refusal d' hrun
      rw [hstore, Endpoint.report_of_refused (app.status_spoken r refusal ▸ hrefuses)]
      exact Report.moves_nothing _

theorem moves_respond (app : App) (r : Request) (hreads : d.store.ReadsBack) :
    (app.report r d.clock ((app.respond r).run d).1).Moves d.store
      ((app.respond r).run d).2.store := by
  cases hroute : route r.verb r.path with
  | otherVerb _ | unknown =>
      obtain ⟨response, hdone⟩ := app.respond_of_unserved (r := r) (by simp [hroute])
      rw [hdone, report, hroute]
      exact Report.moves_nothing _
  | served endpoint id =>
      have hverb := ne_head_of_route hroute
      rw [app.respond_of_served hroute, Plan.run_bind, report, hroute]
      cases endpoint with
      | create => exact moves_spoken hverb (answers_create hreads) rfl
      | markAllRead => exact moves_spoken hverb answers_markAllRead rfl
      | markRead => exact moves_spoken hverb answers_markRead rfl
      | delete => exact moves_spoken hverb answers_delete rfl
      | list => exact moves_of_reads (.inl rfl) _ _ _
      | countUnread => exact moves_of_reads (.inr (.inl rfl)) _ _ _
      | find => exact moves_of_reads (.inr (.inr rfl)) _ _ _

end App
end Http

namespace Service

/-! ## What operations report -/

/-- What the answer to an operation reports. An operation that fails, or that only reads, reports
nothing. -/
def Operation.report (clock : Int) : (o : Operation) → o.Answer → Report
  | create _, .ok n => .created n.recipient n.read
  | createNew _ _ _ _ _, .ok n => .created n.recipient n.read
  | notifyAdded _ _ _, .ok created => createdIf created
  | notifyCard _ _ _ _ _ _, .ok created => createdIf created
  | markRead id, .ok () => id.elim .nothing .marked
  | markAllRead recipient _, .ok m =>
      recipient.elim .nothing fun user => .markedAll user m.succeeded
  | delete id, .ok () => id.elim .nothing .deleted
  | deleteFor recipient, .ok () => recipient.elim .nothing .deletedFor
  | respond app r, response => app.report r clock response
  | _, _ => .nothing

def Turn.answer (t : Turn) (s : Store) : t.operation.Answer := (t.operation.plan.run (t.desk s)).1

def Turn.report (t : Turn) (s : Store) : Report := t.operation.report t.clock (t.answer s)

/-- The store after one operation and the other. -/
def final (turns : List Turn) (s : Store) : Store := turns.foldl (fun s t => t.after s) s

theorem moves_of_reports {α : Type} {report : α → Report} {a : Action α} {d : Desk}
    (h : Reports report a d) {total : Except Failure α → Report}
    (hok : ∀ x, total (.ok x) = report x) (herror : ∀ e, total (.error e) = .nothing) :
    (total ((ExceptT.run a).run d).1).Moves d.store ((ExceptT.run a).run d).2.store := by
  cases hrun : (ExceptT.run a).run d with
  | mk result d' =>
      cases result with
      | ok x =>
          rw [hok]
          exact h.ok x d' hrun
      | error e =>
          rw [herror, (h.error e d' hrun).2]
          exact Report.moves_nothing _

theorem moves_of_makes {α : Type} {p : Plan α} (h : p.Makes Call.Reads) (d : Desk) :
    Report.nothing.Moves d.store (p.run d).2.store := by
  rw [Plan.store_of_makes h]
  exact Report.moves_nothing _

/-- The numbers of unread notices move by what the answer to an operation reports, if what is stored
can be read back. -/
theorem moves_operation (o : Operation) {d : Desk} (hreads : d.store.ReadsBack) :
    (o.report d.clock (o.plan.run d).1).Moves d.store (o.plan.run d).2.store := by
  cases o with
  | create draft => exact moves_of_reports (reports_create draft hreads) (fun _ => rfl) fun _ => rfl
  | createNew recipient message sender board card =>
      exact moves_of_reports (reports_createNew _ _ _ _ _ hreads) (fun _ => rfl) fun _ => rfl
  | notifyAdded actor recipient board =>
      exact moves_of_reports (reports_notifyAdded _ _ _ hreads) (fun _ => rfl) fun _ => rfl
  | notifyCard event actor recipient board card title =>
      exact moves_of_reports (reports_notifyCard _ _ _ _ _ _ hreads) (fun _ => rfl) fun _ => rfl
  | list recipient limit offset =>
      exact moves_of_makes (makes_list Call.reads_of_silent (fun _ _ _ _ => trivial) _ _) d
  | countUnread recipient => exact moves_of_makes (makes_countUnread fun _ _ => trivial) d
  | find id => exact moves_of_makes (makes_find fun _ _ => trivial) d
  | markRead id => exact moves_of_reports (reports_markRead id) (fun _ => rfl) fun _ => rfl
  | markAllRead recipient limit =>
      exact moves_of_reports (reports_markAllRead recipient limit) (fun _ => rfl) fun _ => rfl
  | delete id => exact moves_of_reports (reports_delete id) (fun _ => rfl) fun _ => rfl
  | deleteFor recipient =>
      exact moves_of_reports (reports_deleteFor recipient) (fun _ => rfl) fun _ => rfl
  | insertBoard id title =>
      have heffect := d.effect_perform (.insertBoard id title)
      have hrun : ((Operation.insertBoard id title).plan.run d).2 =
          (d.perform (.insertBoard id title)).2 :=
        congrArg Prod.snd (Action.run_ofStore (.ask (.insertBoard id title)) d)
      rw [hrun]
      generalize (d.perform (.insertBoard id title)).2.store = s' at heffect
      cases heffect with
      | none | boarded => exact Report.moves_nothing _
  | respond app r => exact app.moves_respond r hreads

theorem notices_final (turns : List Turn) {s : Store} (h : s.notices.isSome) :
    (final turns s).notices.isSome := by
  induction turns generalizing s with
  | nil => exact h
  | cons t rest ih => exact ih (Plan.notices_run (p := t.operation.plan) (d := t.desk s) h)

/-- What holds of a user's unread notices where a run has come to some store. -/
structure Counted (s : Store) (user : String) : Prop where
  /-- The count is the number of unread notices in a listing without bounds, wherever both can be
  asked for. -/
  agrees : user ≠ "" → ∀ (d : Desk) (limit offset : Int), d.store.notices = s.notices →
    d.store.broken .listNotices = false → d.store.broken .countUnread = false →
    limit ≤ 0 → offset ≤ 0 →
    ∃ rows, (list user (some limit) offset).run d = (.ok rows, d) ∧
      (countUnread user).run d = (.ok (rows.countP (!·.read)), d) ∧
      s.unread user = rows.countP (!·.read)
  /-- Whatever is done next moves the count by what its answer reports, wherever what is stored can be
  read back. -/
  moves : ∀ t : Turn, t.ReadsBack →
    ((t.after s).unread user : Int) = s.unread user + (t.report s).shift s user

theorem unread_eq_countP_listing {s : Store} {t : NoticeTable} (ht : s.notices = some t)
    (user : String) : s.unread user = (Store.listing t user).countP (!·.read) := by
  rw [(Store.listing_perm t user).countP_eq, List.countP_filter, Store.unread, ht]
  exact List.countP_congr fun n _ => by simp [Notice.isDue, and_comm]

/-- Wherever a run has come to, counting a user's unread notices agrees with listing them, and
whatever is done next moves the count as its answer says. -/
theorem unread_counted (turns : List Turn) (user : String) :
    Counted (final turns .empty) user := by
  obtain ⟨t, ht⟩ := Option.isSome_iff_exists.mp
    (notices_final turns (s := .empty) rfl)
  generalize final turns .empty = s at ht ⊢
  refine ⟨fun huser d limit offset hnotices hlist hcount hlimit hoffset => ?agrees,
    fun turn hreads => ?moves⟩
  case agrees =>
    have hcounted := unread_eq_countP_listing ht user
    have htable (access : Access) (h : d.store.broken access = false) :
        d.store.noticesFor access = some t :=
      Store.noticesFor_eq_some_iff.mpr ⟨h, hnotices.trans ht⟩
    have hrows := Store.list_unbounded (htable _ hlist) hlimit hoffset user
    have hsame : d.store.unread user = s.unread user := by
      rw [Store.unread, hnotices, Store.unread]
    have hunread : d.store.countUnread (some user) =
        .ok ((Store.listing t user).countP (!·.read)) := by
      rw [Store.countUnread_eq (htable _ hcount), hsame, hcounted]
    exact ⟨Store.listing t user, run_list huser hrows, run_countUnread huser hunread, hcounted⟩
  case moves => exact moves_operation turn.operation (hreads s) user

example :
    let draft := Notice.draft ⟨"b1", "ann", "hello", "bob", 0, false, "", "", ""⟩
    let t : Turn := ⟨.create draft, 5, fun _ => 0, .error .originsNotJson, []⟩
    t.report .empty = .created "ann" false ∧ (t.after .empty).unread "ann" = 1 ∧
      (t.after .empty).unread "bob" = 0 := by
  decide

end Service
end Noticeboard
