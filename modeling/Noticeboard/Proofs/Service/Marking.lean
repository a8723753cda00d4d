import Noticeboard.Proofs.Service.Amid
import Noticeboard.Proofs.Service.Permanence
import Noticeboard.Proofs.Store.Listing

/-!
Marking all notices of a user while others use the store. The notices are fetched once and then
marked one by one, so that what was fetched is soon out of date: others may have marked or deleted
notices and stored new ones in between.
-/

namespace Noticeboard

/-! ## What was asked for -/

def Exchange.attempt? : Exchange → Option String
  | ⟨.setRead id _, _⟩ => id
  | _ => none

def Exchange.failure? : Exchange → Option String
  | ⟨.setRead id _, .error _⟩ => id
  | _ => none

/-- The identifiers of the notices that were to be marked, in the order of the calls. -/
def attempts (past : List Exchange) : List String := past.filterMap Exchange.attempt?

/-- The identifiers of the notices that the store failed to mark, in the order of the calls. -/
def failures (past : List Exchange) : List String := past.filterMap Exchange.failure?

theorem attempts_append (past later : List Exchange) :
    attempts (past ++ later) = attempts past ++ attempts later :=
  List.filterMap_append

theorem failures_append (past later : List Exchange) :
    failures (past ++ later) = failures past ++ failures later :=
  List.filterMap_append

/-- Whether a listing was asked for. -/
def Fetched (past : List Exchange) : Prop := ∃ e ∈ past, ∃ r l o, e.call = .list r l o

namespace Store

/-- Whether the rows of some notices are as they were, or read since, or gone. -/
structure StemsUnder (notices : List Notice) (s s' : Store) : Prop where
  table : s.notices.isSome → s'.notices.isSome
  rows : ∀ n ∈ notices, ∀ m, s'.noticeAt n.id = some m →
    ∃ k, s.noticeAt n.id = some k ∧ k.Becomes m

theorem stemsUnder_refl (notices : List Notice) (s : Store) : s.StemsUnder notices s :=
  ⟨fun h => h, fun _ _ m hm => ⟨m, hm, m.becomes_refl⟩⟩

theorem stemsUnder_trans {notices : List Notice} {s s' s'' : Store} (h : s.StemsUnder notices s')
    (h' : s'.StemsUnder notices s'') : s.StemsUnder notices s'' where
  table := fun hs => h'.table (h.table hs)
  rows n hn m hm := by
    obtain ⟨k, hk, hkm⟩ := h'.rows n hn m hm
    obtain ⟨j, hj, hjk⟩ := h.rows n hn k hk
    exact ⟨j, hj, Notice.becomes_trans hjk hkm⟩

theorem StemsUnder.read {notices : List Notice} {s s' : Store} (h : s.StemsUnder notices s')
    {n : Notice} (hn : n ∈ notices) (hread : ∀ k, s.noticeAt n.id = some k → k.read = true)
    {m : Notice} (hm : s'.noticeAt n.id = some m) : m.read = true := by
  obtain ⟨k, hk, hkm⟩ := h.rows n hn m hm
  exact hkm.2 (hread k hk)

theorem StemsUnder.absent {notices : List Notice} {s s' : Store} (h : s.StemsUnder notices s')
    {n : Notice} (hn : n ∈ notices) (habsent : s.noticeAt n.id = none) :
    s'.noticeAt n.id = none := by
  cases hm : s'.noticeAt n.id with
  | none => rfl
  | some m =>
      obtain ⟨k, hk, _⟩ := h.rows n hn m hm
      rw [habsent] at hk
      cases hk

end Store

/-! ## Others -/

/-- Whether what somebody else does spares some notices: none is marked as unread, which no
operation does, and nothing is stored under their identifiers. -/
def Beat.Spares (notices : List Notice) : Beat → Prop
  | .other c => c.OnlyMarksRead ∧
      ∀ draft, c = .insert draft → ∀ n ∈ notices, draft.id ≠ some n.id
  | .own | .flawed _ => True

theorem spares_setRead (id : Option String) (notices : List Notice) :
    (Beat.other (.setRead id (some true))).Spares notices :=
  ⟨trivial, fun _ h => by cases h⟩

theorem Call.insertsNone_of_onlyMarksRead {c : Call} (h : c.OnlyMarksRead)
    (hinsert : ∀ draft, c ≠ .insert draft) : c.InsertsNone := by
  cases c with
  | insert draft => exact absurd rfl (hinsert draft)
  | _ => exact h

theorem Store.stemsUnder_of_effect {notices : List Notice} {s s' : Store} {c : Call}
    (hc : (Beat.other c).Spares notices) (h : Effect s c s') : s.StemsUnder notices s' := by
  refine ⟨notices_of_effect h, fun n hn m hm => ?_⟩
  by_cases hinsert : ∃ draft, c = .insert draft
  · obtain ⟨draft, rfl⟩ := hinsert
    cases h with
    | none => exact ⟨m, hm, m.becomes_refl⟩
    | @inserted _ k _ hk =>
        obtain ⟨_, _, hrow, _⟩ := insert_eq_ok_iff.mp hk
        have hother : k.id ≠ n.id := fun heq => hc.2 draft rfl n hn (heq ▸ id_of_row hrow)
        rw [noticeAt_insert hk, if_neg hother] at hm
        exact ⟨m, hm, m.becomes_refl⟩
  · have hnone := Call.insertsNone_of_onlyMarksRead hc.1 fun draft hd => hinsert ⟨draft, hd⟩
    exact stems_of_effect h hnone n.id m hm

namespace Service

/-! ## The terms -/

/-- What marking all may ask for: one listing, and then to mark what it was shown as unread. -/
def MayMark (recipient : Option String) (past : List Exchange) : Call → Prop
  | .list r _ offset => r = recipient ∧ offset = 0 ∧ ¬ Fetched past
  | .setRead id read => read = some true ∧
      ∃ n ∈ shown past, id = some n.id ∧ n.read = false ∧ recipient = some n.recipient
  | c => c.Silent

/-- The terms on which the notices of a user are marked: others spare what was fetched. -/
def markingTerms (recipient : Option String) : Terms where
  others past s s' := s.StemsUnder (shown past) s'
  own past _ c := MayMark recipient past c
  trans := Store.stemsUnder_trans

variable {recipient : Option String} {past : List Exchange} {d : Desk}

theorem mayMark_of_silent (c : Call) (h : c.Silent) (past : List Exchange) (s : Store) :
    (markingTerms recipient).own past s c := by
  cases c with
  | list _ _ _ | setRead _ _ => exact h.elim
  | _ => exact h

/-- Calls that have nothing to do with notices tell nothing of them. -/
theorem untold_of_silent {later : List Exchange} (h : ∀ e ∈ later, e.call.Silent) :
    shown later = [] ∧ attempts later = [] ∧ failures later = [] ∧ ¬ Fetched later := by
  have untold : ∀ e : Exchange, e.call.Silent →
      e.shown = [] ∧ e.attempt? = none ∧ e.failure? = none ∧ ∀ r l o, e.call ≠ .list r l o := by
    rintro ⟨c, answer⟩ hc
    cases c with
    | list _ _ _ | find _ | setRead _ _ => exact hc.elim
    | _ => exact ⟨rfl, rfl, rfl, nofun⟩
  refine ⟨List.flatMap_eq_nil_iff.mpr fun e he => (untold e (h e he)).1,
    List.filterMap_eq_nil_iff.mpr fun e he => (untold e (h e he)).2.1,
    List.filterMap_eq_nil_iff.mpr fun e he => (untold e (h e he)).2.2.1, ?_⟩
  rintro ⟨e, he, r, l, o, hlist⟩
  exact (untold e (h e he)).2.2.2 r l o hlist

/-- What has come of marking some notices, of which `fetched` were shown before. -/
structure Settled (fetched todo : List Notice) (past : List Exchange) (s : Store)
    (past' : List Exchange) (failed : List String) (s' : Store) : Prop where
  shown : shown past' = fetched
  attempts : attempts past' = attempts past ++ todo.map Notice.id
  failures : failures past' = failures past ++ failed
  stems : s.StemsUnder fetched s'
  read : failed = [] → ∀ n ∈ todo, ∀ m, s'.noticeAt n.id = some m → m.read = true

theorem Settled.append {fetched todo rest : List Notice} {past past' past'' : List Exchange}
    {s s' s'' : Store} {failed later : List String}
    (h : Settled fetched todo past s past' failed s')
    (hrest : Settled fetched rest past' s' past'' later s'') (htodo : ∀ n ∈ todo, n ∈ fetched) :
    Settled fetched (todo ++ rest) past s past'' (failed ++ later) s'' where
  shown := hrest.shown
  attempts := by rw [hrest.attempts, h.attempts, List.map_append, List.append_assoc]
  failures := by rw [hrest.failures, h.failures, List.append_assoc]
  stems := Store.stemsUnder_trans h.stems hrest.stems
  read hnone n hn m hm := by
    obtain ⟨hfirst, hlater⟩ := List.append_eq_nil_iff.mp hnone
    rcases List.mem_append.mp hn with hn | hn
    · exact hrest.stems.read (htodo n hn) (h.read hfirst n hn) hm
    · exact hrest.read hlater n hn m hm

theorem settled_note {fetched : List Notice} {s s' : Store} (hshown : shown past = fetched)
    (h : s.StemsUnder fetched s') (entry : Log.Entry) :
    Settled fetched [] past s (past ++ [⟨.note entry, ()⟩]) [] s' where
  shown := by rw [shown_concat, hshown]; exact List.append_nil _
  attempts := by simp [attempts, Exchange.attempt?]
  failures := by simp [failures, Exchange.failure?]
  stems := h
  read _ _ hm := nomatch hm

theorem settled_setRead {fetched : List Notice} {s : Store} (hshown : shown past = fetched)
    (hs : d.store.StemsUnder fetched s) (n : Notice) :
    Settled fetched [n] past d.store
      (past ++ [⟨.setRead n.id (some true),
        ((d.withStore s).perform (.setRead n.id (some true))).1⟩])
      (failures [⟨.setRead n.id (some true),
        ((d.withStore s).perform (.setRead n.id (some true))).1⟩])
      ((d.withStore s).perform (.setRead n.id (some true))).2.store where
  shown := by rw [shown_concat, hshown]; exact List.append_nil _
  attempts := by simp [attempts, Exchange.attempt?]
  failures := by simp [failures]
  stems := Store.stemsUnder_trans hs
    (Store.stemsUnder_of_effect (spares_setRead n.id fetched) ((d.withStore s).effect_perform _))
  read hnone m hm k hk := by
    obtain rfl := List.mem_singleton.mp hm
    rw [Desk.perform, Desk.store_writing] at hk
    rw [Desk.perform, Desk.answer_writing] at hnone
    cases hset : s.setRead m.id (some true) with
    | error e =>
        simp only [Desk.withStore, hset] at hnone
        cases hnone
    | ok s' =>
        simp only [Desk.withStore, hset] at hk
        rw [Except.map, Desk.kept, Store.noticeAt_setRead hset] at hk
        obtain ⟨j, hj, rfl⟩ := Option.map_eq_some_iff.mp hk
        rw [Store.marked_eq, if_pos (Store.id_of_noticeAt hj)]

theorem amid_markEach {fetched todo : List Notice} (hshown : shown past = fetched)
    (h : ∀ n ∈ todo, n ∈ fetched ∧ n.read = false ∧ recipient = some n.recipient) :
    (markEach todo).Amid (markingTerms recipient)
      (fun past' failed d' => Settled fetched todo past d.store past' failed d'.store) past d := by
  induction todo generalizing past d with
  | nil => exact ⟨hshown, by simp, by simp, Store.stemsUnder_refl _ _, by simp⟩
  | cons n rest ih =>
      obtain ⟨hn, hunread, hrecipient⟩ := h n List.mem_cons_self
      have hrest : ∀ m ∈ rest, m ∈ fetched ∧ m.read = false ∧ recipient = some m.recipient :=
        fun m hm => h m (List.mem_cons_of_mem n hm)
      have hfetched : ∀ m ∈ [n], m ∈ fetched := fun m hm => List.mem_singleton.mp hm ▸ hn
      intro s hs
      have hfound : d.store.StemsUnder fetched s :=
        hshown ▸ (hs : d.store.StemsUnder (shown past) s)
      refine ⟨⟨rfl, n, hshown ▸ hn, rfl, hunread, hrecipient⟩, ?_⟩
      have hfirst := settled_setRead hshown hfound n
      generalize (d.withStore s).perform (.setRead n.id (some true)) = result at hfirst ⊢
      obtain ⟨answer, d'⟩ := result
      cases answer with
      | ok _ =>
          exact Plan.amid_mono (ih hfirst.shown hrest) fun _ _ _ hlater =>
            hfirst.append hlater hfetched
      | error _ =>
          -- The failure is noted, and others may come before the note as before any other call.
          intro s' hs'
          have hfound' : d'.store.StemsUnder fetched s' :=
            hfirst.shown ▸ (hs' : d'.store.StemsUnder (shown _) s')
          have hnoted := settled_note hfirst.shown hfound' .notMarked
          refine ⟨trivial, ?_⟩
          change (markEach rest >>= fun failed => .done (n.id :: failed)).Amid _ _ _
            ((d'.withStore s').noted .notMarked)
          refine Plan.amid_bind (ih hnoted.shown hrest) fun _ failed _ hlater => ?_
          exact (hfirst.append hnoted hfetched).append hlater (by simpa using hn)

/-- What the result of marking all says of the calls that were made. -/
structure Reported (past : List Exchange) (m : Marking) (s : Store) : Prop where
  attempted : m.attempted = (attempts past).length
  attempts : attempts past = ((shown past).filter (!·.read)).map Notice.id
  failed : m.failed = failures past
  read : failures past = [] → ∀ n ∈ shown past, ∀ k, s.noticeAt n.id = some k → k.read = true

theorem Reported.found {m : Marking} {s s' : Store} (h : Reported past m s)
    (hs : s.StemsUnder (shown past) s') : Reported past m s' :=
  { h with read := fun hnone n hn _ hk => hs.read hn (h.read hnone n hn) hk }

theorem Reported.noted {m : Marking} {s : Store} (h : Reported past m s) (entry : Log.Entry) :
    Reported (past ++ [⟨.note entry, ()⟩]) m s := by
  have hshown : shown (past ++ [⟨.note entry, ()⟩]) = shown past := by
    rw [shown_concat]
    exact List.append_nil _
  have hattempts :
      Noticeboard.attempts (past ++ [⟨.note entry, ()⟩]) = Noticeboard.attempts past := by
    simp [Noticeboard.attempts, Exchange.attempt?]
  have hfailures : failures (past ++ [⟨.note entry, ()⟩]) = failures past := by
    simp [failures, Exchange.failure?]
  exact ⟨hattempts ▸ h.attempted, by rw [hattempts, hshown, h.attempts], hfailures ▸ h.failed,
    hfailures ▸ hshown ▸ h.read⟩

theorem reported_of_settled {rows : List Notice} {past' : List Exchange} {failed : List String}
    {s s' : Store} (h : Settled rows (rows.filter (!·.read)) past s past' failed s')
    (hattempts : attempts past = []) (hfailures : failures past = [])
    (hrows : ∀ n ∈ rows, s.noticeAt n.id = some n) :
    Reported past' ⟨(rows.filter (!·.read)).length, failed⟩ s' := by
  have hattempted := h.attempts
  have hfailed := h.failures
  rw [hattempts, List.nil_append] at hattempted
  rw [hfailures, List.nil_append] at hfailed
  refine ⟨by rw [hattempted, List.length_map], by rw [hattempted, h.shown], hfailed.symm, ?_⟩
  rw [hfailed, h.shown]
  intro hnone n hn k hk
  -- What was read when it was fetched is not marked, but it stays read.
  by_cases hread : n.read = true
  · refine h.stems.read hn (fun j hj => ?_) hk
    rw [hrows n hn] at hj
    cases hj
    exact hread
  · exact h.read hnone n (List.mem_filter.mpr ⟨hn, by simpa using hread⟩) k hk

theorem amid_markAllRead (recipient : Option String) (limit : Option Int) (d : Desk) :
    (ExceptT.run (markAllRead recipient limit)).Amid (markingTerms recipient)
      (fun past result d' => ∀ m, result = .ok m → Reported past m d'.store) [] d := by
  rw [markAllRead]
  refine Plan.amid_required_bind (fun user huser => ?_) fun _ h => nomatch h
  refine Plan.amid_exceptBind (Plan.amid_of_silent (makes_limitOr (fun _ h => h) limit _)
    mayMark_of_silent [] d) (fun past limit d hpast => ?_) fun _ _ _ _ _ h => nomatch h
  obtain ⟨later, rfl, hlater⟩ := hpast
  obtain ⟨hshown, hattempts, hfailures, hfetched⟩ := untold_of_silent hlater
  refine Plan.amid_exceptBind (R := fun past result d' => ∀ rows, result = .ok rows →
      (shown past = rows ∧ attempts past = [] ∧ failures past = []) ∧
        ∀ n ∈ rows, d'.store.noticeAt n.id = some n ∧ n.recipient = user)
    (Plan.amid_list fun s d' _ hd' => ⟨⟨huser.symm, rfl, hfetched⟩, fun rows hrows => ?_⟩)
    (fun past rows d h => ?_) fun _ _ _ _ _ h => nomatch h
  · cases hlist : s.list (some user) limit 0 with
    | error _ => rw [hlist] at hrows; cases hrows
    | ok rows' =>
        rw [hlist] at hrows
        cases hrows
        refine ⟨⟨?_, ?_, ?_⟩, fun n hn => hd' ▸ Store.noticeAt_of_list hlist hn⟩
        · rw [shown_concat, hshown]
          rfl
        · rw [attempts_append, hattempts]
          rfl
        · rw [failures_append, hfailures]
          rfl
  · obtain ⟨⟨hshown, hattempts, hfailures⟩, hrows⟩ := h rows rfl
    refine Plan.amid_exceptBind (R := fun past result d' => ∀ failed, result = .ok failed →
        Reported past ⟨(rows.filter (!·.read)).length, failed⟩ d'.store)
      (Plan.amid_lift (amid_markEach hshown fun n hn => ?_) fun past' failed d' hsettled => ?_)
      (fun past failed d hreported => ?_) fun _ _ _ _ _ h => nomatch h
    · obtain ⟨hn, hunread⟩ := List.mem_filter.mp hn
      exact ⟨hn, by simpa using hunread, huser.trans (congrArg some (hrows n hn).2.symm)⟩
    · intro f hf
      cases hf
      exact reported_of_settled hsettled hattempts hfailures fun n hn => (hrows n hn).1
    · dsimp only
      have hreported := hreported failed rfl
      split
      · refine Plan.amid_lift_bind fun s hs => ⟨trivial, fun m hm => ?_⟩
        cases hm
        exact (hreported.found hs).noted _
      · intro m hm
        cases hm
        exact hreported

/-! ## In the course of a session -/

/-- What a call that marks what was fetched does to the rows that it finds. -/
structure OnlyMarks (recipient : Option String) (past : List Exchange) (s s' : Store) : Prop where
  boards : s'.boards = s.boards
  stays : s.Stays s'
  stems : s.Stems s'
  fetched : ∀ id, s'.noticeAt id ≠ s.noticeAt id →
    ∃ n ∈ shown past, n.id = id ∧ n.read = false ∧ recipient = some n.recipient

theorem onlyMarks_of_effect {s s' : Store} {c : Call} (hc : MayMark recipient past c)
    (h : Effect s c s') : OnlyMarks recipient past s s' := by
  cases h with
  | none => exact ⟨rfl, s.stays_refl, s.stems_refl, fun _ h => absurd rfl h⟩
  | @flagged id read _ hflag =>
      obtain ⟨hread, n, hn, hid, hunread⟩ := hc
      cases hread
      cases hid
      have heffect : Effect s (.setRead n.id (some true)) s' := .flagged hflag
      refine ⟨?_, stays_of_effect heffect trivial, stems_of_effect heffect trivial, fun k hk => ?_⟩
      · obtain ⟨t, _, rfl⟩ := Store.setRead_ok hflag
        rfl
      · refine ⟨n, hn, ?_, hunread⟩
        by_contra hother
        apply hk
        rw [Store.noticeAt_setRead hflag]
        cases hrow : s.noticeAt k with
        | none => rfl
        | some m =>
            rw [Option.map_some, Store.marked, Store.id_of_noticeAt hrow,
              if_neg fun heq => hother heq.symm]
  | inserted _ | deleted _ | deletedFor _ | boarded => exact hc.elim

theorem spares_of_mayMark {c : Call} (hc : MayMark recipient past c) (notices : List Notice) :
    (Beat.other c).Spares notices := by
  cases c with
  | setRead id read =>
      obtain ⟨rfl, _⟩ := hc
      exact spares_setRead id notices
  | insert _ => exact hc.elim
  | _ => exact ⟨trivial, fun _ h => by cases h⟩

abbrev MarkingSession := Session (Except Failure Marking)

/-- Whether what others do in the course of a session spares what it has been shown by then. -/
def Spared (x : MarkingSession) : List Beat → Prop
  | [] => True
  | b :: rest => b.Spares (shown x.past) ∧ Spared (x.after b) rest

theorem spared_append {x : MarkingSession} {early late : List Beat} :
    Spared x (early ++ late) ↔ Spared x early ∧ Spared (x.through early) late := by
  induction early generalizing x with
  | nil => simp [Spared, Session.through]
  | cons b rest ih =>
      rw [List.cons_append, Spared, Spared, ih, and_assoc]
      rfl

/-- What holds while the notices of a user are being marked. -/
structure Underway (recipient : Option String) (x : MarkingSession) : Prop where
  keeps : x.Keeps (markingTerms recipient) fun past result d =>
    ∀ m, result = .ok m → Reported past m d.store
  fetched : ∀ n ∈ shown x.past, Fetched x.past ∧ x.desk.store.notices.isSome

/-- How a later point of a session follows on one at which the notices were fetched. -/
structure Onward (x y : MarkingSession) : Prop where
  fetched : Fetched y.past
  shown : shown y.past = shown x.past
  stems : x.desk.store.StemsUnder (Noticeboard.shown x.past) y.desk.store
  /-- To mark what is gone does not fail. -/
  absent : ∀ n ∈ Noticeboard.shown x.past, x.desk.store.noticeAt n.id = none →
    n.id ∈ failures y.past → n.id ∈ failures x.past

theorem onward_refl {x : MarkingSession} (h : Fetched x.past) : Onward x x :=
  ⟨h, rfl, Store.stemsUnder_refl _ _, fun _ _ _ h => h⟩

theorem onward_trans {x y z : MarkingSession} (h : Onward x y) (h' : Onward y z) : Onward x z where
  fetched := h'.fetched
  shown := h'.shown.trans h.shown
  stems := Store.stemsUnder_trans h.stems (h.shown ▸ h'.stems)
  absent n hn habsent hfailed :=
    h.absent n hn habsent (h'.absent n (h.shown ▸ hn) (h.stems.absent hn habsent) hfailed)

section Step

variable {x : MarkingSession} {b : Beat}

theorem Underway.next_cases (h : Underway recipient x) : x.next = x ∨ ∃ c,
    MayMark recipient x.past c ∧ x.next.past = x.past ++ [⟨c, (x.desk.perform c).1⟩] ∧
      x.next.desk = (x.desk.perform c).2 := by
  cases hc : x.upcoming? with
  | none => exact .inl (Session.next_of_done hc)
  | some c =>
      obtain ⟨_, hown⟩ := Session.keeps_next h.keeps (Store.stemsUnder_refl _ _)
      exact .inr ⟨c, hown c hc, Session.next_of_upcoming hc⟩

theorem Underway.stems_after (h : Underway recipient x) (hb : b.Spares (shown x.past)) :
    x.desk.store.StemsUnder (shown x.past) (x.after b).desk.store := by
  cases b with
  | own =>
      rcases h.next_cases with hdone | ⟨c, hc, _, hdesk⟩
      · rw [Session.after, hdone]
        exact Store.stemsUnder_refl _ _
      · rw [Session.after, hdesk]
        exact Store.stemsUnder_of_effect (spares_of_mayMark hc _) (x.desk.effect_perform c)
  | other c => exact Store.stemsUnder_of_effect hb (x.desk.effect_perform c)
  | flawed flaws => exact ⟨fun h => h, fun _ _ m hm => ⟨m, hm, m.becomes_refl⟩⟩

theorem stable_reported : Session.Stable (markingTerms recipient)
    fun past (result : Except Failure Marking) d => ∀ m, result = .ok m → Reported past m d.store :=
  fun _ _ _ _ h hs m hm => (h m hm).found hs

theorem fetched_append {later : List Exchange} (h : Fetched past) : Fetched (past ++ later) := by
  obtain ⟨e, he, hlist⟩ := h
  exact ⟨e, List.mem_append_left _ he, hlist⟩

/-- Only the listing shows anything, and it needs the table. -/
theorem listed_of_shown {c : Call} (hc : MayMark recipient past c) {d : Desk} {n : Notice}
    (hn : n ∈ Exchange.shown ⟨c, (d.perform c).1⟩) :
    (∃ r l o, c = .list r l o) ∧ d.store.notices.isSome := by
  cases c with
  | list r l o =>
      refine ⟨⟨r, l, o, rfl⟩, ?_⟩
      rw [Desk.perform, Desk.answer_reading, Store.list] at hn
      cases ht : d.store.noticesFor .listNotices with
      | none => simp [ht, Exchange.shown] at hn
      | some t => simp [(Store.noticesFor_eq_some_iff.mp ht).2]
  | find _ => exact hc.elim
  | _ => cases hn

theorem Underway.after (h : Underway recipient x) (hb : b.Spares (shown x.past)) :
    Underway recipient (x.after b) := by
  have hstems := h.stems_after hb
  cases b with
  | own =>
      refine ⟨(Session.keeps_next h.keeps (Store.stemsUnder_refl _ _)).1, fun n hn => ?_⟩
      rw [Session.after] at hn hstems ⊢
      rcases h.next_cases with hdone | ⟨c, hc, hpast, hdesk⟩
      · rw [hdone] at hn ⊢
        exact h.fetched n hn
      · rw [hpast, shown_concat] at hn
        rcases List.mem_append.mp hn with hn | hn
        · obtain ⟨hfetched, htable⟩ := h.fetched n hn
          exact ⟨hpast ▸ fetched_append hfetched, hstems.table htable⟩
        · obtain ⟨⟨r, l, o, rfl⟩, htable⟩ := listed_of_shown hc hn
          exact ⟨hpast ▸ ⟨_, List.mem_append_right _ List.mem_cons_self, r, l, o, rfl⟩,
            hstems.table htable⟩
  | other c => exact ⟨Session.keeps_finding stable_reported h.keeps hstems,
      fun n hn => (h.fetched n hn).imp_right hstems.table⟩
  | flawed flaws => exact ⟨Session.keeps_finding stable_reported h.keeps hstems, h.fetched⟩

theorem failure_of_absent {c : Call} (hc : MayMark recipient past c) {d : Desk}
    (hs : d.store.notices.isSome) {id : String} (habsent : d.store.noticeAt id = none) :
    Exchange.failure? ⟨c, (d.perform c).1⟩ ≠ some id := by
  cases c with
  | setRead k read =>
      intro hfailed
      rw [Desk.perform, Desk.answer_writing] at hfailed
      cases hset : d.store.setRead k read with
      | ok s' => rw [hset] at hfailed; cases hfailed
      | error _ =>
          rw [hset] at hfailed
          obtain rfl : k = some id := hfailed
          rw [Store.setRead_absent hs habsent] at hset
          cases hset
  | _ => exact fun h => by cases h

theorem Underway.onward_after (h : Underway recipient x) (hfetched : Fetched x.past)
    (hb : b.Spares (shown x.past)) : Onward x (x.after b) := by
  have hstems := h.stems_after hb
  cases b with
  | own =>
      rw [Session.after] at hstems ⊢
      rcases h.next_cases with hdone | ⟨c, hc, hpast, hdesk⟩
      · rw [hdone]
        exact onward_refl hfetched
      · refine ⟨hpast ▸ fetched_append hfetched, ?_, hstems, fun n hn habsent hfailed => ?_⟩
        · -- The listing is asked for once only.
          have hnone : Exchange.shown ⟨c, (x.desk.perform c).1⟩ = [] := by
            rw [List.eq_nil_iff_forall_not_mem]
            intro n hn
            obtain ⟨⟨r, l, o, rfl⟩, _⟩ := listed_of_shown hc hn
            exact hc.2.2 hfetched
          rw [hpast, shown_concat, hnone, List.append_nil]
        · rw [hpast, failures_append, List.mem_append] at hfailed
          refine hfailed.resolve_right fun hlast => ?_
          obtain ⟨e, he, hfailure⟩ := List.mem_filterMap.mp hlast
          obtain rfl := List.mem_singleton.mp he
          exact failure_of_absent hc (h.fetched n hn).2 habsent hfailure
  | other c => exact ⟨hfetched, rfl, hstems, fun _ _ _ h => h⟩
  | flawed flaws => exact ⟨hfetched, rfl, hstems, fun _ _ _ h => h⟩

end Step

variable {x : MarkingSession} {beats : List Beat}

theorem Underway.through (h : Underway recipient x) (hbeats : Spared x beats) :
    Underway recipient (x.through beats) := by
  induction beats generalizing x with
  | nil => exact h
  | cons b rest ih => exact ih (h.after hbeats.1) hbeats.2

theorem Underway.onward_through (h : Underway recipient x) (hfetched : Fetched x.past)
    (hbeats : Spared x beats) : Onward x (x.through beats) := by
  induction beats generalizing x with
  | nil => exact onward_refl hfetched
  | cons b rest ih =>
      have honward := h.onward_after hfetched hbeats.1
      exact onward_trans honward (ih (h.after hbeats.1) honward.fetched hbeats.2)

theorem underway_start (recipient : Option String) (limit : Option Int) (d : Desk) :
    Underway recipient (.start (ExceptT.run (markAllRead recipient limit)) d) :=
  ⟨amid_markAllRead recipient limit d, fun _ hn => nomatch hn⟩

/-- What holds of marking all of a user's notices at any point, whatever others did until then. -/
structure Undisturbed (recipient : Option String) (x : MarkingSession) (beats : List Beat) :
    Prop where
  /-- The next call adds and removes no row, and at most marks as read what was fetched as
  unread. -/
  own : OnlyMarks recipient (x.through beats).past (x.through beats).desk.store
    (x.through beats).next.desk.store
  /-- The result counts the unread notices that were fetched, each of which was to be marked in its
  turn, and tells which of them the store failed to mark. -/
  reported : ∀ m, (x.through beats).plan = .done (.ok m) →
    m.attempted = (attempts (x.through beats).past).length ∧
    attempts (x.through beats).past =
      ((shown (x.through beats).past).filter (!·.read)).map Notice.id ∧
    m.failed = failures (x.through beats).past
  /-- A fetched notice that is gone does not come back, and unless it failed before, it does not
  count as failed. -/
  gone : ∀ early late, beats = early ++ late → ∀ n ∈ shown (x.through early).past,
    (x.through early).desk.store.noticeAt n.id = none →
    (x.through beats).desk.store.noticeAt n.id = none ∧
      (n.id ∉ failures (x.through early).past →
        ∀ m, (x.through beats).plan = .done (.ok m) → n.id ∉ m.failed)
  /-- A notice that is stored after the listing was fetched is left alone. -/
  saved : ∀ early draft n s' late, beats = early ++ .other (.insert draft) :: late →
    Fetched (x.through early).past →
    (x.through early).desk.store.insert draft = .ok (n, s') →
    (x.through beats).next.desk.store.noticeAt n.id = (x.through beats).desk.store.noticeAt n.id
  /-- Where the store never failed to mark a notice, whatever was fetched and is still there has
  been read in the end. -/
  settled : failures (x.through beats).past = [] → ∀ m, (x.through beats).plan = .done (.ok m) →
    m.failed = [] ∧ ∀ n ∈ shown (x.through beats).past,
      ∀ k, (x.through beats).desk.store.noticeAt n.id = some k → k.read = true

theorem marking_undisturbed (recipient : Option String) (limit : Option Int) (d : Desk)
    (beats : List Beat)
    (h : Spared (.start (ExceptT.run (markAllRead recipient limit)) d) beats) :
    Undisturbed recipient (.start (ExceptT.run (markAllRead recipient limit)) d) beats := by
  have hstart := underway_start recipient limit d
  generalize Session.start (ExceptT.run (markAllRead recipient limit)) d = x at h hstart ⊢
  have hnow := hstart.through h
  have hdone (m : Marking) (hm : (x.through beats).plan = .done (.ok m)) :
      Reported (x.through beats).past m (x.through beats).desk.store := by
    have hkeeps := hnow.keeps
    rw [Session.Keeps, hm] at hkeeps
    exact hkeeps m rfl
  have hown : OnlyMarks recipient (x.through beats).past (x.through beats).desk.store
      (x.through beats).next.desk.store := by
    rcases hnow.next_cases with hsame | ⟨c, hc, _, hdesk⟩
    · rw [hsame]
      exact onlyMarks_of_effect (c := .now) trivial (.none _)
    · rw [hdesk]
      exact onlyMarks_of_effect hc ((x.through beats).desk.effect_perform c)
  refine ⟨hown, fun m hm => ?reported, ?gone, ?saved, fun hnone m hm => ?settled⟩
  case reported => exact ⟨(hdone m hm).attempted, (hdone m hm).attempts, (hdone m hm).failed⟩
  case gone =>
    rintro early late rfl n hn habsent
    obtain ⟨hearly, hlate⟩ := spared_append.mp h
    have hthen := hstart.through hearly
    have honward := hthen.onward_through (hthen.fetched n hn).1 hlate
    rw [Session.through_append] at hdone ⊢
    refine ⟨honward.stems.absent hn habsent, fun hnot m hm hfailed => hnot ?_⟩
    rw [(hdone m hm).failed] at hfailed
    exact honward.absent n hn habsent hfailed
  case saved =>
    rintro early draft n s' late rfl hfetched hinsert
    obtain ⟨hearly, hlate⟩ := spared_append.mp h
    have honward := (hstart.through hearly).onward_through hfetched hlate
    rw [Session.through_append] at hown ⊢
    by_contra hchanged
    obtain ⟨m, hm, hid, _⟩ := hown.fetched n.id hchanged
    obtain ⟨_, _, hrow, _⟩ := Store.insert_eq_ok_iff.mp hinsert
    exact hlate.1.2 draft rfl m (honward.shown ▸ hm) (hid ▸ Store.id_of_row hrow)
  case settled => exact ⟨(hdone m hm).failed.trans hnone, (hdone m hm).read hnone⟩

/-- A desk with two notices of ann's, both unread. -/
def unreadDesk : Desk where
  store := {
    notices := some ⟨[⟨"n1", "ann", "hello", "bob", 5, false, "", "", ""⟩,
      ⟨"n2", "ann", "hello", "bob", 6, false, "", "", ""⟩], by decide⟩
    boards := some .empty
    flaws := [] }
  clock := 7
  supply := fun _ => 0
  drawn := 0
  settings := .error .originsNotJson
  log := []

/-- Once both are fetched, one is deleted and another one stored before they are marked. -/
def busyBeats : List Beat :=
  [.own, .other (.delete "n1"),
    .other (.insert (Notice.draft ⟨"n3", "ann", "hello", "bob", 7, false, "", "", ""⟩)), .own, .own]

theorem marked_amid_others :
    let x : MarkingSession := .start (ExceptT.run (markAllRead "ann" (some 9))) unreadDesk
    Spared x busyBeats ∧
    ((x.through busyBeats).desk.store.notices.map (·.rows.map fun n => (n.id, n.read))) =
      some [("n3", false), ("n2", true)] ∧
    (x.through busyBeats).plan = .done (.ok ⟨2, []⟩) ∧
    Undisturbed "ann" x busyBeats := by
  intro x
  have fetched : (shown (x.through [.own, .other (.delete "n1")]).past).map Notice.id =
      ["n2", "n1"] := by
    cbv
  have spared : Spared x busyBeats := by
    simp only [busyBeats, Spared, Beat.Spares, true_and, and_true]
    refine ⟨⟨trivial, fun _ h => by cases h⟩, trivial, fun draft h n hn hid => ?_⟩
    cases h
    have hmem : n.id ∈ ["n2", "n1"] := fetched ▸ List.mem_map_of_mem hn
    rw [← Option.some.inj hid] at hmem
    simp at hmem
  refine ⟨spared, ?_, ?_, marking_undisturbed "ann" (some 9) unreadDesk busyBeats spared⟩
  · cbv
  · cbv

end Service
end Noticeboard
