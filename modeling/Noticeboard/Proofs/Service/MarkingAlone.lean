import Noticeboard.Proofs.Service.Counting
import Noticeboard.Proofs.Service.Creation
import Noticeboard.Proofs.Service.Marking
import Noticeboard.Store.Fault

/-!
Marking all notices of a user on a store that nobody else uses meanwhile. Some of the updates may
fail. What is marked is then told exactly by the listing and by which updates fail, and as long as
rows only come to be read, a second attempt takes up what the first one failed at.
-/

namespace Noticeboard

/-! ## The calls of a run -/

namespace Plan

variable {α β ε : Type}

/-- The calls that a plan makes when it runs alone, with the answers to them. -/
def exchanges : Plan α → Desk → List Exchange
  | done _, _ => []
  | call c next, d => ⟨c, (d.perform c).1⟩ :: (next (d.perform c).1).exchanges (d.perform c).2

theorem exchanges_bind (p : Plan α) (f : α → Plan β) (d : Desk) :
    (p >>= f).exchanges d = p.exchanges d ++ (f (p.run d).1).exchanges (p.run d).2 := by
  induction p generalizing d with
  | done _ => rfl
  | call c next ih => exact congrArg (_ :: ·) (ih _ _)

theorem exchanges_exceptBind_ok {a : ExceptT ε Plan α} {d d' : Desk} {x : α}
    (h : (ExceptT.run a).run d = (.ok x, d')) (f : α → ExceptT ε Plan β) :
    (ExceptT.run (a >>= f)).exchanges d =
      (ExceptT.run a).exchanges d ++ (ExceptT.run (f x)).exchanges d' := by
  have hbind := exchanges_bind (ExceptT.run a) (ExceptT.bindCont f) d
  rw [h] at hbind
  exact hbind

theorem exchanges_lift (p : Plan α) (d : Desk) :
    (ExceptT.run (ExceptT.lift p : ExceptT ε Plan α)).exchanges d = p.exchanges d :=
  (exchanges_bind p _ d).trans (List.append_nil _)

theorem attempts_of_reads {p : Plan α} (h : p.Makes Call.Reads) (d : Desk) :
    attempts (p.exchanges d) = [] := by
  induction p generalizing d with
  | done _ => rfl
  | call c next ih =>
      have hfirst : Exchange.attempt? ⟨c, (d.perform c).1⟩ = none := by
        cases c with
        | setRead _ _ => exact h.1.elim
        | _ => rfl
      rw [exchanges, attempts, List.filterMap_cons_none hfirst]
      exact ih _ (h.2 _) _

end Plan

/-- Whether an action that runs alone succeeds, and which notices it tries to mark on the way. -/
structure Tries {α ε : Type} (a : ExceptT ε Plan α) (d : Desk) (ids : List String) (x : α)
    (d' : Desk) : Prop where
  run : (ExceptT.run a).run d = (.ok x, d')
  attempts : attempts ((ExceptT.run a).exchanges d) = ids

section Tries

variable {α β ε : Type} {d d' d'' : Desk} {ids : List String} {y : β}

/-- What only reads tries none. -/
theorem tries_after {a : ExceptT ε Plan α} {f : α → ExceptT ε Plan β} {x : α}
    (h : (ExceptT.run a).Makes Call.Reads) (hrun : (ExceptT.run a).run d = (.ok x, d'))
    (hf : Tries (f x) d' ids y d'') : Tries (a >>= f) d ids y d'' where
  run := (Plan.run_exceptBind_ok hrun f).trans hf.run
  attempts := by
    rw [Plan.exchanges_exceptBind_ok hrun, attempts_append, Plan.attempts_of_reads h, hf.attempts]
    rfl

theorem tries_before {p : Plan α} {f : α → ExceptT ε Plan β} {x : α} (hrun : p.run d = (x, d'))
    (h : attempts (p.exchanges d) = ids) (hf : Tries (f x) d' [] y d'') :
    Tries (ExceptT.lift p >>= f) d ids y d'' where
  run := (Plan.run_lift_bind hrun f).trans hf.run
  attempts := by
    have hlift : (ExceptT.run (ExceptT.lift p : ExceptT ε Plan α)).run d = (.ok x, d') := by
      rw [Plan.run_lift, hrun]
    rw [Plan.exchanges_exceptBind_ok hlift, Plan.exchanges_lift, attempts_append, hf.attempts, h]
    exact List.append_nil _

end Tries

/-! ## What is looked at and what is marked -/

namespace Store

/-- The newest notices of a user, as many as the limit says if it is positive, and else all. -/
def newest (t : NoticeTable) (user : String) (limit : Int) : List Notice :=
  if 0 < limit then (listing t user).take limit.toNat else listing t user

/-- The unread ones of them. -/
def newestUnread (t : NoticeTable) (user : String) (limit : Int) : List Notice :=
  (newest t user limit).filter (!·.read)

/-- The identifiers of those notices that the store fails to mark. -/
def failing (s : Store) (notices : List Notice) : List String :=
  (notices.map Notice.id).filter fun id => s.broken (.updateNotice id)

/-- The identifiers of the others. -/
def markable (s : Store) (notices : List Notice) : List String :=
  (notices.map Notice.id).filter fun id => !s.broken (.updateNotice id)

def readAmong (ids : List String) (n : Notice) : Notice :=
  if n.id ∈ ids then { n with read := true } else n

variable {s : Store} {t : NoticeTable} {user : String} {limit : Int} {n : Notice}

theorem readAmong_eq (ids : List String) (n : Notice) :
    readAmong ids n = { n with read := n.read || decide (n.id ∈ ids) } := by
  by_cases h : n.id ∈ ids <;> simp [readAmong, h]

theorem id_readAmong (ids : List String) (n : Notice) : (readAmong ids n).id = n.id := by
  rw [readAmong_eq]

theorem readAmong_append (ids later : List String) (n : Notice) :
    readAmong later (readAmong ids n) = readAmong (ids ++ later) n := by
  simp only [readAmong_eq, List.mem_append, Bool.decide_or, Bool.or_assoc]

/-- A table with the notices under some identifiers marked as read. -/
def markedAmong (t : NoticeTable) (ids : List String) : NoticeTable :=
  t.update (readAmong ids) (id_readAmong ids)

theorem markedAmong_nil (t : NoticeTable) : markedAmong t [] = t := by
  apply Table.ext
  have same : readAmong [] = id := funext fun n => if_neg List.not_mem_nil
  rw [markedAmong, Table.rows_update, same, List.map_id]

theorem markedAmong_append (t : NoticeTable) (ids later : List String) :
    markedAmong (markedAmong t ids) later = markedAmong t (ids ++ later) := by
  apply Table.ext
  simp [markedAmong, Function.comp_def, readAmong_append]

theorem update_marked (t : NoticeTable) (id : String) :
    t.update (marked id true) (id_marked id true) = markedAmong t [id] := by
  apply Table.ext
  simp [markedAmong, readAmong, marked]

theorem has_markedAmong (t : NoticeTable) (ids : List String) (k : String) :
    (markedAmong t ids).has k = t.has k := by
  rw [markedAmong, Table.has_eq_isSome, Table.has_eq_isSome, Table.find?_update, Option.isSome_map]

theorem list_newest (ht : s.noticesFor .listNotices = some t) (hlimit : Int64.fits limit) :
    s.list (some user) limit 0 = .ok (newest t user limit) :=
  list_eq_ok_iff.mpr ⟨t, ht, usable_of_fits hlimit, rfl, by simp [page, newest]⟩

theorem newest_sublist (t : NoticeTable) (user : String) (limit : Int) :
    (newest t user limit).Sublist (listing t user) := by
  rw [newest]
  split
  · exact List.take_sublist _ _
  · exact List.Sublist.refl _

theorem mem_newestUnread (h : n ∈ newestUnread t user limit) :
    n ∈ t.rows ∧ n.recipient = user ∧ n.read = false := by
  obtain ⟨hn, hread⟩ := List.mem_filter.mp h
  obtain ⟨hrow, hrecipient⟩ := mem_listing_iff.mp ((newest_sublist t user limit).subset hn)
  exact ⟨hrow, hrecipient, by simpa using hread⟩

theorem nodup_newestUnread (t : NoticeTable) (user : String) (limit : Int) :
    ((newestUnread t user limit).map Notice.id).Nodup :=
  (nodup_listing_id t user).sublist
    ((List.filter_sublist.trans (newest_sublist t user limit)).map Notice.id)

/-- The window of a listing depends on no flag. -/
theorem newest_markedAmong (t : NoticeTable) (ids : List String) (user : String) (limit : Int) :
    newest (markedAmong t ids) user limit = (newest t user limit).map (readAmong ids) := by
  have hlisting : listing (markedAmong t ids) user = (listing t user).map (readAmong ids) :=
    listing_update t _ (fun n => by rw [readAmong_eq]) (fun a b => by simp [readAmong_eq, before]) _
  rw [newest, newest, hlisting]
  split
  · exact List.map_take.symm
  · rfl

/-- What has come to be read is no longer looked for, and nothing else takes its place. -/
theorem newestUnread_markedAmong (t : NoticeTable) (ids : List String) (user : String)
    (limit : Int) :
    (newestUnread (markedAmong t ids) user limit).map Notice.id =
      ((newestUnread t user limit).map Notice.id).filter fun id => id ∉ ids := by
  simp only [newestUnread, newest_markedAmong, List.filter_map, List.map_map, List.filter_filter,
    Function.comp_def, readAmong_eq, Bool.not_or, decide_not, Bool.and_comm]

/-- Of what was tried, that which failed is still unread in the same window. -/
theorem newestUnread_markable (s : Store) (t : NoticeTable) (also : List String) (user : String)
    (limit : Int) :
    (newestUnread (markedAmong t (s.markable (newestUnread t user limit) ++ also)) user limit).map
        Notice.id =
      (s.failing (newestUnread t user limit)).filter fun id => id ∉ also := by
  rw [newestUnread_markedAmong, failing, List.filter_filter]
  refine List.filter_congr fun id hid => ?_
  simp [markable, hid, and_comm]

theorem mem_newestUnread_iff (hn : n ∈ t.rows) :
    n.id ∈ (newestUnread t user limit).map Notice.id ↔ n ∈ newestUnread t user limit := by
  refine ⟨fun h => ?_, List.mem_map_of_mem⟩
  obtain ⟨m, hm, hid⟩ := List.mem_map.mp h
  rwa [← Table.eq_of_key (mem_newestUnread hm).1 hn hid]

/-- A user's unread notices are those of the window and those outside. -/
theorem unread_eq_newest_add (ht : s.notices = some t) (user : String) (limit : Int) :
    s.unread user = (newestUnread t user limit).length +
      t.rows.countP fun n => n.isDue user && decide (n ∉ newest t user limit) := by
  have hinside : (t.rows.filter (· ∈ newest t user limit)).Perm (newest t user limit) := by
    refine (List.perm_ext_iff_of_nodup (t.keyed.of_map.filter _) ?_).mpr fun n => ?_
    · exact ((nodup_listing_id t user).of_map).sublist (newest_sublist t user limit)
    · have hrow : n ∈ newest t user limit → n ∈ t.rows := fun h =>
        (mem_listing_iff.mp ((newest_sublist t user limit).subset h)).1
      simpa using hrow
  have howned : ∀ n ∈ newest t user limit, n.isDue user = !n.read := fun n hn => by
    have hrecipient := (mem_listing_iff.mp ((newest_sublist t user limit).subset hn)).2
    simp [Notice.isDue, hrecipient]
  have hwindow : (newest t user limit).countP (Notice.isDue user) =
      (newestUnread t user limit).length := by
    rw [newestUnread, ← List.countP_eq_length_filter]
    exact List.countP_congr fun n hn => by rw [howned n hn]
  rw [unread, ht, Option.elim_some, List.countP_eq_countP_filter_add _ _ (· ∈ newest t user limit),
    hinside.countP_eq, hwindow, List.countP_filter]
  simp

end Store

namespace Service

variable {d : Desk} {t : NoticeTable} {user : String} {limit : Int}

/-! ## One notice after the other -/

/-- Each notice is tried once, in order, whatever came of those before it. -/
theorem attempts_markEach (todo : List Notice) (d : Desk) :
    attempts ((markEach todo).exchanges d) = todo.map Notice.id := by
  induction todo generalizing d with
  | nil => rfl
  | cons n rest ih =>
      have hbind : (markEach (n :: rest)).exchanges d = _ :=
        Plan.exchanges_bind (.ask (.setRead n.id (some true))) _ d
      rw [hbind, attempts_append, List.map_cons]
      refine congrArg (n.id :: ·) ?_
      generalize (Plan.ask (.setRead n.id (some true))).run d = result
      obtain ⟨answer, d'⟩ := result
      cases answer with
      | ok _ => exact ih d'
      | error _ =>
          dsimp only
          rw [Plan.exchanges_bind, attempts_append, Plan.exchanges_bind, attempts_append, ih]
          exact List.append_nil _

/-- Those that cannot be marked are given back, and the others are marked. -/
theorem run_markEach {todo : List Notice} (ht : d.store.notices = some t)
    (hthere : ∀ n ∈ todo, t.has n.id = true) :
    ∃ d', (markEach todo).run d = (d.store.failing todo, d') ∧
      d'.store = d.store.withNotices (Store.markedAmong t (d.store.markable todo)) := by
  induction todo generalizing d t with
  | nil =>
      refine ⟨d, rfl, ?_⟩
      rw [Store.markable, List.map_nil, List.filter_nil, Store.markedAmong_nil,
        Store.withNotices_self ht]
  | cons n rest ih =>
      have hset := Store.setRead_present ht (hthere n List.mem_cons_self) true
      have hrest : ∀ m ∈ rest, t.has m.id = true := fun m hm =>
        hthere m (List.mem_cons_of_mem n hm)
      rcases run_markEach_cons n rest d with ⟨s', hmarked, hrun⟩ | ⟨_, d', hfailed, hstore, hrun⟩
      · have hworks : d.store.broken (.updateNotice n.id) = false := by
          cases hb : d.store.broken (.updateNotice n.id) with
          | false => rfl
          | true => rw [hset, hb] at hmarked; cases hmarked
        rw [hset, hworks, Store.update_marked] at hmarked
        cases hmarked
        obtain ⟨d', hlater, hkept⟩ := ih
          (d := { d with store := d.store.withNotices (Store.markedAmong t [n.id]) })
          (t := Store.markedAmong t [n.id]) rfl
          fun m hm => (Store.has_markedAmong t _ _).trans (hrest m hm)
        refine ⟨d', ?_, ?_⟩
        · rw [hrun, hlater, Store.failing, Store.failing, List.map_cons,
            List.filter_cons_of_neg (by simp [hworks])]
          rfl
        · rw [hkept, Store.markedAmong_append, Store.markable, Store.markable, List.map_cons,
            List.filter_cons_of_pos (by simp [hworks])]
          rfl
      · have hbroken : d.store.broken (.updateNotice n.id) = true := by
          cases hb : d.store.broken (.updateNotice n.id) with
          | true => rfl
          | false => rw [hset, hb] at hfailed; cases hfailed
        obtain ⟨d'', hlater, hkept⟩ := ih (d := d') (hstore ▸ ht) hrest
        rw [hstore] at hlater hkept
        refine ⟨d'', ?_, ?_⟩
        · rw [hrun, hlater, Store.failing, Store.failing, List.map_cons,
            List.filter_cons_of_pos (by simp [hbroken])]
        · rw [hkept, Store.markable, Store.markable, List.map_cons,
            List.filter_cons_of_neg (by simp [hbroken])]

/-! ## All notices -/

/-- The unread notices of the window are tried, and those that can be marked are marked. -/
theorem tries_markAllRead (huser : user ≠ "") (hlimit : Int64.fits limit)
    (ht : d.store.noticesFor .listNotices = some t) :
    ∃ d', Tries (markAllRead (some user) (some limit)) d
        ((Store.newestUnread t user limit).map Notice.id)
        ⟨(Store.newestUnread t user limit).length,
          d.store.failing (Store.newestUnread t user limit)⟩ d' ∧
      d'.store = d.store.withNotices
        (Store.markedAmong t (d.store.markable (Store.newestUnread t user limit))) := by
  have hlist : (ExceptT.run (Action.list (some user) limit 0)).run d =
      (.ok (Store.newest t user limit), d) := by
    apply Action.run_ofExcept_ok
    rw [Plan.run_ask, Desk.perform, Store.list_newest ht hlimit]
    rfl
  have hthere : ∀ n ∈ Store.newestUnread t user limit, t.has n.id = true := by
    intro n hn
    rw [Table.has_eq_isSome, Table.find?_eq_some_iff.mpr ⟨(Store.mem_newestUnread hn).1, rfl⟩]
    rfl
  obtain ⟨d₁, hmarking, hstore⟩ := run_markEach (Store.noticesFor_eq_some_iff.mp ht).2 hthere
  -- At the end there is a note in the log, if any of them failed.
  have hend (m : Marking) : ∃ d', Tries (do
      if !m.failed.isEmpty then Action.note (.marked m.succeeded m.attempted user)
      return m) d₁ [] m d' ∧ d'.store = d₁.store := by
    dsimp only
    split
    · exact ⟨_, tries_after (Plan.makes_lift (Plan.makes_ask trivial)) rfl ⟨rfl, rfl⟩, rfl⟩
    · exact ⟨d₁, ⟨rfl, rfl⟩, rfl⟩
  obtain ⟨d', hnoted, hkept⟩ := hend ⟨(Store.newestUnread t user limit).length, _⟩
  refine ⟨d', ?_, hkept.trans hstore⟩
  rw [markAllRead]
  refine tries_after (makes_required _ _) (run_required huser d) ?_
  refine tries_after trivial rfl ?_
  refine tries_after (Plan.makes_ofExcept (Plan.makes_ask trivial)) hlist ?_
  exact tries_before hmarking (attempts_markEach _ d) hnoted

/-- What marking all notices of a user comes to when nobody else uses the store meanwhile. -/
structure MarkedAlone (user : String) (limit : Int) (t : NoticeTable) (d : Desk) (m : Marking)
    (d' : Desk) : Prop where
  /-- The unread notices of the window are tried, one after the other. -/
  tries : Tries (markAllRead (some user) (some limit)) d
    ((Store.newestUnread t user limit).map Notice.id) m d'
  attempted : m.attempted = (Store.newestUnread t user limit).length
  failed : m.failed = d.store.failing (Store.newestUnread t user limit)
  distinct : m.failed.Nodup
  balance : m.succeeded + m.failed.length = m.attempted
  rows : ∃ t' : NoticeTable, d'.store = d.store.withNotices t' ∧
    t'.rows = t.rows.map fun n =>
      if n ∈ Store.newestUnread t user limit ∧ d.store.broken (.updateNotice n.id) = false then
        { n with read := true }
      else n
  unread : d'.store.unread user = m.failed.length +
    t.rows.countP fun n => n.isDue user && decide (n ∉ Store.newest t user limit)
  counted : d.store.broken .countUnread = false →
    d'.store.countUnread (some user) = .ok (d'.store.unread user)
  /-- Later, when no row has come or gone but some may have been read, those are tried that have
  failed and have not been read. -/
  again : ∀ (also : List String) (t' : NoticeTable) (d₂ : Desk), d'.store.notices = some t' →
    d₂.store.noticesFor .listNotices = some (Store.markedAmong t' also) →
    ∃ m₂ d₂', Tries (markAllRead (some user) (some limit)) d₂
        (m.failed.filter fun id => id ∉ also) m₂ d₂' ∧
      (m.failed = [] → d₂'.store = d₂.store)

theorem markedAlone (huser : user ≠ "") (hlimit : Int64.fits limit)
    (ht : d.store.noticesFor .listNotices = some t) :
    ∃ m d', MarkedAlone user limit t d m d' := by
  obtain ⟨d', htries, hstore⟩ := tries_markAllRead huser hlimit ht
  have hnotices := (Store.noticesFor_eq_some_iff.mp ht).2
  have hfailed : (d.store.failing (Store.newestUnread t user limit)).length ≤
      (Store.newestUnread t user limit).length :=
    (List.length_filter_le _ _).trans (List.length_map _).le
  refine ⟨_, d', htries, rfl, rfl, (Store.nodup_newestUnread t user limit).filter _,
    Nat.sub_add_cancel hfailed, ⟨_, hstore, ?rows⟩, ?unread, fun hcount => ?counted, ?again⟩
  case rows =>
    refine List.map_congr_left fun n hn => ?_
    simp only [Store.readAmong, Store.markable, List.mem_filter, Store.mem_newestUnread_iff hn,
      Bool.not_eq_true']
  case unread =>
    have hmoves := (reports_markAllRead (some user) (some limit)).ok _ d' htries.run user
    have hbefore := Store.unread_eq_newest_add hnotices user limit
    simp only [Option.elim_some, Report.shift, ↓reduceIte, Marking.succeeded] at hmoves
    dsimp only
    omega
  case counted =>
    have hcounted : d'.store.noticesFor .countUnread = d'.store.notices := by
      rw [Store.noticesFor, hstore]
      exact if_neg (Bool.eq_false_iff.mp hcount)
    exact Store.countUnread_eq (hcounted.trans (congrArg Store.notices hstore)) user
  case again =>
    intro also t' d₂ ht' ht₂
    rw [hstore] at ht'
    cases ht'
    rw [Store.markedAmong_append] at ht₂
    obtain ⟨d₂', htries₂, hstore₂⟩ := tries_markAllRead huser hlimit ht₂
    have hleft := Store.newestUnread_markable d.store t also user limit
    refine ⟨_, d₂', hleft ▸ htries₂, fun hnone => ?_⟩
    -- Where nothing has failed, nothing in the window is unread any more.
    rw [show d.store.failing _ = [] from hnone] at hleft
    have hnotices₂ := (Store.noticesFor_eq_some_iff.mp ht₂).2
    rw [hstore₂, List.map_eq_nil_iff.mp hleft, show d₂.store.markable [] = [] from rfl,
      Store.markedAmong_nil, Store.withNotices_self hnotices₂]

theorem run_list_error {offset : Int} {task : Task}
    (h : d.store.list (some user) limit offset = .error task) :
    (ExceptT.run (Action.list (some user) limit offset)).run d =
      (.error (.storage task), d.noted (.undone task)) := by
  apply Action.run_ofExcept_error
  rw [Plan.run_ask, Desk.perform, h]
  rfl

theorem run_markAllRead_error (huser : user ≠ "") {task : Task}
    (h : d.store.list (some user) limit 0 = .error task) :
    (markAllRead (some user) (some limit)).run d =
      (.error (.storage task), d.noted (.undone task)) := by
  rw [Action.run, markAllRead, Plan.run_exceptBind_ok (run_required huser d)]
  exact (Plan.run_exceptBind_ok (x := limit) rfl _).trans
    (Plan.run_exceptBind_error (run_list_error h) _)

/-- Notices that cannot be listed are left alone. -/
theorem run_markAllRead_unlisted (huser : user ≠ "")
    (h : d.store.noticesFor .listNotices = none) :
    ∃ d', (markAllRead (some user) (some limit)).run d = (.error (.storage .listNotices), d') ∧
      d'.store = d.store := by
  have hlist : d.store.list (some user) limit 0 = .error .listNotices := by rw [Store.list, h]
  exact ⟨_, run_markAllRead_error huser hlist, rfl⟩

/-- A user's notices are marked as far as the store lets them be, or, where they cannot be listed,
left alone. -/
theorem marking_alone (huser : user ≠ "") (hlimit : Int64.fits limit) (d : Desk) :
    (∀ t, d.store.noticesFor .listNotices = some t → ∃ m d', MarkedAlone user limit t d m d') ∧
      (d.store.noticesFor .listNotices = none →
        ∃ d', (markAllRead (some user) (some limit)).run d = (.error (.storage .listNotices), d') ∧
          d'.store = d.store) :=
  ⟨fun _ => markedAlone huser hlimit, run_markAllRead_unlisted huser⟩

/-- Three unread notices of ann's. -/
def threeNotices : NoticeTable :=
  ⟨[⟨"n1", "ann", "hello", "bob", 5, false, "", "", ""⟩,
    ⟨"n2", "ann", "hello", "bob", 6, false, "", "", ""⟩,
    ⟨"n3", "ann", "hello", "bob", 7, false, "", "", ""⟩], by decide⟩

/-- A desk with these notices, one of which cannot be marked. -/
def stubbornDesk : Desk :=
  { unreadDesk with store := ⟨some threeNotices, some .empty, [.updates ["n2"]]⟩ }

theorem two_newest_tried :
    "ann" ≠ "" ∧ Int64.fits 2 ∧ stubbornDesk.store.noticesFor .listNotices = some threeNotices ∧
    ∃ m d', MarkedAlone "ann" 2 threeNotices stubbornDesk m d' ∧ m.attempted = 2 ∧
      m.failed = ["n2"] ∧ d'.store.unread "ann" = 2 := by
  have hlisted : stubbornDesk.store.noticesFor .listNotices = some threeNotices := rfl
  have hfits : Int64.fits 2 := by decide
  obtain ⟨m, d', h⟩ : ∃ m d', MarkedAlone "ann" 2 threeNotices stubbornDesk m d' :=
    (marking_alone (by decide) hfits stubbornDesk).1 threeNotices hlisted
  have hnewest : Store.newest threeNotices "ann" 2 =
      [⟨"n3", "ann", "hello", "bob", 7, false, "", "", ""⟩,
        ⟨"n2", "ann", "hello", "bob", 6, false, "", "", ""⟩] := by
    cbv
  have hattempted := h.attempted
  have hfailed := h.failed
  have hunread := h.unread
  rw [Store.newestUnread, hnewest] at hattempted hfailed
  rw [hnewest] at hunread
  exact ⟨by decide, hfits, hlisted, m, d', h, hattempted, hfailed, by rw [hunread, hfailed]; rfl⟩

end Service
end Noticeboard
