import Noticeboard.Proofs.Service.Agreement
import Noticeboard.Proofs.Service.Run
import Noticeboard.Service.Inbox

/-!
Marks and deletions in any order. A list of them leaves the rows that none of them removes, and of
these it leaves those read that were read before or are marked by one of them. So it does not matter
in which order they are made, nor how often each is. A store may be unable to update or to delete
rows; then what it cannot do is without effect wherever it stands in the list.
-/

namespace Noticeboard
namespace Service

/-- A mark on one notice, or the deletion of one notice or of all notices of a recipient. -/
inductive Tidying
  | markRead (id : String)
  | delete (id : String)
  | deleteFor (recipient : String)
  deriving DecidableEq

namespace Tidying

def action : Tidying → Action Unit
  | markRead id => Service.markRead (some id)
  | delete id => Service.delete (some id)
  | deleteFor recipient => Service.deleteFor (some recipient)

/-- The identifier or the recipient that is given. -/
def target : Tidying → String
  | markRead id | delete id => id
  | deleteFor recipient => recipient

def marks (n : Notice) : Tidying → Bool
  | markRead id => id = n.id
  | delete _ | deleteFor _ => false

def removes (n : Notice) : Tidying → Bool
  | markRead _ => false
  | delete id => id = n.id
  | deleteFor recipient => recipient = n.recipient

/-- Whether a store is able to do it to the rows that are there. -/
def worksOn (s : Store) : Tidying → Bool
  | markRead id => !s.broken (.updateNotice id)
  | delete _ | deleteFor _ => !s.broken .deleteNotice

/-- Those that a store is able to do. -/
def working (s : Store) (l : List Tidying) : List Tidying := l.filter (·.worksOn s)

theorem working_of_flawless {s : Store} (h : s.flaws = []) (l : List Tidying) : working s l = l := by
  refine List.filter_eq_self.mpr fun c _ => ?_
  cases c <;> simp [worksOn, Store.broken, h]

/-- The desk after marks and deletions, one after the other, whether or not they fail. -/
def after : List Tidying → Desk → Desk
  | [], d => d
  | c :: rest, d => after rest (c.action.run d).2

/-! ## What they come to -/

def removed (s : Store) (l : List Tidying) (n : Notice) : Bool :=
  l.any fun c => c.worksOn s && c.removes n

def readSince (s : Store) (l : List Tidying) (n : Notice) : Notice :=
  { n with read := n.read || l.any fun c => c.worksOn s && c.marks n }

theorem id_readSince (s : Store) (l : List Tidying) (n : Notice) :
    (readSince s l n).id = n.id :=
  rfl

/-- The rows that are not removed, with the marks that are made on them. -/
def tidiedRows (s : Store) (l : List Tidying) (t : NoticeTable) : NoticeTable :=
  (t.remove (removed s l)).update (readSince s l) (id_readSince s l)

theorem rows_tidiedRows (s : Store) (l : List Tidying) (t : NoticeTable) :
    (tidiedRows s l t).rows = (t.rows.filter (!removed s l ·)).map (readSince s l) :=
  rfl

def tidied (l : List Tidying) (s : Store) : Store :=
  { s with notices := s.notices.map (tidiedRows s l) }

variable {s : Store}

/-- Whether a row is removed is not a matter of its flag. -/
theorem removed_readSince (l l' : List Tidying) (n : Notice) :
    removed s l (readSince s l' n) = removed s l n :=
  rfl

theorem removed_cons (c : Tidying) (l : List Tidying) (n : Notice) :
    removed s (c :: l) n = (removed s [c] n || removed s l n) := by
  simp [removed]

theorem readSince_nil (s : Store) : readSince s [] = id := by
  funext n
  simp [readSince]

theorem readSince_cons (c : Tidying) (l : List Tidying) (n : Notice) :
    readSince s (c :: l) n = readSince s l (readSince s [c] n) := by
  cases c <;> simp [readSince, marks, Bool.or_assoc]

theorem tidied_of_lost (hs : s.notices = none) (l : List Tidying) : tidied l s = s := by
  cases s
  cases hs
  rfl

theorem tidied_of_rows {t : NoticeTable} (hs : s.notices = some t) (l : List Tidying) :
    tidied l s = s.withNotices (tidiedRows s l t) := by
  rw [tidied, hs]
  rfl

theorem tidied_nil (s : Store) : tidied [] s = s := by
  cases hs : s.notices with
  | none => exact tidied_of_lost hs []
  | some t =>
      have same : tidiedRows s [] t = t := by
        apply Table.ext
        simp [rows_tidiedRows, removed, readSince_nil]
      rw [tidied_of_rows hs, same, Store.withNotices_self hs]

/-- What is to be done later meets the rows and the flaws that what is done first leaves. -/
theorem tidied_cons (c : Tidying) (l : List Tidying) (s : Store) :
    tidied (c :: l) s = tidied l (tidied [c] s) := by
  cases hs : s.notices with
  | none => rw [tidied_of_lost hs, tidied_of_lost hs, tidied_of_lost hs]
  | some t =>
      have hrows : tidiedRows s (c :: l) t = tidiedRows s l (tidiedRows s [c] t) := by
        apply Table.ext
        simp only [rows_tidiedRows, List.filter_map, List.map_map, List.filter_filter]
        congr 1
        · exact funext (readSince_cons c l)
        · congr 1
          funext n
          simp [removed_cons c l, removed_readSince, Bool.and_comm]
      rw [tidied_of_rows hs, tidied_of_rows hs, hrows, tidied_of_rows (Store.notices_withNotices _ _)]
      rfl

/-! ## One of them -/

theorem removed_singleton (c : Tidying) (n : Notice) :
    removed s [c] n = (c.worksOn s && c.removes n) := by
  simp [removed]

theorem readSince_eq_self {c : Tidying} {n : Notice} (h : (c.worksOn s && c.marks n) = false) :
    readSince s [c] n = n := by
  simp [readSince, h]

/-- Where no row is removed or marked, nothing changes. -/
theorem tidied_eq_self {c : Tidying} (h : ∀ t, s.notices = some t → ∀ n ∈ t.rows,
    (c.worksOn s && c.removes n) = false ∧ (c.worksOn s && c.marks n) = false) :
    tidied [c] s = s := by
  cases hs : s.notices with
  | none => exact tidied_of_lost hs [c]
  | some t =>
      have same : tidiedRows s [c] t = t := by
        apply Table.ext
        rw [rows_tidiedRows, List.filter_eq_self.mpr fun n hn => by
          simp [removed_singleton, (h t hs n hn).1]]
        have := List.map_congr_left fun n hn => readSince_eq_self (h t hs n hn).2
        rw [this, List.map_id']
      rw [tidied_of_rows hs, same, Store.withNotices_self hs]

theorem kept_setRead (s : Store) (id : String) :
    Desk.kept s ((s.setRead (some id) (some true)).map ((), ·)) = tidied [markRead id] s := by
  cases hs : s.notices with
  | none =>
      rw [tidied_of_lost hs]
      simp [Store.setRead, hs, Except.map, Desk.kept]
  | some t =>
      cases taken : t.has id with
      | false =>
          have other : ∀ n ∈ t.rows, id ≠ n.id := fun n hn hid =>
            Table.has_eq_false_iff.mp taken (hid ▸ List.mem_map_of_mem hn)
          rw [tidied_eq_self fun t' ht' n hn => ?_]
          · simp [Store.setRead, hs, taken, Except.map, Desk.kept]
          · cases hs.symm.trans ht'
            simp [removes, marks, other n hn]
      | true =>
          rw [Store.setRead_present hs taken]
          cases hbroken : s.broken (.updateNotice id) with
          | true =>
              rw [tidied_eq_self fun _ _ _ _ => by simp [worksOn, hbroken]]
              rfl
          | false =>
              have hrows : t.update (Store.marked id true) (Store.id_marked id true) =
                  tidiedRows s [markRead id] t := by
                apply Table.ext
                rw [rows_tidiedRows, List.filter_eq_self.mpr fun n _ => by
                  simp [removed_singleton, removes]]
                refine List.map_congr_left fun n _ => ?_
                simp [readSince, worksOn, hbroken, marks, Store.marked_eq, Bool.or_comm, eq_comm]
              rw [tidied_of_rows hs, ← hrows]
              rfl

theorem kept_removeWhere (s : Store) (task : Task) {c : Tidying}
    (hworks : c.worksOn s = !s.broken .deleteNotice) (hmarks : ∀ n, c.marks n = false) :
    Desk.kept s ((s.removeWhere task (c.removes ·)).map ((), ·)) = tidied [c] s := by
  cases hs : s.notices with
  | none =>
      rw [tidied_of_lost hs]
      simp [Store.removeWhere, hs, Except.map, Desk.kept]
  | some t =>
      simp only [Store.removeWhere, hs]
      split
      · have hidle : c.worksOn s = false := by simp_all
        rw [tidied_eq_self fun _ _ _ _ => by simp [hidle]]
        rfl
      · -- Either deletions work, or there is no row to remove.
        have hremoved : ∀ n ∈ t.rows, removed s [c] n = c.removes n := fun n hn => by
          rw [removed_singleton, hworks]
          cases hbroken : s.broken .deleteNotice <;> simp_all
        have hrows : t.remove (c.removes ·) = tidiedRows s [c] t := by
          apply Table.ext
          rw [rows_tidiedRows, List.filter_congr fun n hn => by rw [hremoved n hn],
            List.map_congr_left fun n _ => readSince_eq_self (by simp [hmarks]), List.map_id']
          rfl
        rw [tidied_of_rows hs, ← hrows]
        rfl

/-- What one mark or deletion leaves of a store, whether or not it fails. -/
theorem store_action {c : Tidying} (h : c.target ≠ "") (d : Desk) :
    (c.action.run d).2.store = tidied [c] d.store := by
  cases c with
  | markRead id =>
      have hid : id ≠ "" := h
      have haction : (markRead id).action = Action.setRead (some id) (some true) := by
        rw [action, Service.markRead, required_filled hid, pure_bind]
      rw [haction, Action.store_setRead, kept_setRead]
  | delete id =>
      have hid : id ≠ "" := h
      have haction : (delete id).action = Action.delete (some id) := by
        rw [action, Service.delete, required_filled hid, pure_bind]
      have hremoves : (fun n : Notice => decide (some id = some n.id)) = ((delete id).removes ·) :=
        funext fun n => by simp [removes]
      rw [haction, Action.store_delete, Store.delete, hremoves, kept_removeWhere _ _ rfl fun _ => rfl]
  | deleteFor recipient =>
      have hrecipient : recipient ≠ "" := h
      have haction : (deleteFor recipient).action = Action.deleteFor (some recipient) := by
        rw [action, Service.deleteFor, required_filled hrecipient, pure_bind]
      have hremoves : (fun n : Notice => decide (some recipient = some n.recipient)) =
          ((deleteFor recipient).removes ·) :=
        funext fun n => by simp [removes]
      rw [haction, Action.store_deleteFor, Store.deleteFor, hremoves,
        kept_removeWhere _ _ rfl fun _ => rfl]

/-! ## All of them -/

theorem store_after {l : List Tidying} (h : ∀ c ∈ l, c.target ≠ "") (d : Desk) :
    (after l d).store = tidied l d.store := by
  induction l generalizing d with
  | nil => rw [tidied_nil, after]
  | cons c rest ih =>
      obtain ⟨hc, hrest⟩ := List.forall_mem_cons.mp h
      rw [after, ih hrest, store_action hc, ← tidied_cons]

theorem any_congr_mem {l l' : List Tidying} (h : ∀ c, c ∈ l ↔ c ∈ l') (p : Tidying → Bool) :
    l.any p = l'.any p := by
  rw [Bool.eq_iff_iff]
  simp only [List.any_eq_true, h]

/-- What is left depends only on which marks and deletions there are. -/
theorem tidied_congr {l l' : List Tidying} (h : ∀ c, c ∈ l ↔ c ∈ l') (s : Store) :
    tidied l s = tidied l' s := by
  have hremoved : removed s l = removed s l' := funext fun n => any_congr_mem h _
  have hread : readSince s l = readSince s l' := funext fun n => by
    rw [readSince, readSince, any_congr_mem h]
  have hrows : tidiedRows s l = tidiedRows s l' := funext fun t => Table.ext <| by
    rw [rows_tidiedRows, rows_tidiedRows, hremoved, hread]
  rw [tidied, tidied, hrows]

theorem noticeAt_tidied (l : List Tidying) (s : Store) (id : String) :
    (tidied l s).noticeAt id =
      ((s.noticeAt id).filter (!removed s l ·)).map (readSince s l) := by
  cases hs : s.notices with
  | none => simp [tidied, Store.noticeAt, hs]
  | some t => simp [tidied, tidiedRows, Store.noticeAt, hs, Table.find?_update, Table.find?_remove]

theorem removed_iff {l : List Tidying} {n : Notice} :
    removed s l n ↔ delete n.id ∈ working s l ∨ deleteFor n.recipient ∈ working s l := by
  simp only [removed, working, List.any_eq_true, Bool.and_eq_true, List.mem_filter]
  constructor
  · rintro ⟨c, hc, hworks, hremoves⟩
    cases c with
    | markRead id => cases hremoves
    | delete id =>
        obtain rfl : id = n.id := by simpa [removes] using hremoves
        exact .inl ⟨hc, hworks⟩
    | deleteFor recipient =>
        obtain rfl : recipient = n.recipient := by simpa [removes] using hremoves
        exact .inr ⟨hc, hworks⟩
  · rintro (⟨hc, hworks⟩ | ⟨hc, hworks⟩)
    · exact ⟨_, hc, hworks, by simp [removes]⟩
    · exact ⟨_, hc, hworks, by simp [removes]⟩

theorem read_readSince {l : List Tidying} {n : Notice} :
    (readSince s l n).read ↔ n.read ∨ markRead n.id ∈ working s l := by
  simp only [readSince, working, Bool.or_eq_true, List.any_eq_true, Bool.and_eq_true,
    List.mem_filter]
  refine or_congr_right ⟨?_, fun ⟨hc, hworks⟩ => ⟨_, hc, hworks, by simp [marks]⟩⟩
  rintro ⟨c, hc, hworks, hmarks⟩
  cases c with
  | markRead id =>
      obtain rfl : id = n.id := by simpa [marks] using hmarks
      exact ⟨hc, hworks⟩
  | delete _ | deleteFor _ => cases hmarks

/-- Whether `s'` is what the marks and deletions in a list leave of `s`. -/
structure Leaves (l : List Tidying) (s s' : Store) : Prop where
  beside : s' = { s with notices := s'.notices }
  absent : ∀ id, s.noticeAt id = none → s'.noticeAt id = none
  /-- A row is there still if neither it nor its recipient's rows were deleted. -/
  survives : ∀ n, s.noticeAt n.id = some n →
    ((s'.noticeAt n.id).isSome ↔ delete n.id ∉ l ∧ deleteFor n.recipient ∉ l)
  /-- A row that is there still is as it was, and read if it was read or is marked. -/
  row : ∀ n m, s.noticeAt n.id = some n → s'.noticeAt n.id = some m →
    m = { n with read := m.read } ∧ (m.read ↔ n.read ∨ markRead n.id ∈ l)

theorem leaves_tidied (l : List Tidying) (s : Store) : Leaves (working s l) s (tidied l s) where
  beside := rfl
  absent id hid := by rw [noticeAt_tidied, hid, Option.filter_none, Option.map_none]
  survives n hn := by
    rw [noticeAt_tidied, hn, ← not_or, ← removed_iff, Option.filter_some]
    cases removed s l n <;> simp
  row n m hn hm := by
    rw [noticeAt_tidied, hn, Option.filter_some] at hm
    split at hm
    · cases hm
      exact ⟨rfl, read_readSince⟩
    · cases hm

/-- Marks and deletions may be made in any order and as often as one likes, whatever is wrong with
the store: two lists of the same ones end in the same store, the rows of which are told by what is
in the list and works. Everything works on a store with nothing wrong with it. -/
theorem tidying_in_any_order {l l' : List Tidying} (htargets : ∀ c ∈ l, c.target ≠ "")
    (hsame : ∀ c, c ∈ l' ↔ c ∈ l) (d : Desk) :
    (after l' d).store = (after l d).store ∧
      Leaves (working d.store l) d.store (after l d).store ∧
      (d.store.flaws = [] → working d.store l = l) := by
  have htargets' : ∀ c ∈ l', c.target ≠ "" := fun c hc => htargets c ((hsame c).mp hc)
  rw [store_after htargets, store_after htargets', tidied_congr hsame]
  exact ⟨rfl, leaves_tidied l d.store, fun h => working_of_flawless h l⟩

/-- One notice of Ann's and two of Bob's, with nothing wrong with them. -/
def sharedDesk : Desk where
  store :=
    { notices := some ⟨[⟨"n1", "ann", "hi", "cat", 1, false, "", "", ""⟩,
        ⟨"n2", "bob", "hi", "cat", 2, false, "", "", ""⟩,
        ⟨"n3", "bob", "hi", "cat", 3, true, "", "", ""⟩], by decide⟩
      boards := none
      flaws := [] }
  clock := 5
  supply := fun _ => 0
  drawn := 0
  settings := .error .originsNotJson
  log := []

/-- Bob's notice is marked and deleted, or deleted twice and marked in between. -/
theorem marked_or_deleted_first :
    let l := [markRead "n1", markRead "n2", deleteFor "bob"]
    let l' := [deleteFor "bob", markRead "n2", markRead "n1", deleteFor "bob"]
    (∀ c ∈ l, c.target ≠ "") ∧ (∀ c, c ∈ l' ↔ c ∈ l) ∧
      (after l' sharedDesk).store = (after l sharedDesk).store ∧
      Leaves (working sharedDesk.store l) sharedDesk.store (after l sharedDesk).store ∧
      (sharedDesk.store.flaws = [] → working sharedDesk.store l = l) := by
  intro l l'
  have htargets : ∀ c ∈ l, c.target ≠ "" := by decide
  have hsame : ∀ c, c ∈ l' ↔ c ∈ l := by
    intro c
    simp only [l, l', List.mem_cons, List.not_mem_nil, or_false]
    tauto
  exact ⟨htargets, hsame, tidying_in_any_order htargets hsame sharedDesk⟩

end Tidying
end Service
end Noticeboard
