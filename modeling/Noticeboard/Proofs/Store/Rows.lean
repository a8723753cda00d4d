import Mathlib.Data.List.Nodup
import Noticeboard.Store.Basic

/-!
The row under an identifier, and what every operation does to it. An operation that succeeds
inserts one row under a free identifier, sets the flag of a row, or removes rows; whatever
else a store holds stays as it is.
-/

namespace Noticeboard
namespace Table

variable {α : Type} {key : α → String}

theorem ext {t t' : Table α key} (h : t.rows = t'.rows) : t = t' := by
  cases t
  cases t'
  cases h
  rfl

theorem eq_of_key {t : Table α key} {a b : α} (ha : a ∈ t.rows) (hb : b ∈ t.rows)
    (h : key a = key b) : a = b :=
  List.inj_on_of_nodup_map t.keyed ha hb h

theorem find?_eq_some_iff {t : Table α key} {k : String} {a : α} :
    t.find? k = some a ↔ a ∈ t.rows ∧ key a = k := by
  constructor
  · intro h
    exact ⟨List.mem_of_find?_eq_some h, by simpa using List.find?_some h⟩
  · rintro ⟨ha, rfl⟩
    cases hf : t.find? (key a) with
    | none =>
        have := List.find?_eq_none.mp hf a ha
        simp at this
    | some b =>
        have hb : b ∈ t.rows := List.mem_of_find?_eq_some hf
        have hk : key b = key a := by simpa using List.find?_some hf
        rw [eq_of_key hb ha hk]

theorem has_eq_isSome (t : Table α key) (k : String) : t.has k = (t.find? k).isSome := by
  rw [Bool.eq_iff_iff]
  simp [has, find?]

theorem find?_insert (t : Table α key) (a : α) (free : t.has (key a) = false) (k : String) :
    (t.insert a free).find? k = if key a = k then some a else t.find? k := by
  by_cases h : key a = k <;> simp [find?, h]

theorem find?_update (t : Table α key) (f : α → α) (fixed : ∀ a, key (f a) = key a)
    (k : String) : (t.update f fixed).find? k = (t.find? k).map f := by
  simp only [find?, rows_update, List.find?_map, Function.comp_def, fixed]

theorem find?_remove (t : Table α key) (p : α → Bool) (k : String) :
    (t.remove p).find? k = (t.find? k).filter (!p ·) := by
  apply Option.ext
  intro a
  simp [find?_eq_some_iff, Option.filter_eq_some_iff, and_right_comm]

end Table

namespace Store

def noticeAt (s : Store) (id : String) : Option Notice := s.notices.bind (·.find? id)

theorem id_of_noticeAt {s : Store} {id : String} {n : Notice} (h : s.noticeAt id = some n) :
    n.id = id := by
  obtain ⟨t, _, ht⟩ := Option.bind_eq_some_iff.mp h
  exact (Table.find?_eq_some_iff.mp ht).2

def withNotices (s : Store) (t : NoticeTable) : Store := { s with notices := some t }

@[simp] theorem notices_withNotices (s : Store) (t : NoticeTable) :
    (s.withNotices t).notices = some t := rfl

theorem withNotices_self {s : Store} {t : NoticeTable} (ht : s.notices = some t) :
    s.withNotices t = s := by
  rw [withNotices, ← ht]

theorem has_of_noticeAt {s : Store} {t : NoticeTable} (ht : s.notices = some t) {id : String}
    {n : Notice} (hn : s.noticeAt id = some n) : t.has id = true := by
  rw [noticeAt, ht, Option.bind_some] at hn
  rw [Table.has_eq_isSome, hn, Option.isSome_some]

theorem noticesFor_eq_some_iff {s : Store} {access : Access} {t : NoticeTable} :
    s.noticesFor access = some t ↔ s.broken access = false ∧ s.notices = some t := by
  simp [noticesFor]

theorem marked_eq (id : String) (read : Bool) (n : Notice) :
    marked id read n = { n with read := if n.id = id then read else n.read } := by
  by_cases h : n.id = id <;> simp [marked, h]

/-! ## What operations that succeed do -/

/-- A row is its draft, with what may be absent filled in. -/
theorem draft_of_row {d : Draft} {n : Notice} (h : row? d = some n) :
    n.draft = { d with
      read := some (d.read.getD false)
      link := some (d.link.getD "")
      board := some (d.board.getD "")
      card := some (d.card.getD "") } := by
  rw [row?] at h
  split at h
  · split at h
    · cases h
      simp_all [Notice.draft]
    · cases h
  · cases h

theorem id_of_row {d : Draft} {n : Notice} (h : row? d = some n) : d.id = some n.id :=
  (congrArg Draft.id (draft_of_row h)).symm

theorem recipient_of_row {d : Draft} {n : Notice} (h : row? d = some n) :
    d.recipient = some n.recipient :=
  (congrArg Draft.recipient (draft_of_row h)).symm

theorem insert_eq_ok_iff {s s' : Store} {d : Draft} {n : Notice} :
    s.insert d = .ok (n, s') ↔ ∃ t, s.noticesFor .insertNotice = some t ∧ row? d = some n ∧
      ∃ free : t.has n.id = false, s' = s.withNotices (t.insert n free) := by
  rw [insert]
  cases ht : s.noticesFor .insertNotice with
  | none => simp
  | some t =>
      cases hn : row? d with
      | none => simp
      | some m =>
          by_cases free : t.has m.id = false
          · simp only [free, ↓reduceDIte, Except.ok.injEq, Prod.mk.injEq, Option.some.injEq]
            constructor
            · rintro ⟨rfl, rfl⟩
              exact ⟨t, rfl, rfl, free, rfl⟩
            · rintro ⟨_, rfl, rfl, _, rfl⟩
              exact ⟨rfl, rfl⟩
          · simp only [free, ↓reduceDIte, reduceCtorEq, false_iff]
            rintro ⟨_, h, h', hfree, _⟩
            cases h
            cases h'
            exact free hfree

theorem insert_eq_error {s : Store} {d : Draft} (h : ∀ n s', s.insert d ≠ .ok (n, s')) :
    s.insert d = .error .insertNotice := by
  cases hinsert : s.insert d with
  | ok r => exact absurd hinsert (h r.1 r.2)
  | error task =>
      simp only [insert] at hinsert
      split at hinsert
      · split at hinsert
        · cases hinsert
        · exact hinsert.symm
      · exact hinsert.symm

theorem find_ok {s : Store} {id : String} {found : Option Notice}
    (h : s.find (some id) = .ok found) : s.noticeAt id = found := by
  rw [find] at h
  cases ht : s.noticesFor .findNotice with
  | none => simp [ht] at h
  | some t =>
      simp only [ht, Option.bind_some, Except.ok.injEq] at h
      rw [noticeAt, (noticesFor_eq_some_iff.mp ht).2, Option.bind_some, h]

/-- What is there is marked, unless an update of it is broken. -/
theorem setRead_present {s : Store} {t : NoticeTable} {id : String} (ht : s.notices = some t)
    (taken : t.has id = true) (read : Bool) :
    s.setRead (some id) (some read) =
      if s.broken (.updateNotice id) then .error .markNotice
      else .ok (s.withNotices (t.update (marked id read) (id_marked id read))) := by
  simp only [setRead, ht, taken, ↓reduceIte]
  rfl

/-- Setting a flag leaves a row without that identifier alone, so that it can be said of every
row, whether or not one has the identifier. -/
theorem setRead_ok {s s' : Store} {id : String} {read : Bool}
    (h : s.setRead (some id) (some read) = .ok s') :
    ∃ t, s.notices = some t ∧
      s' = s.withNotices (t.update (marked id read) (id_marked id read)) := by
  cases ht : s.notices with
  | none => simp [setRead, ht] at h
  | some t =>
      refine ⟨t, rfl, ?_⟩
      cases taken : t.has id with
      | true =>
          rw [setRead_present ht taken] at h
          split at h
          · cases h
          · exact (Except.ok.inj h).symm
      | false =>
          simp only [setRead, ht, taken, Bool.false_eq_true, ↓reduceIte, Except.ok.injEq] at h
          subst h
          have same : t.update (marked id read) (id_marked id read) = t := by
            apply Table.ext
            have other : ∀ n ∈ t.rows, marked id read n = n := fun n hn => by
              have : n.id ≠ id := fun hk =>
                Table.has_eq_false_iff.mp taken (hk ▸ List.mem_map_of_mem hn)
              simp [marked, this]
            simpa using List.map_congr_left other
          rw [same, withNotices_self ht]

/-- What is not there is marked without a failure, whatever is wrong with the store. -/
theorem setRead_absent {s : Store} {id : String} {read : Option Bool} (hs : s.notices.isSome)
    (h : s.noticeAt id = none) : s.setRead (some id) read = .ok s := by
  obtain ⟨t, ht⟩ := Option.isSome_iff_exists.mp hs
  have free : t.has id = false := by simpa [noticeAt, ht, Table.has_eq_isSome] using h
  simp [setRead, ht, free]

theorem setRead_none_left {s s' : Store} {read : Option Bool}
    (h : s.setRead none read = .ok s') : s' = s := by
  cases hs : s.notices <;> simp [setRead, hs] at h
  exact h.symm

theorem setRead_none_right {s s' : Store} {id : Option String}
    (h : s.setRead id none = .ok s') : s' = s := by
  cases hs : s.notices with
  | none => simp [setRead, hs] at h
  | some t =>
      cases id with
      | none => simpa [setRead, hs] using h.symm
      | some id =>
          cases taken : t.has id <;> simp [setRead, hs, taken] at h
          exact h.symm

theorem removeWhere_ok {s s' : Store} {task : Task} {p : Notice → Bool}
    (h : s.removeWhere task p = .ok s') :
    ∃ t, s.notices = some t ∧ s' = s.withNotices (t.remove p) := by
  rw [removeWhere] at h
  cases ht : s.notices with
  | none => simp [ht] at h
  | some t =>
      refine ⟨t, rfl, ?_⟩
      simp only [ht] at h
      split at h
      · cases h
      · exact (Except.ok.inj h).symm

theorem insertBoard_ok {s s' : Store} {id title : Option String} {b : Board}
    (h : s.insertBoard id title = .ok (b, s')) :
    ∃ (t : BoardTable) (free : t.has b.id = false),
      s' = { s with boards := some (t.insert b free) } := by
  simp only [insertBoard] at h
  split at h
  · split at h
    · cases h
      exact ⟨_, _, rfl⟩
    · cases h
  · cases h

/-! ## Reading back what has been stored -/

/-- Whether what has been stored can be read back. -/
structure ReadsBack (s : Store) : Prop where
  notices : s.broken .rereadNotice = false
  boards : s.broken .rereadBoard = false

/-- A notice that is stored is read back as it is, unless that breaks: then it stays stored. -/
theorem save_stored {s s' : Store} {d : Draft} {n : Notice} (h : s.insert d = .ok (n, s')) :
    s.save d = (if s.broken .rereadNotice then .error .insertNotice else .ok n, s') := by
  rw [save, h]
  obtain ⟨t, _, _, free, rfl⟩ := insert_eq_ok_iff.mp h
  have hbroken : (s.withNotices (t.insert n free)).broken .rereadNotice =
      s.broken .rereadNotice := rfl
  dsimp only
  rw [reread, noticesFor, hbroken]
  by_cases breaks : s.broken .rereadNotice <;> simp [breaks, Table.find?_insert]

theorem save_refused {s : Store} {d : Draft} {task : Task} (h : s.insert d = .error task) :
    s.save d = (.error task, s) := by
  rw [save, h]

theorem saveBoard_stored {s s' : Store} {id title : Option String} {b : Board}
    (h : s.insertBoard id title = .ok (b, s')) :
    s.saveBoard id title = (if s.broken .rereadBoard then .error .insertBoard else .ok b, s') := by
  rw [saveBoard, h]
  obtain ⟨t, free, rfl⟩ := insertBoard_ok h
  have hbroken : ({ s with boards := some (t.insert b free) } : Store).broken .rereadBoard =
      s.broken .rereadBoard := rfl
  dsimp only
  rw [rereadBoard, boardsFor, hbroken]
  by_cases breaks : s.broken .rereadBoard <;> simp [breaks, Table.find?_insert]

theorem saveBoard_refused {s : Store} {id title : Option String} {task : Task}
    (h : s.insertBoard id title = .error task) :
    s.saveBoard id title = (.error task, s) := by
  rw [saveBoard, h]

/-! ## The row under an identifier after an operation -/

theorem noticeAt_insert {s s' : Store} {d : Draft} {n : Notice}
    (h : s.insert d = .ok (n, s')) (id : String) :
    s'.noticeAt id = if n.id = id then some n else s.noticeAt id := by
  obtain ⟨t, ht, _, free, rfl⟩ := insert_eq_ok_iff.mp h
  simp [noticeAt, (noticesFor_eq_some_iff.mp ht).2, Table.find?_insert]

theorem noticeAt_free {s s' : Store} {d : Draft} {n : Notice}
    (h : s.insert d = .ok (n, s')) : s.noticeAt n.id = none := by
  obtain ⟨t, ht, _, free, _⟩ := insert_eq_ok_iff.mp h
  simpa [noticeAt, (noticesFor_eq_some_iff.mp ht).2, Table.has_eq_isSome] using free

theorem noticeAt_setRead {s s' : Store} {id : String} {read : Bool}
    (h : s.setRead (some id) (some read) = .ok s') (k : String) :
    s'.noticeAt k = (s.noticeAt k).map (marked id read) := by
  obtain ⟨t, ht, rfl⟩ := setRead_ok h
  simp [noticeAt, ht, Table.find?_update]

theorem noticeAt_removeWhere {s s' : Store} {task : Task} {p : Notice → Bool}
    (h : s.removeWhere task p = .ok s') (k : String) :
    s'.noticeAt k = (s.noticeAt k).filter (!p ·) := by
  obtain ⟨t, ht, rfl⟩ := removeWhere_ok h
  simp [noticeAt, ht, Table.find?_remove]

end Store
end Noticeboard
