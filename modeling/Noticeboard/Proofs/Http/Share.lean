import Noticeboard.Http.Identity
import Noticeboard.Proofs.Store.Listing

/-!
The share of a bearer: a store without the notices of others. What is asked for a bearer's own
notices is answered alike on the whole store and on the share, and changes both alike. What is
done to the notices of one bearer leaves the shares of others as they are.
-/

namespace Noticeboard
namespace Token.Bearer

theorem owns_iff {b : Bearer} {n : Notice} : b.owns n = true ↔ b = user n.recipient := by
  cases b <;> simp [owns, eq_comm]

@[simp] theorem owns_marked (b : Bearer) (id : String) (read : Bool) (n : Notice) :
    b.owns (Store.marked id read n) = b.owns n := by
  rw [Store.marked_eq]
  rfl

def Apart (b u : Bearer) : Prop := ∀ n, b.owns n = true → u.owns n = false

theorem apart_of_ne {b u : Bearer} (h : b ≠ u) : b.Apart u := by
  intro n hn
  rw [Bool.eq_false_iff]
  intro hu
  exact h ((owns_iff.mp hn).trans (owns_iff.mp hu).symm)

end Token.Bearer

namespace Table

variable {α : Type} {key : α → String}

theorem remove_insert (t : Table α key) (a : α) (free : t.has (key a) = false) (p : α → Bool)
    (ha : p a = false) (free' : (t.remove p).has (key a) = false) :
    (t.insert a free).remove p = (t.remove p).insert a free' :=
  ext (by simp [ha])

theorem remove_insert_of_removed (t : Table α key) (a : α) (free : t.has (key a) = false)
    (p : α → Bool) (ha : p a = true) : (t.insert a free).remove p = t.remove p :=
  ext (by simp [ha])

theorem remove_update (t : Table α key) (f : α → α) (fixed : ∀ a, key (f a) = key a)
    (p : α → Bool) (hp : ∀ a, p (f a) = p a) :
    (t.update f fixed).remove p = (t.remove p).update f fixed :=
  ext (by simp [List.filter_map, Function.comp_def, hp])

/-- A change of rows that are all removed does not show. -/
theorem remove_update_of_removed (t : Table α key) (f : α → α) (fixed : ∀ a, key (f a) = key a)
    (p : α → Bool) (hp : ∀ a, p (f a) = p a) (hf : ∀ a ∈ t.rows, p a = false → f a = a) :
    (t.update f fixed).remove p = t.remove p := by
  rw [remove_update t f fixed p hp]
  apply ext
  rw [rows_update, rows_remove]
  conv_rhs => rw [← List.map_id (t.rows.filter _)]
  apply List.map_congr_left
  intro a ha
  rw [List.mem_filter, Bool.not_eq_true'] at ha
  exact hf a ha.1 ha.2

theorem remove_comm (t : Table α key) (p q : α → Bool) :
    (t.remove p).remove q = (t.remove q).remove p :=
  ext (by simp [List.filter_filter, Bool.and_comm])

theorem remove_of_removed (t : Table α key) (p q : α → Bool)
    (h : ∀ a ∈ t.rows, p a = true → q a = true) : (t.remove p).remove q = t.remove q := by
  apply ext
  rw [rows_remove, rows_remove, rows_remove, List.filter_filter]
  apply List.filter_congr
  intro a ha
  cases hp : p a
  · simp
  · simp [h a ha hp]

end Table

namespace Store

variable {b u : Token.Bearer} {s s' : Store}

/-- The store without the notices that do not belong to the bearer. -/
def share (s : Store) (b : Token.Bearer) : Store :=
  { s with notices := s.notices.map (·.remove (!b.owns ·)) }

@[simp] theorem share_withNotices (s : Store) (t : NoticeTable) (b : Token.Bearer) :
    (s.withNotices t).share b = (s.share b).withNotices (t.remove (!b.owns ·)) := rfl

@[simp] theorem broken_share (s : Store) (b : Token.Bearer) (access : Access) :
    (s.share b).broken access = s.broken access := rfl

theorem noticesFor_share (s : Store) (b : Token.Bearer) (access : Access) :
    (s.share b).noticesFor access = (s.noticesFor access).map (·.remove (!b.owns ·)) := by
  rw [noticesFor, noticesFor, broken_share]
  split <;> rfl

theorem noticeAt_share (s : Store) (b : Token.Bearer) (id : String) :
    (s.share b).noticeAt id = (s.noticeAt id).filter b.owns := by
  cases h : s.notices with
  | none => simp [noticeAt, share, h]
  | some t => simp [noticeAt, share, h, Table.find?_remove]

/-- Whether an identifier is that of a notice that belongs to the bearer. -/
def Holds (s : Store) (b : Token.Bearer) (id : Option String) : Prop :=
  ∃ k n, id = some k ∧ s.noticeAt k = some n ∧ b.owns n = true

theorem notices_share {t : NoticeTable} (ht : s.notices = some t) :
    (s.share b).notices = some (t.remove (!b.owns ·)) := by
  simp [share, ht]

theorem has_of_holds {t : NoticeTable} {id : String} (ht : s.notices = some t)
    (h : s.Holds b (some id)) : t.has id = true ∧ (t.remove (!b.owns ·)).has id = true := by
  obtain ⟨k, n, hk, hn, hb⟩ := h
  cases hk
  simp only [noticeAt, ht, Option.bind_some] at hn
  simp [Table.has_eq_isSome, Table.find?_remove, hn, hb]

/-! ## Operations on the share -/

theorem reach_share (s : Store) (b : Token.Bearer) (task : Task) :
    (s.share b).reach task = s.reach task := by
  cases h : s.notices <;> simp [reach, share, h]

theorem listing_remove (t : NoticeTable) (user : String) :
    listing (t.remove (!(Token.Bearer.user user).owns ·)) user = listing t user := by
  simp [listing, Token.Bearer.owns, List.filter_filter]

theorem list_share (s : Store) (user : String) (limit offset : Int) :
    (s.share (.user user)).list (some user) limit offset = s.list (some user) limit offset := by
  rw [list, list, noticesFor_share]
  cases s.noticesFor .listNotices with
  | none => rfl
  | some t => simp [listing_remove]

theorem countUnread_share (s : Store) (user : String) :
    (s.share (.user user)).countUnread (some user) = s.countUnread (some user) := by
  rw [countUnread, countUnread, noticesFor_share]
  cases s.noticesFor .countUnread with
  | none => rfl
  | some t =>
      simp only [Option.map_some, Table.rows_remove, List.countP_filter, Except.ok.injEq]
      apply List.countP_congr
      intro n _
      by_cases h : user = n.recipient
      · simp [Token.Bearer.owns, h]
      · simp [h]

theorem find_share {id : Option String} (h : s.Holds b id) : (s.share b).find id = s.find id := by
  obtain ⟨k, n, rfl, hn, hb⟩ := h
  rw [find, find, noticesFor_share]
  cases ht : s.noticesFor .findNotice with
  | none => rfl
  | some t =>
      rw [noticeAt, (noticesFor_eq_some_iff.mp ht).2, Option.bind_some] at hn
      simp [Table.find?_remove, hn, hb]

theorem setRead_share {id : Option String} (read : Option Bool) (h : s.Holds b id) :
    (s.share b).setRead id read = (s.setRead id read).map (·.share b) := by
  obtain ⟨k, n, rfl, hn, hb⟩ := h
  obtain ⟨t, ht, _⟩ := Option.bind_eq_some_iff.mp hn
  obtain ⟨taken, taken'⟩ := has_of_holds ht ⟨k, n, rfl, hn, hb⟩
  simp only [setRead, notices_share ht, ht, taken, taken', ↓reduceIte, broken_share]
  cases read with
  | none => rfl
  | some read =>
      by_cases hbroken : s.broken (.updateNotice k) = true
      · simp only [hbroken, ↓reduceIte]
        rfl
      · simp only [hbroken, Bool.false_eq_true, ↓reduceIte, Except.map, share, Option.map_some]
        rw [Table.remove_update t _ (id_marked k read) _ (by simp)]

theorem delete_share {id : Option String} (h : s.Holds b id) :
    (s.share b).delete id = (s.delete id).map (·.share b) := by
  obtain ⟨k, n, rfl, hn, hb⟩ := h
  obtain ⟨t, ht, _⟩ := Option.bind_eq_some_iff.mp hn
  have taken {t : NoticeTable} (h : t.has k = true) :
      t.rows.any (fun n => some k = some n.id) = true := by
    obtain ⟨m, hm, hk⟩ := List.any_eq_true.mp h
    exact List.any_eq_true.mpr ⟨m, hm, by simpa using (of_decide_eq_true hk).symm⟩
  obtain ⟨hany, hany'⟩ := (has_of_holds ht ⟨k, n, rfl, hn, hb⟩).imp taken taken
  simp only [delete, removeWhere, notices_share ht, ht, hany, hany', Bool.true_and, broken_share]
  by_cases hbroken : s.broken .deleteNotice = true
  · simp only [hbroken, ↓reduceIte]
    rfl
  · simp only [hbroken, Bool.false_eq_true, ↓reduceIte, Except.map, share, Option.map_some]
    rw [Table.remove_comm]

theorem insert_share {d : Draft}
    (h : ∀ n, row? d = some n → b.owns n = true ∧ s.noticeAt n.id = none) :
    (s.share b).insert d = (s.insert d).map fun r => (r.1, r.2.share b) := by
  rw [insert, insert, noticesFor_share]
  cases ht : s.noticesFor .insertNotice with
  | none => rfl
  | some t =>
      cases hd : row? d with
      | none => rfl
      | some n =>
          obtain ⟨hb, hn⟩ := h n hd
          rw [noticeAt, (noticesFor_eq_some_iff.mp ht).2, Option.bind_some] at hn
          have free : t.has n.id = false := by simp [Table.has_eq_isSome, hn]
          have free' : (t.remove (!b.owns ·)).has n.id = false := by
            simp [Table.has_eq_isSome, Table.find?_remove, hn]
          simp only [Option.map_some, free, free', ↓reduceDIte, Except.map, share]
          rw [Table.remove_insert t n free _ (by simp [hb]) free']

theorem save_share {d : Draft}
    (h : ∀ n, row? d = some n → b.owns n = true ∧ s.noticeAt n.id = none) :
    (s.share b).save d = ((s.save d).1, (s.save d).2.share b) := by
  have hinsert := insert_share h
  cases hs : s.insert d with
  | ok r =>
      rw [hs] at hinsert
      rw [save_stored hs, save_stored hinsert, broken_share]
  | error task =>
      rw [hs] at hinsert
      rw [save_refused hs, save_refused hinsert]

/-! ## Operations for others -/

theorem share_insert {d : Draft} {n : Notice} (h : s.insert d = .ok (n, s'))
    (hn : u.owns n = false) : s'.share u = s.share u := by
  obtain ⟨t, ht, _, free, rfl⟩ := insert_eq_ok_iff.mp h
  rw [share_withNotices, Table.remove_insert_of_removed t n free _ (by simp [hn])]
  simp [share, withNotices, (noticesFor_eq_some_iff.mp ht).2]

theorem share_setRead {id : String} {read : Bool}
    (h : s.setRead (some id) (some read) = .ok s')
    (hn : ∀ n, s.noticeAt id = some n → u.owns n = false) : s'.share u = s.share u := by
  obtain ⟨t, ht, rfl⟩ := setRead_ok h
  rw [share_withNotices, Table.remove_update_of_removed t _ _ _ (by simp)]
  · simp [share, withNotices, ht]
  · intro n hrow hu
    have hid : n.id ≠ id := by
      rintro rfl
      have := hn n (by rw [noticeAt, ht]; exact Table.find?_eq_some_iff.mpr ⟨hrow, rfl⟩)
      simp [this] at hu
    simp [marked, hid]

theorem share_removeWhere {task : Task} {p : Notice → Bool}
    (h : s.removeWhere task p = .ok s')
    (hn : ∀ id n, s.noticeAt id = some n → p n = true → u.owns n = false) :
    s'.share u = s.share u := by
  obtain ⟨t, ht, rfl⟩ := removeWhere_ok h
  rw [share_withNotices, Table.remove_of_removed]
  · simp [share, withNotices, ht]
  · intro n hrow hp
    have := hn n.id n (by rw [noticeAt, ht]; exact Table.find?_eq_some_iff.mpr ⟨hrow, rfl⟩) hp
    simp [this]

end Store
end Noticeboard
