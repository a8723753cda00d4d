import Noticeboard.Proofs.Store.Listing

/-!
The number of unread notices of a user, and what the operations on notices add to it and take
away from it.
-/

namespace Noticeboard

def Notice.isDue (user : String) (n : Notice) : Bool := n.recipient = user && !n.read

/-- Of the rows under one key there is at most one, and it is the one that is found there. -/
theorem Table.filter_key {α : Type} {key : α → String} (t : Table α key) (k : String) :
    t.rows.filter (key · = k) = (t.find? k).toList := by
  cases hf : t.find? k with
  | none =>
      rw [Option.toList_none, List.filter_eq_nil_iff]
      exact List.find?_eq_none.mp hf
  | some a =>
      obtain ⟨ha, rfl⟩ := find?_eq_some_iff.mp hf
      have hmem : a ∈ t.rows.filter (key · = key a) := List.mem_filter.mpr ⟨ha, by simp⟩
      have hsame : ∀ b ∈ t.rows.filter (key · = key a), b = a := fun b hb =>
        eq_of_key (List.mem_of_mem_filter hb) ha (by simpa using (List.mem_filter.mp hb).2)
      have hnodup : (t.rows.filter (key · = key a)).Nodup := t.keyed.of_map.filter _
      rw [List.eq_replicate_of_mem hsame] at hmem hnodup ⊢
      rw [List.nodup_replicate] at hnodup
      have hone : (t.rows.filter (key · = key a)).length = 1 :=
        Nat.le_antisymm hnodup (Nat.one_le_iff_ne_zero.mpr (List.mem_replicate.mp hmem).1)
      rw [hone]
      rfl

namespace Store

/-- How many unread notices a user has. -/
def unread (s : Store) (user : String) : Nat :=
  s.notices.elim 0 (·.rows.countP (Notice.isDue user))

/-- One if there is an unread notice of the user's under the identifier, and else zero. -/
def due (s : Store) (id user : String) : Nat :=
  if (s.noticeAt id).any (Notice.isDue user) then 1 else 0

variable {s s' : Store}

theorem countUnread_eq {t : NoticeTable} (ht : s.noticesFor .countUnread = some t) (user : String) :
    s.countUnread (some user) = .ok (s.unread user) := by
  rw [countUnread, ht, unread, (noticesFor_eq_some_iff.mp ht).2]
  refine congrArg Except.ok (List.countP_congr fun n _ => ?_)
  simp [Notice.isDue, eq_comm (a := user)]

theorem unread_insert {d : Draft} {n : Notice} (h : s.insert d = .ok (n, s')) (user : String) :
    s'.unread user = s.unread user + if n.isDue user then 1 else 0 := by
  obtain ⟨t, ht, _, free, rfl⟩ := insert_eq_ok_iff.mp h
  simp [unread, (noticesFor_eq_some_iff.mp ht).2, List.countP_cons]

/-- The rows under other identifiers, and the one row under this one. -/
theorem unread_eq_add_due {t : NoticeTable} (ht : s.notices = some t) (id user : String) :
    s.unread user =
      (t.rows.filter fun n => !decide (n.id = id)).countP (Notice.isDue user) + s.due id user := by
  rw [unread, ht, Option.elim_some, List.countP_eq_countP_filter_add _ _ (·.id = id),
    t.filter_key, due, noticeAt, ht, Option.bind_some, Nat.add_comm]
  cases t.find? id <;> simp

theorem unread_setRead {id : String} (h : s.setRead (some id) (some true) = .ok s')
    (user : String) :
    s'.unread user + s.due id user = s.unread user := by
  obtain ⟨t, ht, rfl⟩ := setRead_ok h
  rw [unread_eq_add_due ht id, unread, notices_withNotices, Option.elim_some, Table.rows_update,
    List.countP_map, List.countP_filter]
  congr 1
  apply List.countP_congr
  intro n _
  by_cases hid : n.id = id <;> simp [marked, hid, Notice.isDue]

theorem unread_delete {id : String} (h : s.delete (some id) = .ok s') (user : String) :
    s'.unread user + s.due id user = s.unread user := by
  obtain ⟨t, ht, rfl⟩ := removeWhere_ok h
  rw [unread_eq_add_due ht id, unread, notices_withNotices, Option.elim_some, Table.rows_remove]
  simp [eq_comm]

theorem unread_deleteFor {recipient : String} (h : s.deleteFor (some recipient) = .ok s')
    (user : String) :
    s'.unread user = if recipient = user then 0 else s.unread user := by
  obtain ⟨t, ht, rfl⟩ := removeWhere_ok h
  rw [unread, notices_withNotices, Option.elim_some, Table.rows_remove, List.countP_filter]
  split
  · next heq =>
      subst heq
      rw [List.countP_eq_zero]
      intro n _
      simp +contextual [Notice.isDue]
  · next hother =>
      rw [unread, ht, Option.elim_some]
      apply List.countP_congr
      intro n _
      by_cases hn : n.recipient = user
      · simp [Notice.isDue, hn, hother]
      · simp [Notice.isDue, hn]

end Store
end Noticeboard
