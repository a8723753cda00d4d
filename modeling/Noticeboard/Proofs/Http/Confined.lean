import Noticeboard.Proofs.Http.Share
import Noticeboard.Proofs.Service.Along

/-!
Calls that stay with one bearer's notices, and runs that make no others. They are answered from
the bearer's share and leave the shares of all others alone; the identifier of a new notice
is fixed in advance. This is all that later proofs need to know of a request.
-/

namespace Noticeboard

open Token (Bearer)

/-- Whether a call on a store reads and writes only what belongs to the bearer. A notice may
be inserted under a fresh identifier, and it has to be `new`. -/
def Call.Confined (b : Bearer) (new : Option String) (s : Store) : Call → Prop
  | .insert d => ∀ n, Store.row? d = some n →
      b.owns n = true ∧ new = some n.id ∧ s.noticeAt n.id = none
  | .list recipient _ _ | .countUnread recipient =>
      ∃ user, b = .user user ∧ recipient = some user
  | .find id | .setRead id _ | .delete id => s.Holds b id
  | .deleteFor _ | .insertBoard _ _ => False
  | _ => True

theorem Call.confined_of_silent {b : Bearer} {new : Option String} (c : Call) (h : c.Silent)
    (s : Store) : c.Confined b new s := by
  cases c <;> trivial

namespace Desk

variable {b u : Bearer} {new : Option String} {d : Desk} {c : Call}

def share (d : Desk) (b : Bearer) : Desk := { d with store := d.store.share b }

theorem reading_share {α : Type} (d : Desk) (b : Bearer) (entry : Task → Log.Entry)
    (r : Except Task α) :
    (d.share b).reading entry r = ((d.reading entry r).1, (d.reading entry r).2.share b) := by
  cases r <;> rfl

theorem writing_share {α : Type} (d : Desk) (b : Bearer) (entry : Task → Log.Entry)
    (r : Except Task (α × Store)) :
    (d.share b).writing entry (r.map fun r => (r.1, r.2.share b)) =
      ((d.writing entry r).1, (d.writing entry r).2.share b) := by
  cases r <;> rfl

theorem saving_share {α : Type} (d : Desk) (b : Bearer) (entry : Task → Log.Entry)
    (r : Except Task α × Store) :
    (d.share b).saving entry (r.1, r.2.share b) =
      ((d.saving entry r).1, (d.saving entry r).2.share b) := by
  rcases r with ⟨_ | _, _⟩ <;> rfl

/-- A confined call is answered from the share, and changes it as it changes the whole. -/
theorem perform_share (h : c.Confined b new d.store) :
    (d.share b).perform c = ((d.perform c).1, (d.perform c).2.share b) := by
  cases c with
  | draw | now | settings | note _ => rfl
  | reach task =>
      simp only [perform]
      rw [← reading_share, ← d.store.reach_share b]
      rfl
  | findBoard id => exact reading_share d b _ _
  | list recipient limit offset =>
      obtain ⟨user, rfl, rfl⟩ := h
      simp only [perform]
      rw [← reading_share, ← d.store.list_share]
      rfl
  | countUnread recipient =>
      obtain ⟨user, rfl, rfl⟩ := h
      simp only [perform]
      rw [← reading_share, ← d.store.countUnread_share]
      rfl
  | find id =>
      simp only [perform]
      rw [← reading_share, ← Store.find_share h]
      rfl
  | insert draft =>
      simp only [perform]
      rw [← saving_share, ← Store.save_share fun n hn => ⟨(h n hn).1, (h n hn).2.2⟩]
      rfl
  | setRead id read =>
      simp only [perform]
      rw [← writing_share]
      congr 1
      change ((d.store.share b).setRead id read).map _ = _
      rw [Store.setRead_share read h]
      cases d.store.setRead id read <;> rfl
  | delete id =>
      simp only [perform]
      rw [← writing_share]
      congr 1
      change ((d.store.share b).delete id).map _ = _
      rw [Store.delete_share h]
      cases d.store.delete id <;> rfl
  | deleteFor _ | insertBoard _ _ => exact h.elim

theorem share_perform (h : c.Confined b new d.store) (hapart : b.Apart u) :
    (d.perform c).2.store.share u = d.store.share u := by
  have heffect := d.effect_perform c
  generalize (d.perform c).2.store = s' at heffect
  cases heffect with
  | none => rfl
  | inserted hinsert =>
      exact Store.share_insert hinsert (hapart _ (h _ (Store.insert_eq_ok_iff.mp hinsert).choose_spec.2.1).1)
  | flagged hflag =>
      obtain ⟨k, n, hk, hn, hb⟩ := h
      cases hk
      exact Store.share_setRead hflag fun m hm => Option.some.inj (hn.symm.trans hm) ▸ hapart n hb
  | deleted hdelete =>
      obtain ⟨k, n, rfl, hn, hb⟩ := h
      refine Store.share_removeWhere hdelete fun id m hm hp => ?_
      have hid : k = m.id := by simpa using hp
      obtain rfl : n = m := by
        rw [hid, Store.id_of_noticeAt hm] at hn
        exact Option.some.inj (hn.symm.trans hm)
      exact hapart n hb
  | deletedFor _ | boarded => exact h.elim

theorem noticeAt_perform (h : c.Confined b new d.store) {id : String}
    (hnew : new ≠ some id) (hid : d.store.noticeAt id = none) :
    (d.perform c).2.store.noticeAt id = none := by
  refine Store.absent_of_effect (d.effect_perform c) hid fun draft n hc hinsert => ?_
  subst hc
  obtain ⟨_, _, hrow, _⟩ := Store.insert_eq_ok_iff.mp hinsert
  rintro rfl
  exact hnew (h n hrow).2.1

end Desk

/-! ## Confined runs -/

namespace Plan

variable {α : Type} {b u : Bearer} {new : Option String} {p : Plan α} {d : Desk}

/-- A confined run gives the same on the share, and leaves the share of what it leaves. -/
theorem run_share (h : p.Along (fun s c => c.Confined b new s) d) :
    p.run (d.share b) = ((p.run d).1, (p.run d).2.share b) := by
  induction p generalizing d with
  | done _ => rfl
  | call c next ih =>
      rw [run_call, Desk.perform_share h.1]
      exact ih _ h.2

theorem share_run (h : p.Along (fun s c => c.Confined b new s) d) (hapart : b.Apart u) :
    (p.run d).2.store.share u = d.store.share u := by
  refine (related_of_along (R := fun s s' => s.share u = s'.share u) (fun _ => rfl) Eq.trans ?_
    h).symm
  exact fun d c hc => (Desk.share_perform hc hapart).symm

theorem noticeAt_run (h : p.Along (fun s c => c.Confined b new s) d) {id : String}
    (hnew : new ≠ some id) (hid : d.store.noticeAt id = none) :
    (p.run d).2.store.noticeAt id = none :=
  related_of_along (R := fun s s' => s.noticeAt id = none → s'.noticeAt id = none) (fun _ h => h)
    (fun h h' hid => h' (h hid)) (fun _ _ hc => Desk.noticeAt_perform hc hnew) h hid

end Plan
end Noticeboard
