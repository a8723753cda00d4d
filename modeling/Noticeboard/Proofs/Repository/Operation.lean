import Noticeboard.Proofs.Service.Run

/-!
The operations on the store of notices, and what each leaves of a sound store: the rows as they
were, but for those that it saves, deletes or flags.
-/

namespace Noticeboard
namespace Repository

inductive Operation
  | save (draft : Draft)
  | setRead (id : Option String) (read : Bool)
  | delete (id : Option String)
  | deleteFor (recipient : Option String)
  | find (id : Option String)
  | list (recipient : Option String) (limit offset : Int)
  | countUnread (recipient : Option String)

namespace Operation

abbrev Answer : Operation → Type
  | save _ => Notice
  | setRead _ _ | delete _ | deleteFor _ => Unit
  | find _ => Option Notice
  | list _ _ _ => List Notice
  | countUnread _ => Nat

def action : (o : Operation) → Action o.Answer
  | save draft => Service.save draft
  | setRead id read => Action.setRead id (some read)
  | delete id => Action.delete id
  | deleteFor recipient => Action.deleteFor recipient
  | find id => Action.find id
  | list recipient limit offset => Action.list recipient limit offset
  | countUnread recipient => Action.countUnread recipient

def answer (o : Operation) (d : Desk) : Except Failure o.Answer := (o.action.run d).1

def next (o : Operation) (d : Desk) : Desk := (o.action.run d).2

/-- Whether an operation asks to delete a notice, by its identifier or by its recipient. -/
def removes (n : Notice) : Operation → Bool
  | delete id => id = some n.id
  | deleteFor recipient => recipient = some n.recipient
  | _ => false

def flag? (id : String) : Operation → Option Bool
  | setRead target read => if target = some id then some read else none
  | _ => none

end Operation

/-- An operation and how it was answered. -/
structure Event where
  operation : Operation
  answer : Except Failure operation.Answer

def events : List Operation → Desk → List Event
  | [], _ => []
  | o :: rest, d => ⟨o, o.answer d⟩ :: events rest (o.next d)

def after : List Operation → Desk → Desk
  | [], d => d
  | o :: rest, d => after rest (o.next d)

def saved (draft : Draft) (n : Notice) : Event := ⟨.save draft, .ok n⟩

/-- Whether an event is a save under an identifier that succeeded. -/
def Event.Saves (id : String) (e : Event) : Prop :=
  ∃ draft n, e = saved draft n ∧ n.id = id

/-! ## One operation -/

/-- The notice with the flag that an operation sets. -/
def Operation.flagged (o : Operation) (n : Notice) : Notice :=
  { n with read := (o.flag? n.id).getD n.read }

theorem flagged_setRead (id : String) (read : Bool) (n : Notice) :
    (Operation.setRead (some id) read).flagged n = Store.marked id read n := by
  by_cases h : id = n.id
  · simp [Operation.flagged, Operation.flag?, Store.marked, h]
  · simp [Operation.flagged, Operation.flag?, Store.marked, h, Ne.symm h]

theorem flagged_eq_id {o : Operation} (h : ∀ id, o.flag? id = none) : o.flagged = id := by
  funext n
  rw [Operation.flagged, h]
  rfl

theorem answer_find {d : Desk} (h : d.store.Sound) (id : String) :
    (Operation.find (some id)).answer d = .ok (d.store.noticeAt id) := by
  obtain ⟨⟨t, ht⟩, hflaws⟩ := h.imp_left Option.isSome_iff_exists.mp
  rw [Operation.answer, Operation.action, Action.answer_find]
  simp [Store.find, Store.noticesFor, Store.broken, Store.noticeAt, Except.mapError, hflaws, ht]

theorem sound_withNotices {s : Store} (h : s.Sound) (t : NoticeTable) :
    (s.withNotices t).Sound :=
  ⟨rfl, h.2⟩

theorem setRead_of_sound {s : Store} (h : s.Sound) (id : String) (read : Bool) :
    ∃ s', s.setRead (some id) (some read) = .ok s' := by
  obtain ⟨⟨t, ht⟩, hflaws⟩ := h.imp_left Option.isSome_iff_exists.mp
  cases taken : t.has id <;>
    simp [Store.setRead, Store.broken, ht, taken, hflaws]

theorem removeWhere_of_sound {s : Store} (h : s.Sound) (task : Task) (p : Notice → Bool) :
    ∃ s', s.removeWhere task p = .ok s' := by
  obtain ⟨⟨t, ht⟩, hflaws⟩ := h.imp_left Option.isSome_iff_exists.mp
  simp [Store.removeWhere, Store.broken, ht, hflaws]

/-- A save inserts the row that it gives back, if that can be read back, or it fails and leaves
the store alone. -/
theorem save_cases (draft : Draft) (d : Desk) :
    ∃ id, (∀ own, filled? draft.id = some own → id = own) ∧
      ((∃ n s', d.store.insert { draft with id := some id } = .ok (n, s') ∧
          (Operation.save draft).answer d = (if d.store.broken .rereadNotice then
            .error (.storage .insertNotice) else .ok n) ∧
          ((Operation.save draft).next d).store = s') ∨
        (∃ task, d.store.insert { draft with id := some id } = .error task ∧
          (Operation.save draft).answer d = .error (.storage task) ∧
          ((Operation.save draft).next d).store = d.store)) := by
  obtain ⟨id, d', hstore, hown, hrun⟩ := Service.run_save draft d
  refine ⟨id, hown, ?_⟩
  simp only [Operation.answer, Operation.next, Operation.action, hrun, Action.answer_insert,
    Action.store_insert, hstore]
  cases hinsert : d.store.insert { draft with id := some id } with
  | ok r =>
      refine .inl ⟨r.1, r.2, rfl, ?_, rfl⟩
      rw [Store.save_stored hinsert]
      split <;> rfl
  | error task =>
      refine .inr ⟨task, rfl, ?_, rfl⟩
      rw [Store.save_refused hinsert]
      rfl

/-- On a sound store a save is answered as it ends. -/
theorem save_of_sound {d : Desk} (h : d.store.Sound) (draft : Draft) :
    ∃ id, (∀ own, filled? draft.id = some own → id = own) ∧
      ((∃ n s', d.store.insert { draft with id := some id } = .ok (n, s') ∧
          (Operation.save draft).answer d = .ok n ∧ ((Operation.save draft).next d).store = s') ∨
        (∃ task, d.store.insert { draft with id := some id } = .error task ∧
          (Operation.save draft).answer d = .error (.storage task) ∧
          ((Operation.save draft).next d).store = d.store)) := by
  have hcases := save_cases draft d
  rw [h.readsBack.notices] at hcases
  exact hcases

theorem next_of_removeWhere {d : Desk} (h : d.store.Sound) {o : Operation}
    (hflag : ∀ id, o.flag? id = none) {task : Task} {p : Notice → Bool}
    (hp : ∀ n, o.removes n = p n)
    (hstore : (o.next d).store =
      Desk.kept d.store ((d.store.removeWhere task p).map ((), ·))) :
    (o.next d).store.Sound ∧ ∀ id, ¬ Event.Saves id ⟨o, o.answer d⟩ →
      (o.next d).store.noticeAt id =
        ((d.store.noticeAt id).filter (!o.removes ·)).map o.flagged := by
  obtain ⟨s', hs⟩ := removeWhere_of_sound h task p
  rw [hs] at hstore
  replace hstore : (o.next d).store = s' := hstore
  obtain ⟨t, _, ht⟩ := Store.removeWhere_ok hs
  refine ⟨hstore ▸ ht ▸ sound_withNotices h _, fun id _ => ?_⟩
  rw [hstore, Store.noticeAt_removeWhere hs, flagged_eq_id hflag, Option.map_id]
  simp only [hp]
  rfl

/-- What an operation leaves of the rows of a sound store. A row that it does not save is the
one from before, gone if the operation asks to delete it and else with the flag that it sets. -/
theorem next_of_sound {d : Desk} (h : d.store.Sound) (o : Operation) :
    (o.next d).store.Sound ∧ ∀ id, ¬ Event.Saves id ⟨o, o.answer d⟩ →
      (o.next d).store.noticeAt id =
        ((d.store.noticeAt id).filter (!o.removes ·)).map o.flagged := by
  have unchanged (hkeep : ∀ n, o.removes n = false) (hflag : ∀ id, o.flag? id = none)
      (hstore : (o.next d).store = d.store) : (o.next d).store.Sound ∧ ∀ id,
        ¬ Event.Saves id ⟨o, o.answer d⟩ → (o.next d).store.noticeAt id =
          ((d.store.noticeAt id).filter (!o.removes ·)).map o.flagged := by
    refine ⟨hstore ▸ h, fun id _ => ?_⟩
    rw [hstore, flagged_eq_id hflag]
    cases d.store.noticeAt id <;> simp [Option.filter, hkeep]
  cases o with
  | save draft =>
      obtain ⟨id, _, ⟨n, s', hinsert, hanswer, hs'⟩ | ⟨_, _, _, hs'⟩⟩ := save_of_sound h draft
      · obtain ⟨t, _, _, free, rfl⟩ := Store.insert_eq_ok_iff.mp hinsert
        refine ⟨hs' ▸ sound_withNotices h _, fun k hk => ?_⟩
        have other : n.id ≠ k := fun hid => hk ⟨draft, n, by rw [saved, hanswer], hid⟩
        rw [hs', Store.noticeAt_insert hinsert, if_neg other, flagged_eq_id fun _ => rfl]
        cases d.store.noticeAt k <;> simp [Option.filter, Operation.removes]
      · exact unchanged (fun _ => rfl) (fun _ => rfl) hs'
  | setRead id read =>
      cases id with
      | none =>
          refine unchanged (fun _ => rfl) (fun _ => rfl) ?_
          rw [Operation.next, Operation.action, Action.store_setRead]
          cases hs : d.store.setRead none (some read) with
          | ok s' => exact Store.setRead_none_left hs
          | error _ => rfl
      | some id =>
          obtain ⟨s', hs⟩ := setRead_of_sound h id read
          have hnext : ((Operation.setRead (some id) read).next d).store = s' := by
            rw [Operation.next, Operation.action, Action.store_setRead, hs]
            rfl
          obtain ⟨t, _, ht⟩ := Store.setRead_ok hs
          refine ⟨hnext ▸ ht ▸ sound_withNotices h _, fun k _ => ?_⟩
          rw [hnext, Store.noticeAt_setRead hs]
          cases d.store.noticeAt k <;> simp [Option.filter, Operation.removes, flagged_setRead]
  | delete id =>
      exact next_of_removeWhere h (fun _ => rfl) (fun _ => rfl) (Action.store_delete id d)
  | deleteFor recipient =>
      exact next_of_removeWhere h (fun _ => rfl) (fun _ => rfl) (Action.store_deleteFor recipient d)
  | find id => exact unchanged (fun _ => rfl) (fun _ => rfl) (Action.store_find id d)
  | list recipient limit offset =>
      exact unchanged (fun _ => rfl) (fun _ => rfl) (Action.store_list recipient limit offset d)
  | countUnread recipient =>
      exact unchanged (fun _ => rfl) (fun _ => rfl) (Action.store_countUnread recipient d)

/-! ## Many operations -/

theorem after_append (ops ops' : List Operation) (d : Desk) :
    after (ops ++ ops') d = after ops' (after ops d) := by
  induction ops generalizing d with
  | nil => rfl
  | cons o rest ih => exact ih _

theorem sound_after {d : Desk} (h : d.store.Sound) (ops : List Operation) :
    (after ops d).store.Sound := by
  induction ops generalizing d with
  | nil => exact h
  | cons o rest ih => exact ih (next_of_sound h o).1

end Repository
end Noticeboard
