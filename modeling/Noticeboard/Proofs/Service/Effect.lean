import Noticeboard.Proofs.Store.Rows
import Noticeboard.Service.Desk

/-!
What a call can do to the store, and with it a plan that makes only calls of some kind. A plan
is judged by all the calls that it can make, whatever it is answered, so that what is shown
of it holds also where the calls of others come between.
-/

namespace Noticeboard

/-- What a call leaves of a store. The store is as it was, or a call of the right kind has
inserted a row, set a flag, removed rows, or changed the boards. -/
inductive Effect (s : Store) : Call → Store → Prop
  | none (c : Call) : Effect s c s
  | inserted {d : Draft} {n : Notice} {s' : Store} (h : s.insert d = .ok (n, s')) :
      Effect s (.insert d) s'
  | flagged {id : String} {read : Bool} {s' : Store}
      (h : s.setRead (some id) (some read) = .ok s') :
      Effect s (.setRead (some id) (some read)) s'
  | deleted {id : Option String} {s' : Store} (h : s.delete id = .ok s') :
      Effect s (.delete id) s'
  | deletedFor {recipient : Option String} {s' : Store} (h : s.deleteFor recipient = .ok s') :
      Effect s (.deleteFor recipient) s'
  | boarded (id title : Option String) (boards : Option BoardTable) :
      Effect s (.insertBoard id title) { s with boards }

/-- No call loses the table of notices. -/
theorem Store.notices_of_effect {s s' : Store} {c : Call} (h : Effect s c s')
    (hs : s.notices.isSome) : s'.notices.isSome := by
  cases h with
  | none | boarded => exact hs
  | inserted hinsert =>
      obtain ⟨_, _, _, _, rfl⟩ := insert_eq_ok_iff.mp hinsert
      rfl
  | flagged hflag =>
      obtain ⟨_, _, rfl⟩ := setRead_ok hflag
      rfl
  | deleted hdelete | deletedFor hdelete =>
      obtain ⟨_, _, rfl⟩ := removeWhere_ok hdelete
      rfl

/-- Where no row is, there is none after a call either, unless it has created one. -/
theorem Store.absent_of_effect {s s' : Store} {c : Call} (h : Effect s c s') {id : String}
    (hid : s.noticeAt id = none)
    (hnew : ∀ draft n, c = .insert draft → s.insert draft = .ok (n, s') → n.id ≠ id) :
    s'.noticeAt id = none := by
  cases h with
  | none | boarded => exact hid
  | inserted hinsert => rw [noticeAt_insert hinsert, if_neg (hnew _ _ rfl hinsert), hid]
  | flagged hflag => rw [noticeAt_setRead hflag, hid, Option.map_none]
  | deleted hdelete | deletedFor hdelete =>
      rw [noticeAt_removeWhere hdelete, hid, Option.filter_none]

namespace Desk

variable {α : Type}

@[simp] theorem store_reading (d : Desk) (entry : Task → Log.Entry) (r : Except Task α) :
    (d.reading entry r).2.store = d.store := by
  cases r <;> rfl

@[simp] theorem answer_reading (d : Desk) (entry : Task → Log.Entry) (r : Except Task α) :
    (d.reading entry r).1 = r := by
  cases r <;> rfl

/-- The store after an operation that gives a new one if it succeeds. -/
def kept (s : Store) : Except Task (α × Store) → Store
  | .ok (_, s') => s'
  | .error _ => s

@[simp] theorem store_writing (d : Desk) (entry : Task → Log.Entry)
    (r : Except Task (α × Store)) : (d.writing entry r).2.store = kept d.store r := by
  cases r <;> rfl

@[simp] theorem answer_writing (d : Desk) (entry : Task → Log.Entry)
    (r : Except Task (α × Store)) : (d.writing entry r).1 = r.map (·.1) := by
  cases r <;> rfl

@[simp] theorem store_saving (d : Desk) (entry : Task → Log.Entry) (r : Except Task α × Store) :
    (d.saving entry r).2.store = r.2 := by
  rcases r with ⟨_ | _, _⟩ <;> rfl

@[simp] theorem answer_saving (d : Desk) (entry : Task → Log.Entry) (r : Except Task α × Store) :
    (d.saving entry r).1 = r.1 := by
  rcases r with ⟨_ | _, _⟩ <;> rfl

/-- What is stored stays stored, whether or not it can be read back. -/
theorem store_save (s : Store) (draft : Draft) : (s.save draft).2 = kept s (s.insert draft) := by
  cases h : s.insert draft with
  | ok r => rw [Store.save_stored h, kept]
  | error _ => rw [Store.save_refused h, kept]

theorem store_saveBoard (s : Store) (id title : Option String) :
    (s.saveBoard id title).2 = kept s (s.insertBoard id title) := by
  cases h : s.insertBoard id title with
  | ok r => rw [Store.saveBoard_stored h, kept]
  | error _ => rw [Store.saveBoard_refused h, kept]

theorem clock_reading (d : Desk) (entry : Task → Log.Entry) (r : Except Task α) :
    (d.reading entry r).2.clock = d.clock := by
  cases r <;> rfl

theorem clock_writing (d : Desk) (entry : Task → Log.Entry) (r : Except Task (α × Store)) :
    (d.writing entry r).2.clock = d.clock := by
  cases r <;> rfl

theorem clock_saving (d : Desk) (entry : Task → Log.Entry) (r : Except Task α × Store) :
    (d.saving entry r).2.clock = d.clock := by
  rcases r with ⟨_ | _, _⟩ <;> rfl

theorem clock_perform (d : Desk) (c : Call) : (d.perform c).2.clock = d.clock := by
  cases c with
  | draw | now | settings | note _ => rfl
  | reach _ | list _ _ _ | countUnread _ | find _ | findBoard _ => exact d.clock_reading _ _
  | setRead _ _ | delete _ | deleteFor _ => exact d.clock_writing _ _
  | insert _ | insertBoard _ _ => exact d.clock_saving _ _

theorem effect_perform (d : Desk) (c : Call) : Effect d.store c (d.perform c).2.store := by
  cases c with
  | draw | now | settings | note _ => exact .none _
  | reach _ | list _ _ _ | countUnread _ | find _ | findBoard _ =>
      rw [perform, store_reading]
      exact .none _
  | insert draft =>
      rw [perform, store_saving, store_save]
      cases h : d.store.insert draft with
      | ok r => exact .inserted h
      | error _ => exact .none _
  | setRead id read =>
      rw [perform, store_writing]
      cases h : d.store.setRead id read with
      | error _ => exact .none _
      | ok s' =>
          cases id with
          | none =>
              rw [Store.setRead_none_left h]
              exact .none _
          | some id =>
              cases read with
              | some read => exact .flagged h
              | none =>
                  rw [Store.setRead_none_right h]
                  exact .none _
  | delete id =>
      rw [perform, store_writing]
      cases h : d.store.delete id with
      | ok s' => exact .deleted h
      | error _ => exact .none _
  | deleteFor recipient =>
      rw [perform, store_writing]
      cases h : d.store.deleteFor recipient with
      | ok s' => exact .deletedFor h
      | error _ => exact .none _
  | insertBoard id title =>
      rw [perform, store_saving, store_saveBoard]
      cases h : d.store.insertBoard id title with
      | error _ => exact .none _
      | ok r =>
          obtain ⟨_, _, hboards⟩ := Store.insertBoard_ok h
          rw [kept, hboards]
          exact .boarded _ _ _

end Desk

/-- Whether a call neither reads nor writes notices, and writes no boards. -/
def Call.Silent : Call → Prop
  | .draw | .now | .settings | .note _ | .reach _ | .findBoard _ => True
  | _ => False

def Call.Reads : Call → Prop
  | .insert _ | .setRead _ _ | .delete _ | .deleteFor _ | .insertBoard _ _ => False
  | _ => True

theorem Call.reads_of_silent (c : Call) (h : c.Silent) : c.Reads := by
  cases c <;> trivial

theorem Desk.store_of_reads (d : Desk) {c : Call} (h : c.Reads) :
    (d.perform c).2.store = d.store := by
  have heffect := d.effect_perform c
  generalize (d.perform c).2.store = s' at heffect
  cases heffect with
  | none => rfl
  | inserted _ | flagged _ | deleted _ | deletedFor _ | boarded => exact h.elim

/-! ## Plans that make only calls of some kind -/

namespace Plan

variable {α β ε : Type} {P : Call → Prop}

/-- Whether `P` holds of every call that a plan can make. -/
def Makes (P : Call → Prop) : Plan α → Prop
  | done _ => True
  | call c next => P c ∧ ∀ answer, (next answer).Makes P

theorem makes_bind {p : Plan α} {f : α → Plan β} (hp : p.Makes P)
    (hf : ∀ a, (f a).Makes P) : (p >>= f).Makes P := by
  induction p with
  | done a => exact hf a
  | call c next ih => exact ⟨hp.1, fun answer => ih answer (hp.2 answer)⟩

theorem makes_ask {c : Call} (h : P c) : (ask c).Makes P := ⟨h, fun _ => trivial⟩

theorem makes_exceptBind {a : ExceptT ε Plan α} {f : α → ExceptT ε Plan β}
    (ha : (ExceptT.run a).Makes P) (hf : ∀ x, (ExceptT.run (f x)).Makes P) :
    (ExceptT.run (a >>= f)).Makes P := by
  apply makes_bind ha
  intro result
  cases result with
  | ok x => exact hf x
  | error _ => trivial

theorem makes_lift {p : Plan α} (h : p.Makes P) :
    (ExceptT.run (ExceptT.lift p : ExceptT ε Plan α)).Makes P :=
  makes_bind h fun _ => trivial

theorem makes_ofExcept {f : ε → Failure} {p : Plan (Except ε α)} (h : p.Makes P) :
    (ExceptT.run (Action.ofExcept f p)).Makes P :=
  makes_bind h fun _ => trivial

theorem store_of_makes {p : Plan α} (h : p.Makes Call.Reads) (d : Desk) :
    (p.run d).2.store = d.store := by
  induction p generalizing d with
  | done _ => rfl
  | call c next ih => rw [run_call, ih _ (h.2 _), d.store_of_reads h.1]

theorem notices_run {p : Plan α} {d : Desk} (h : d.store.notices.isSome) :
    (p.run d).2.store.notices.isSome := by
  induction p generalizing d with
  | done _ => exact h
  | call c next ih => exact ih _ (Store.notices_of_effect (d.effect_perform c) h)

/-- The stores after the calls of a plan that runs alone, in their order. -/
def stores : Plan α → Desk → List Store
  | done _, _ => []
  | call c next, d =>
      (d.perform c).2.store :: (next (d.perform c).1).stores (d.perform c).2

end Plan
end Noticeboard
