import Noticeboard.Service.Plan

/-!
Carrying out plans. A `Desk` is the world in which they run: a store, a clock that stands
still, a supply of random bits, the settings as they load now, and the log. A plan that runs
alone runs all its calls in a row.
-/

namespace Noticeboard

structure Desk where
  store : Store
  /-- Milliseconds after the epoch. -/
  clock : Int
  /-- The random bits of each draw, the first of which has number 0. -/
  supply : Nat → Draw
  /-- How many draws there have been. -/
  drawn : Nat
  settings : Except Settings.Failure Settings
  /-- The log, oldest entry first. -/
  log : List Log.Entry

namespace Desk

variable {α : Type}

def noted (d : Desk) (entry : Log.Entry) : Desk := { d with log := d.log ++ [entry] }

/-- The answer of an operation that only reads the store; a failure is logged. -/
def reading (d : Desk) (entry : Task → Log.Entry) : Except Task α → Except Task α × Desk
  | .ok a => (.ok a, d)
  | .error task => (.error task, d.noted (entry task))

/-- The answer of an operation that leaves a new store; a failure leaves the old one and is
logged. -/
def writing (d : Desk) (entry : Task → Log.Entry) :
    Except Task (α × Store) → Except Task α × Desk
  | .ok (a, store) => (.ok a, { d with store })
  | .error task => (.error task, d.noted (entry task))

/-- The answer of an operation with the store that it leaves; a failure is logged. -/
def saving (d : Desk) (entry : Task → Log.Entry) :
    Except Task α × Store → Except Task α × Desk
  | (.ok a, store) => (.ok a, { d with store })
  | (.error task, store) => (.error task, { d with store }.noted (entry task))

def perform (d : Desk) : (c : Call) → c.Answer × Desk
  | .draw => (d.supply d.drawn, { d with drawn := d.drawn + 1 })
  | .now => (d.clock, d)
  | .settings => (d.settings, d)
  | .note entry => ((), d.noted entry)
  | .reach task => d.reading .undone (d.store.reach task)
  | .insert draft => d.saving .undone (d.store.save draft)
  | .list recipient limit offset =>
      d.reading .undone (d.store.list recipient limit offset)
  | .countUnread recipient => d.reading .undone (d.store.countUnread recipient)
  | .find id => d.reading .undone (d.store.find id)
  | .setRead id read => d.writing .undone ((d.store.setRead id read).map ((), ·))
  | .delete id => d.writing .undone ((d.store.delete id).map ((), ·))
  | .deleteFor recipient => d.writing .undone ((d.store.deleteFor recipient).map ((), ·))
  | .findBoard id => d.reading (.boardUndone · id) (d.store.findBoard id)
  | .insertBoard id title =>
      d.saving (.boardUndone · id) (d.store.saveBoard id title)

end Desk

namespace Plan

variable {α β : Type}

/-- The result of a plan that runs alone, and the desk after it. -/
def run : Plan α → Desk → α × Desk
  | done a, d => (a, d)
  | call c next, d => (next (d.perform c).1).run (d.perform c).2

@[simp] theorem run_done (a : α) (d : Desk) : (done a).run d = (a, d) := rfl

@[simp] theorem run_call (c : Call) (next : c.Answer → Plan α) (d : Desk) :
    (call c next).run d = (next (d.perform c).1).run (d.perform c).2 := rfl

theorem run_bind (p : Plan α) (f : α → Plan β) (d : Desk) :
    (p >>= f).run d = (f (p.run d).1).run (p.run d).2 := by
  induction p generalizing d with
  | done a => rfl
  | call c next ih => exact ih _ _

end Plan

namespace Action

variable {α β : Type}

/-- The result of an action that runs alone, and the desk after it. -/
def run (a : Action α) (d : Desk) : Except Failure α × Desk := Plan.run (ExceptT.run a) d

@[simp] theorem run_pure (a : α) (d : Desk) : (pure a : Action α).run d = (.ok a, d) := rfl

@[simp] theorem run_throw (f : Failure) (d : Desk) :
    (throw f : Action α).run d = (.error f, d) := rfl

theorem run_bind (a : Action α) (f : α → Action β) (d : Desk) :
    (a >>= f).run d =
      match a.run d with
      | (.ok x, d) => (f x).run d
      | (.error failure, d) => (.error failure, d) := by
  change Plan.run (ExceptT.run a >>= ExceptT.bindCont f) d = _
  rw [Plan.run_bind]
  unfold run
  rcases Plan.run (ExceptT.run a) d with ⟨result, d⟩
  cases result <;> rfl

end Action

end Noticeboard
