import Noticeboard.Notice.Id
import Noticeboard.Service.Failure
import Noticeboard.Service.Log

/-!
Plans. What the service does is described as a tree: a plan is either done, or it makes one
call to the world outside and goes on with the answer. Between two calls of one plan the
calls of others may happen. An `Action` is a plan that may end in a failure.
-/

namespace Noticeboard

/-- What a plan asks of the world: fresh random bits, the time, the settings, a note in the
log, and the operations of the store. -/
inductive Call
  | draw
  | now
  | settings
  | note (entry : Log.Entry)
  | reach (task : Task)
  | insert (draft : Draft)
  | list (recipient : Option String) (limit offset : Int)
  | countUnread (recipient : Option String)
  | find (id : Option String)
  | setRead (id : Option String) (read : Option Bool)
  | delete (id : Option String)
  | deleteFor (recipient : Option String)
  | findBoard (id : Option String)
  | insertBoard (id title : Option String)
  deriving DecidableEq, Repr

/-- What is answered to a call. The store's operations may fail. -/
abbrev Call.Answer : Call → Type
  | .draw => Draw
  | .now => Int
  | .settings => Except Settings.Failure Settings
  | .note _ => Unit
  | .reach _ => Except Task Unit
  | .insert _ => Except Task Notice
  | .list _ _ _ => Except Task (List Notice)
  | .countUnread _ => Except Task Nat
  | .find _ => Except Task (Option Notice)
  | .setRead _ _ => Except Task Unit
  | .delete _ => Except Task Unit
  | .deleteFor _ => Except Task Unit
  | .findBoard _ => Except Task (Option Board)
  | .insertBoard _ _ => Except Task Board

inductive Plan (α : Type) : Type
  | done (result : α)
  | call (c : Call) (next : c.Answer → Plan α)

namespace Plan

variable {α β : Type}

protected def bind : Plan α → (α → Plan β) → Plan β
  | done a, f => f a
  | call c next, f => call c fun answer => (next answer).bind f

instance : Monad Plan where
  pure := done
  bind := Plan.bind

@[simp] theorem pure_eq (a : α) : (pure a : Plan α) = done a := rfl

@[simp] theorem done_bind (a : α) (f : α → Plan β) : done a >>= f = f a := rfl

@[simp] theorem call_bind (c : Call) (next : c.Answer → Plan α) (f : α → Plan β) :
    call c next >>= f = call c fun answer => next answer >>= f := rfl

def ask (c : Call) : Plan c.Answer := call c done

end Plan

abbrev Action (α : Type) := ExceptT Failure Plan α

namespace Action

variable {α : Type}

/-- The action that fails where `p` does, for the reason that `f` makes of it. -/
def ofExcept {ε : Type} (f : ε → Failure) (p : Plan (Except ε α)) : Action α :=
  ExceptT.mk (p >>= fun result => pure (result.mapError f))

def ofStore (p : Plan (Except Task α)) : Action α := ofExcept .storage p

def draw : Action Draw := ExceptT.lift (.ask .draw)

def now : Action Int := ExceptT.lift (.ask .now)

def settings : Action Settings := ofExcept .settings (.ask .settings)

def note (entry : Log.Entry) : Action Unit := ExceptT.lift (.ask (.note entry))

def reach (task : Task) : Action Unit := ofStore (.ask (.reach task))

def insert (draft : Draft) : Action Notice := ofStore (.ask (.insert draft))

def list (recipient : Option String) (limit offset : Int) : Action (List Notice) :=
  ofStore (.ask (.list recipient limit offset))

def countUnread (recipient : Option String) : Action Nat :=
  ofStore (.ask (.countUnread recipient))

def find (id : Option String) : Action (Option Notice) := ofStore (.ask (.find id))

def setRead (id : Option String) (read : Option Bool) : Action Unit :=
  ofStore (.ask (.setRead id read))

def delete (id : Option String) : Action Unit := ofStore (.ask (.delete id))

def deleteFor (recipient : Option String) : Action Unit :=
  ofStore (.ask (.deleteFor recipient))

def findBoard (id : Option String) : Action (Option Board) := ofStore (.ask (.findBoard id))

def insertBoard (id title : Option String) : Action Board :=
  ofStore (.ask (.insertBoard id title))

end Action

end Noticeboard
