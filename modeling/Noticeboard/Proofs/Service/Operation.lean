import Noticeboard.Http.App
import Noticeboard.Proofs.Service.Effect
import Noticeboard.Service.Event

/-!
Everything that can be asked of the service, and runs in which one thing is asked after the
other. A run is told by its moments: the store at first, after each call, and after each
operation, whether the operation succeeds or fails.
-/

namespace Noticeboard
namespace Service

/-- Something that is asked of the service: one of its actions, a new board, or the answer to a
request over HTTP. -/
inductive Operation
  | create (draft : Draft)
  | createNew (recipient message sender board card : Option String)
  | notifyAdded (actor : Option Person) (recipient board : Option String)
  | notifyCard (event : CardEvent) (actor : Option Person)
      (recipient board card : Option String) (title : String)
  | list (recipient : Option String) (limit : Option Int) (offset : Int)
  | countUnread (recipient : Option String)
  | find (id : Option String)
  | markRead (id : Option String)
  | markAllRead (recipient : Option String) (limit : Option Int)
  | delete (id : Option String)
  | deleteFor (recipient : Option String)
  | insertBoard (id title : Option String)
  | respond (app : Http.App) (request : Http.Request)

namespace Operation

abbrev Answer : Operation → Type
  | create _ | createNew _ _ _ _ _ => Except Failure Notice
  | notifyAdded _ _ _ | notifyCard _ _ _ _ _ _ => Except Failure (Option Notice)
  | list _ _ _ => Except Failure (List Notice)
  | countUnread _ => Except Failure Nat
  | find _ => Except Failure (Option Notice)
  | markRead _ | delete _ | deleteFor _ => Except Failure Unit
  | markAllRead _ _ => Except Failure Marking
  | insertBoard _ _ => Except Failure Board
  | respond _ _ => Http.Response

def plan : (o : Operation) → Plan o.Answer
  | create draft => ExceptT.run (Service.create draft)
  | createNew recipient message sender board card =>
      ExceptT.run (Service.createNew recipient message sender board card)
  | notifyAdded actor recipient board => ExceptT.run (Service.notifyAdded actor recipient board)
  | notifyCard event actor recipient board card title =>
      ExceptT.run (Service.notifyCard event actor recipient board card title)
  | list recipient limit offset => ExceptT.run (Service.list recipient limit offset)
  | countUnread recipient => ExceptT.run (Service.countUnread recipient)
  | find id => ExceptT.run (Service.find id)
  | markRead id => ExceptT.run (Service.markRead id)
  | markAllRead recipient limit => ExceptT.run (Service.markAllRead recipient limit)
  | delete id => ExceptT.run (Service.delete id)
  | deleteFor recipient => ExceptT.run (Service.deleteFor recipient)
  | insertBoard id title => ExceptT.run (Action.insertBoard id title)
  | respond app request => app.respond request

end Operation

/-- One operation and the circumstances in which it runs: the time, the random bits, the
settings, and what is wrong with the store for as long as it runs. -/
structure Turn where
  operation : Operation
  clock : Int
  supply : Nat → Draw
  settings : Except Settings.Failure Settings
  flaws : List Flaw

namespace Turn

def desk (t : Turn) (s : Store) : Desk where
  store := { s with flaws := t.flaws }
  clock := t.clock
  supply := t.supply
  drawn := 0
  settings := t.settings
  log := []

def after (t : Turn) (s : Store) : Store := (t.operation.plan.run (t.desk s)).2.store

/-- Whether what is stored in a turn can be read back. -/
def ReadsBack (t : Turn) : Prop := ∀ s, (t.desk s).store.ReadsBack

end Turn

/-- A moment of a run. It is idle if no operation is under way. -/
structure Moment where
  store : Store
  idle : Bool

def Turn.moments (t : Turn) (s : Store) : List Moment :=
  (t.operation.plan.stores (t.desk s)).map (⟨·, false⟩)

def moments : List Turn → Store → List Moment
  | [], s => [⟨s, true⟩]
  | t :: rest, s => ⟨s, true⟩ :: (t.moments s ++ moments rest (t.after s))

end Service
end Noticeboard
