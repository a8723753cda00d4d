import Noticeboard.Service.Create

/-!
A recipient's notices: listing, counting and finding them, marking them as read and deleting
them.
-/

namespace Noticeboard.Service

/-- The limit that is given, or else the one that the settings hold. -/
def limitOr (limit : Option Int) (setting : Settings → Count) : Action Int :=
  match limit with
  | some n => pure n
  | none => do
      let settings ← Action.settings
      return (setting settings).val

/-- A page of a recipient's listing, as long as the settings say when no limit is given. -/
def list (recipient : Option String) (limit : Option Int) (offset : Int) :
    Action (List Notice) := do
  let recipient ← required .recipient recipient
  let limit ← limitOr limit Settings.pageSize
  Action.list recipient limit offset

def countUnread (recipient : Option String) : Action Nat := do
  Action.countUnread (← required .recipient recipient)

def find (id : Option String) : Action (Option Notice) := do
  Action.find (← required .notice id)

def markRead (id : Option String) : Action Unit := do
  Action.setRead (← required .notice id) (some true)

def delete (id : Option String) : Action Unit := do
  Action.delete (← required .notice id)

def deleteFor (recipient : Option String) : Action Unit := do
  Action.deleteFor (← required .recipient recipient)

/-! ## Marking all -/

/-- What came of marking many notices as read. -/
structure Marking where
  attempted : Nat
  /-- The identifiers of the notices that could not be marked, in the order of the listing. -/
  failed : List String
  deriving DecidableEq, Repr

def Marking.succeeded (m : Marking) : Nat := m.attempted - m.failed.length

/-- Marks notices one by one and goes on after a failure. The result holds the identifiers of
those that failed. -/
def markEach : List Notice → Plan (List String)
  | [] => pure []
  | n :: rest => do
      match ← Plan.ask (.setRead n.id (some true)) with
      | .ok () => markEach rest
      | .error _ => do
          Plan.ask (.note .notMarked)
          return n.id :: (← markEach rest)

/-- Marks the unread notices among the newest ones of a recipient, of which as many are looked
at as the settings say when no limit is given. -/
def markAllRead (recipient : Option String) (limit : Option Int) : Action Marking := do
  let recipient ← required .recipient recipient
  let limit ← limitOr limit Settings.markAllLimit
  let unread := (← Action.list recipient limit 0).filter (!·.read)
  let marking : Marking := ⟨unread.length, ← ExceptT.lift (markEach unread)⟩
  if !marking.failed.isEmpty then
    Action.note (.marked marking.succeeded marking.attempted recipient)
  return marking

end Noticeboard.Service
