import Noticeboard.Store.Basic

/-!
The log: what the service reports while it works, and how gravely.
-/

namespace Noticeboard.Log

inductive Level
  | info
  | warning
  | error
  deriving DecidableEq, Repr

def Level.name : Level → String
  | .info => "INFO"
  | .warning => "WARNING"
  | .error => "ERROR"

inductive Entry
  /-- The store failed at a task with notices. -/
  | undone (task : Task)
  /-- The store failed at a task with one board. -/
  | boardUndone (task : Task) (board : Option String)
  /-- One of many notices could not be marked as read. -/
  | notMarked
  | marked (succeeded attempted : Nat) (recipient : String)
  | created (notice recipient : String)
  | notCreated (recipient : String)
  | deleted (notice user : String)
  | notDeleted (notice user : String)
  deriving DecidableEq, Repr

namespace Entry

def level : Entry → Level
  | undone _ | boardUndone _ _ | notMarked => .error
  | marked _ _ _ => .warning
  | created _ _ | notCreated _ | deleted _ _ | notDeleted _ _ => .info

def message : Entry → String
  | undone task => task.message
  | boardUndone task board => task.message ++ " " ++ board.getD "None"
  | notMarked => "Error marking notification as read"
  | marked succeeded attempted recipient =>
      s!"Marked {succeeded} of {attempted} notifications as read for user {recipient}"
  | created notice recipient => s!"createNotification {notice} for user {recipient}"
  | notCreated recipient => s!"createNotification failed for user {recipient}"
  | deleted notice user => s!"deleteNotification {notice} for user {user}"
  | notDeleted notice user => s!"deleteNotification {notice} failed for user {user}"

end Entry

end Noticeboard.Log
