import Noticeboard.Settings.Basic
import Noticeboard.Store.Basic
import Noticeboard.Text.Quoted

/-!
Why the service does not do what it is asked. A failure is a cause; most causes fall into a
category that callers can act on, and categories form a tree.
-/

namespace Noticeboard

/-! ## Categories -/

/-- The categories of failures. `any` is the root of the tree. -/
inductive Category
  | any
  | invalid
  | unreadable
  | invalidHint
  | missing
  | boardMissing
  | denied
  | storage
  deriving DecidableEq, Repr

namespace Category

def all : List Category :=
  [.any, .invalid, .unreadable, .invalidHint, .missing, .boardMissing, .denied, .storage]

def parent? : Category → Option Category
  | .any => none
  | .invalid | .missing | .denied | .storage => some .any
  | .unreadable | .invalidHint => some .invalid
  | .boardMissing => some .missing

/-- A category and all that it is part of. The tree has three levels. -/
def lineage (c : Category) : List Category :=
  c :: match c.parent? with
    | none => []
    | some p => p :: p.parent?.toList

/-- Whether every failure of category `c` also counts as one of category `d`. -/
def isA (c d : Category) : Bool := c.lineage.contains d

end Category

/-! ## Causes -/

/-- A value that a caller has to give. -/
inductive Need
  | recipient
  | message
  | sender
  | notice
  | board
  | card
  | adder
  | assigner
  | commenter
  deriving DecidableEq, Repr

def Need.name : Need → String
  | .recipient => "userID"
  | .message => "message"
  | .sender => "from"
  | .notice => "notificationID"
  | .board => "boardID"
  | .card => "cardID"
  | .adder => "addedBy"
  | .assigner => "assignedBy"
  | .commenter => "commentedBy"

inductive Failure
  /-- A value is absent or empty. -/
  | needed (need : Need)
  /-- One or more of several values are absent or empty. -/
  | allNeeded (needs : List Need)
  | momentAbsent
  | momentOutOfRange
  /-- A parameter does not have the form of an integer. -/
  | notInteger (parameter raw : String)
  | outOfRange (parameter raw : String)
  /-- A parameter has more digits than are read. -/
  | tooManyDigits
  | noSuchNotice
  | noSuchBoard (board : String)
  /-- The notice belongs to somebody else. -/
  | notOwner
  /-- The name in a request is garbled, so the store cannot be asked for it. -/
  | garbled
  | storage (task : Task)
  | settings (failure : Settings.Failure)
  deriving DecidableEq, Repr

namespace Failure

def boardMessage (board : String) : String := "board not found: " ++ board

def message : Failure → String
  | needed need => need.name ++ " is required"
  | allNeeded needs => ", ".intercalate (needs.map Need.name) ++ " are required"
  | momentAbsent => "createAt is not an integer"
  | momentOutOfRange => "createAt is out of range"
  | notInteger parameter raw => parameter ++ " must be an integer, got " ++ Text.quoted raw
  | outOfRange parameter raw => parameter ++ " is out of range, got " ++ Text.quoted raw
  | tooManyDigits => "too many digits"
  | noSuchNotice => "notification not found"
  | noSuchBoard board => boardMessage board
  | notOwner => "user doesn't have permission to this notification"
  | garbled => "the name is not a text"
  | storage task => task.message
  | settings _ => "invalid settings"

/-- The category of a failure. The others are faults of the program that calls or of the way
the service is set up, and no caller is expected to act on them. -/
def category? : Failure → Option Category
  | needed _ | allNeeded _ | momentOutOfRange | notInteger _ _ | outOfRange _ _ => some .invalid
  | noSuchNotice => some .missing
  | noSuchBoard _ => some .boardMissing
  | notOwner => some .denied
  | storage _ => some .storage
  | momentAbsent | tooManyDigits | garbled | settings _ => none

end Failure

end Noticeboard
