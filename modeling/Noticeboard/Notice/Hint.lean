import Noticeboard.Calendar.Moment
import Noticeboard.Notice.Basic

/-!
Hints: signals that a block of a board has changed and that its subscribers should hear of
it at a later moment.
-/

namespace Noticeboard

/-- The kinds of blocks that can have subscribers. -/
inductive BlockType
  | board
  | view
  | card
  | text
  | comment
  | image
  | checkbox
  | divider
  deriving DecidableEq, Repr

namespace BlockType

def all : List BlockType :=
  [.board, .view, .card, .text, .comment, .image, .checkbox, .divider]

def name : BlockType → String
  | .board => "board"
  | .view => "view"
  | .card => "card"
  | .text => "text"
  | .comment => "comment"
  | .image => "image"
  | .checkbox => "checkbox"
  | .divider => "divider"

def ofName? (s : String) : Option BlockType := all.find? (·.name = s)

end BlockType

/-- The kind of block is free text, so that a hint can carry a kind not known here. Moments
are milliseconds after the epoch. -/
structure Hint where
  blockType : Option String
  block : Option String
  modifiedBy : Option String
  createdAt : Int
  notifyAt : Int
  deriving DecidableEq, Repr

namespace Hint

/-- A required field that a hint lacks. -/
inductive Fault
  | block
  | blockType
  | modifiedBy
  deriving DecidableEq, Repr

def Fault.message : Fault → String
  | .block => "missing block id"
  | .blockType => "missing block type"
  | .modifiedBy => "missing modified_by id"

def fault? (h : Hint) : Option Fault :=
  match filled? h.block, filled? h.blockType, filled? h.modifiedBy with
  | none, _, _ => some .block
  | _, none, _ => some .blockType
  | _, _, none => some .modifiedBy
  | _, _, _ => none

/-- A hint as log records show it: its moments as stamps. -/
structure Shown where
  blockType : Option String
  block : Option String
  modifiedBy : Option String
  createdAt : String
  notifyAt : String
  deriving DecidableEq, Repr

def shown (zoneName : String) (h : Hint) (database : Calendar.Zone.Database := .bundled) :
    Except Calendar.Failure Shown :=
  match Calendar.stampIn zoneName h.createdAt database,
    Calendar.stampIn zoneName h.notifyAt database with
  | .ok createdAt, .ok notifyAt =>
      .ok { blockType := h.blockType, block := h.block, modifiedBy := h.modifiedBy
            createdAt, notifyAt }
  | .error failure, _ | _, .error failure => .error failure

end Hint

end Noticeboard
