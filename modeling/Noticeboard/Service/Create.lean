import Noticeboard.Notice.Link
import Noticeboard.Service.Plan

/-!
Creating notices. What the caller must give is checked first, before anything is asked of the
world. An identifier that is missing is drawn, a creation time that is missing is now, and a
notice on a board that brings no link of its own gets the link of that board, if the board
exists.
-/

namespace Noticeboard.Service

def required (need : Need) (value : Option String) : Action String :=
  match filled? value with
  | some s => pure s
  | none => throw (.needed need)

def newId : Action String := do
  return Id.ofDraw Id.noticeTag (← Action.draw)

/-- The identifier a draft brings along, or else a fresh one. -/
def identify (id : Option String) : Action String :=
  match filled? id with
  | some s => pure s
  | none => newId

/-- The link for a board and card; it is empty when there is no such board. -/
def resolveLink (board card : Option String) : Action String :=
  match filled? board with
  | none => pure ""
  | some b => do
      match ← Action.findBoard (some b) with
      | none => return ""
      | some _ => return boardLink b (card.getD "")

/-- The link a draft brings along, or else the one for its board and card. -/
def linkFor (link board card : Option String) : Action String :=
  match filled? link with
  | some s => pure s
  | none => resolveLink board card

/-- Stores a draft as it is, but for an identifier that is missing. -/
def save (d : Draft) : Action Notice := do
  let id ← identify d.id
  Action.insert { d with id := some id }

/-- The creation time of a draft, which must fit its column. -/
def momentOf (d : Draft) : Action Int :=
  match d.createdAt with
  | none => throw .momentAbsent
  | some n => if Int64.fits n then pure n else throw .momentOutOfRange

/-- A draft with what it leaves to the service filled in. -/
def completed (d : Draft) : Action Draft := do
  let recipient ← required .recipient d.recipient
  let message ← required .message d.message
  let sender ← required .sender d.sender
  let moment ← momentOf d
  let id ← identify d.id
  let createdAt ← if 0 < moment then pure moment else Action.now
  let link ← linkFor d.link d.board d.card
  return { d with id, recipient, message, sender, createdAt, link }

/-- Stores a draft and fills in what it leaves to the service. -/
def create (d : Draft) : Action Notice := do
  Action.insert (← completed d)

def createNew (recipient message sender board card : Option String) : Action Notice := do
  let recipient ← required .recipient recipient
  let message ← required .message message
  let sender ← required .sender sender
  let id ← newId
  let createdAt ← Action.now
  let link ← resolveLink board card
  Action.insert
    { id, recipient, message, sender, createdAt, read := false, link, board, card }

end Noticeboard.Service
