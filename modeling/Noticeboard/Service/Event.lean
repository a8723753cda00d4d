import Noticeboard.Service.Create

/-!
Events on boards that make notices: somebody is added to a board, assigned to a card, or
hears of a comment on a card. Nobody is told of what they did themselves.
-/

namespace Noticeboard.Service

/-- Somebody who acts on a board. -/
structure Person where
  id : String
  name : String
  deriving DecidableEq, Repr

def tells (actor : Person) (recipient : String) : Bool := actor.id ≠ recipient

def notifyAdded (actor : Option Person) (recipient board : Option String) :
    Action (Option Notice) :=
  match filled? recipient, filled? board, actor with
  | some r, some b, some a =>
      if tells a r then do
        match ← Action.findBoard b with
        | none => throw (.noSuchBoard b)
        | some found =>
            let message := a.name ++ " added you to the board \"" ++ found.title ++ "\""
            return some (← createNew r message a.name b none)
      else pure none
  | _, _, _ => throw (.allNeeded [.recipient, .board, .adder])

/-- What can be done to a card. -/
inductive CardEvent
  | assigned
  | commented
  deriving DecidableEq, Repr

def CardEvent.actor : CardEvent → Need
  | .assigned => .assigner
  | .commented => .commenter

/-- What the recipient reads between the person's name and the card's title. -/
def CardEvent.phrase : CardEvent → String
  | .assigned => " assigned you to the card "
  | .commented => " commented on the card "

def notifyCard (event : CardEvent) (actor : Option Person)
    (recipient board card : Option String) (title : String) : Action (Option Notice) :=
  match filled? recipient, filled? board, filled? card, actor with
  | some r, some b, some c, some a =>
      if tells a r then do
        let message := a.name ++ event.phrase ++ "\"" ++ title ++ "\""
        return some (← createNew r message a.name b c)
      else pure none
  | _, _, _, _ => throw (.allNeeded [.recipient, .board, .card, event.actor])

end Noticeboard.Service
