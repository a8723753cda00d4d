import Noticeboard.Proofs.Service.Along
import Noticeboard.Service.Create

/-!
Two ways to create a notice: to give what it is to say, or to store a draft that says no more than
that. They are the same plan, so that they agree on every desk and also amid the calls of others.
-/

namespace Noticeboard

instance : LawfulMonad Plan :=
  LawfulMonad.mk' Plan
    (fun p => by
      induction p with
      | done _ => rfl
      | call c next ih => exact congrArg (Plan.call c) (funext ih))
    (fun _ _ => rfl)
    Plan.bind_assoc

namespace Service

/-- The draft of an unread notice that leaves its identifier, its creation time and its link to the
service. -/
def bareDraft (recipient message sender board card : Option String) : Draft where
  id := ""
  recipient := recipient
  message := message
  sender := sender
  createdAt := some 0
  read := false
  link := ""
  board := board
  card := card

theorem momentOf_zero {draft : Draft} (h : draft.createdAt = some 0) : momentOf draft = pure 0 := by
  rw [momentOf, h]
  rfl

theorem identify_empty : identify "" = newId := rfl

theorem linkFor_empty (board card : Option String) :
    linkFor "" board card = resolveLink board card := rfl

/-- What a bare draft leaves to the service is drawn, read off the clock and looked up in the order
in which a new notice gets it. -/
theorem completed_bareDraft (recipient message sender board card : Option String) :
    completed (bareDraft recipient message sender board card) = (do
      let recipient ← required .recipient recipient
      let message ← required .message message
      let sender ← required .sender sender
      let id ← newId
      let createdAt ← Action.now
      let link ← resolveLink board card
      return { id, recipient, message, sender, createdAt, read := false, link, board, card }) := by
  simp only [completed, bareDraft, momentOf_zero, identify_empty, linkFor_empty, pure_bind,
    Int.lt_irrefl, ↓reduceIte]

theorem create_bareDraft (recipient message sender board card : Option String) :
    create (bareDraft recipient message sender board card) =
      createNew recipient message sender board card := by
  simp only [create, completed_bareDraft, createNew, bind_assoc, pure_bind]

/-- Whatever is wrong with the store and whatever the clock shows, both ways to create a notice end
with the same notice or the same failure, and leave the same desk: the same rows, as many
identifiers drawn, and the same entries in the log. -/
theorem creations_agree (recipient message sender board card : Option String) (d : Desk) :
    (createNew recipient message sender board card).run d =
      (create (bareDraft recipient message sender board card)).run d := by
  rw [create_bareDraft]

/-- With no boards to look the link up in, both fail alike after one identifier has been drawn. -/
example :
    let d : Desk := ⟨⟨some .empty, none, []⟩, -4, fun _ => 0, 0, .error .originsNotJson, []⟩
    ((createNew "ann" "hello" "bob" "b" none).run d).1 = .error (.storage .findBoard) ∧
      ((createNew "ann" "hello" "bob" "b" none).run d).2.drawn = 1 := by
  decide

end Service
end Noticeboard
