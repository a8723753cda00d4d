import Noticeboard.Command.Arguments
import Noticeboard.Command.Outcome
import Noticeboard.Service.Desk
import Noticeboard.Store.Fault

/-!
The command that registers a board, so that notices can link to it.
-/

namespace Noticeboard.Command

/-- Registers a board under the identifier that is named, after the store has been given its
tables. A command line that is not understood leaves everything as it is. -/
def createBoard (arguments : List String) (d : Desk) : Outcome × Desk :=
  match read "--title" (fun _ => true) arguments with
  | .help => (.help, d)
  | .usage => (.usage, d)
  | .run id title =>
      match (Action.insertBoard id (title.getD "")).run { d with store := d.store.initialized } with
      | (.ok board, d) => (.printed ("Board '" ++ board.id ++ "' created."), d)
      | (.error failure, d) => (.stopped ("Could not create the board: " ++ failure.message), d)

end Noticeboard.Command
