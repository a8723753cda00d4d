import Noticeboard.Store.Basic

/-!
Damage to a store and its repair. What is damaged already cannot be damaged once more in the
same way, and nothing can be wrong with a table that is lost.
-/

namespace Noticeboard

namespace Flaw

def updates (ids : List String) : Flaw where
  name := "updates"
  breaks
    | .updateNotice id => ids.contains id
    | _ => false

def inserts : Flaw where
  name := "inserts"
  breaks := (· = .insertNotice)

def deletes : Flaw where
  name := "deletes"
  breaks := (· = .deleteNotice)

end Flaw

namespace Store

/-- Loses the notices, and with them whatever was wrong with their table. -/
def loseNotices? (s : Store) : Option Store :=
  if s.notices.isSome then some { s with notices := none, flaws := [] } else none

def loseBoards? (s : Store) : Option Store :=
  if s.boards.isSome then some { s with boards := none } else none

def harm? (s : Store) (flaw : Flaw) : Option Store :=
  if s.notices.isSome && !(s.flaws.any (·.name = flaw.name)) then
    some { s with flaws := flaw :: s.flaws }
  else none

/-- The store with its tables in place: a lost one comes back empty. -/
def initialized (s : Store) : Store :=
  { s with notices := some (s.notices.getD .empty), boards := some (s.boards.getD .empty) }

/-- The store with its tables in place and nothing wrong with them. -/
def healed (s : Store) : Store := { s.initialized with flaws := [] }

end Store

end Noticeboard
