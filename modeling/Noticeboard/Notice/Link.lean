/-!
Links to boards and cards.
-/

namespace Noticeboard

/-- The page of a board, or of a card on it when there is one. -/
def boardLink (board card : String) : String :=
  if card = "" then "/boards/" ++ board else "/boards/" ++ board ++ "/" ++ card

end Noticeboard
