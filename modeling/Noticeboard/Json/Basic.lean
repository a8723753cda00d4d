import Noticeboard.Number.Binary64

/-!
JSON values. An object keeps its members as they were sent, in order and with repeated
names; the value of a name is the last one given to it. Whole numbers and reals are kept
apart, as they are in the text: `1.0` is not whole.
-/

namespace Noticeboard

inductive Json
  | null
  | bool (value : Bool)
  | int (value : Int)
  | real (value : Binary64)
  | str (value : String)
  /-- A string with a surrogate that has no partner, which is no text; it is mended with
  U+FFFD. -/
  | garbled (mended : String)
  | arr (elements : List Json)
  | obj (members : List (String × Json))
  deriving Repr, Inhabited

namespace Json

abbrev Members := List (String × Json)

namespace Members

def last? (name : String) : Members → Option Json
  | [] => none
  | (key, value) :: rest =>
      match last? name rest with
      | some later => some later
      | none => if key = name then some value else none

/-- `members` with `value` for `name`: in the place of its first value, or at the end. -/
def put (name : String) (value : Json) : Members → Members
  | [] => [(name, value)]
  | (key, old) :: rest =>
      if key = name then (name, value) :: rest else (key, old) :: put name value rest

/-- Each name once, in the order of first mention, with its last value. -/
def settled (members : Members) : Members :=
  members.foldl (fun ms m => put m.1 m.2 ms) []

end Members

mutual

def settled : Json → Json
  | arr xs => arr (settledElements xs)
  | obj ms => obj (Members.settled (settledMembers ms))
  | x => x

def settledElements : List Json → List Json
  | [] => []
  | x :: xs => settled x :: settledElements xs

def settledMembers : List (String × Json) → List (String × Json)
  | [] => []
  | (name, x) :: ms => (name, settled x) :: settledMembers ms

end

def get? (name : String) : Json → Option Json
  | obj members => Members.last? name members
  | _ => none

end Json

end Noticeboard
