import Noticeboard.Http.Message

/-!
Routes. Each endpoint has a method and a target, which is either one fixed path or the paths
with an identifier in one place. An identifier is any text without a slash. The first endpoint
whose method and target fit serves a request, so the fixed paths are never read as
identifiers by the endpoints behind them.
-/

namespace Noticeboard.Http

/-- The paths of an endpoint. -/
inductive Target
  | fixed (path : String)
  /-- The paths of notices, with some text after the identifier. -/
  | notice (after : String)
  deriving DecidableEq, Repr

inductive Endpoint
  | list
  | create
  | countUnread
  | markAllRead
  | find
  | markRead
  | delete
  deriving DecidableEq, Repr

namespace Target

/-- Whether `cs` is the given text. One line feed at the end is overlooked. -/
def isText (text : String) (cs : List Char) : Bool :=
  cs = text.toList || cs = text.toList ++ ['\n']

def root : String := "/notifications"

def after? : List Char → List Char → Option (List Char)
  | [], cs => some cs
  | _ :: _, [] => none
  | s :: start, c :: cs => if s = c then after? start cs else none

/-- The identifier in a path that belongs to the target; a fixed path has an empty one. -/
def identifier? (t : Target) (path : List Char) : Option String :=
  match t with
  | fixed text => if isText text path then some "" else none
  | notice after =>
      match after? (root ++ "/").toList path with
      | none => none
      | some cs =>
          let (id, rest) := cs.span (· ≠ '/')
          if id.isEmpty || !(isText after rest) then none else some (String.ofList id)

end Target

namespace Endpoint

def all : List Endpoint := [list, create, countUnread, markAllRead, find, markRead, delete]

def verb : Endpoint → String
  | list | countUnread | find => "GET"
  | create => "POST"
  | markAllRead | markRead => "PUT"
  | delete => "DELETE"

def target : Endpoint → Target
  | list | create => .fixed Target.root
  | countUnread => .fixed (Target.root ++ "/unread_count")
  | markAllRead => .fixed (Target.root ++ "/mark_all_as_read")
  | find | delete => .notice ""
  | markRead => .notice "/read"

end Endpoint

/-- Where a request belongs. -/
inductive Routing
  | served (endpoint : Endpoint) (id : String)
  /-- The path is known, but not for this method; the first endpoint of the path has another. -/
  | otherVerb (allowed : String)
  | unknown
  deriving DecidableEq, Repr

/-- The endpoints that a path belongs to, with the identifier that each sees in it. -/
def endpointsAt (path : List Char) : List (Endpoint × String) :=
  Endpoint.all.filterMap fun e => (e.target.identifier? path).map (e, ·)

def route (verb : String) (path : List Char) : Routing :=
  match (endpointsAt path).find? (·.1.verb = verb) with
  | some (e, id) => .served e id
  | none =>
      match endpointsAt path with
      | (e, _) :: _ => .otherVerb e.verb
      | [] => .unknown

end Noticeboard.Http
