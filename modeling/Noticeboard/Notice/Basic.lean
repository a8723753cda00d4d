/-!
Notices and the boards they speak of. A `Notice` is one event that asks for its recipient's
attention; a `Draft` is a notice that somebody wants stored, in which every field may still
be absent.
-/

namespace Noticeboard

structure Notice where
  id : String
  recipient : String
  message : String
  sender : String
  createdAt : Int
  read : Bool
  link : String
  board : String
  card : String
  deriving DecidableEq, Repr, Inhabited

structure Draft where
  id : Option String
  recipient : Option String
  message : Option String
  sender : Option String
  createdAt : Option Int
  read : Option Bool
  link : Option String
  board : Option String
  card : Option String
  deriving DecidableEq, Repr, Inhabited

structure Board where
  id : String
  title : String
  deriving DecidableEq, Repr, Inhabited

/-- A value that is there and not empty. An empty text counts as none everywhere. -/
def filled? : Option String → Option String
  | some s => if s = "" then none else some s
  | none => none

def Notice.draft (n : Notice) : Draft where
  id := n.id
  recipient := n.recipient
  message := n.message
  sender := n.sender
  createdAt := n.createdAt
  read := n.read
  link := n.link
  board := n.board
  card := n.card

/-- The fields of a notice as the outside world names them. -/
inductive Field
  | id
  | recipient
  | message
  | sender
  | createdAt
  | read
  | link
  | board
  | card
  deriving DecidableEq, Repr

namespace Field

/-- Every field, in the order in which problems are reported. -/
def all : List Field :=
  [.id, .recipient, .message, .sender, .createdAt, .read, .link, .board, .card]

def name : Field → String
  | .id => "id"
  | .recipient => "userID"
  | .message => "message"
  | .sender => "from"
  | .createdAt => "createAt"
  | .read => "read"
  | .link => "link"
  | .board => "boardID"
  | .card => "cardID"

/-- The member that is read when a document has none of the field's own name. -/
def alternative : Field → String
  | .recipient => "user_id"
  | .sender => "from_user"
  | .createdAt => "create_at"
  | .board => "board_id"
  | .card => "card_id"
  | field => field.name

end Field

end Noticeboard
