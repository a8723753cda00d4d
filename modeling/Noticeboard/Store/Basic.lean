import Noticeboard.Number.Int64
import Noticeboard.Store.Table

/-!
The store: a table of notices and a table of boards. Rows of notices are only ever added,
removed, or marked as read or unread. An operation either does all of its work or fails with
the task it could not do and leaves the store alone, except that a row which has been added is
read back: where that fails, the operation fails as well, but the row is there. A store may
have lost a table, and its flaws may break any kind of access to it; both make operations fail.
-/

namespace Noticeboard

/-- What the store can fail to do. -/
inductive Task
  | insertNotice
  | listNotices
  | countUnread
  | findNotice
  | markNotice
  | deleteNotice
  | deleteForRecipient
  | findBoard
  | insertBoard
  deriving DecidableEq, Repr

def Task.message : Task → String
  | .insertNotice => "Cannot insert notification"
  | .listNotices => "Cannot get notifications for user"
  | .countUnread => "Cannot get unread notifications count"
  | .findNotice => "Cannot get notification"
  | .markNotice => "Cannot update notification read status"
  | .deleteNotice => "Cannot delete notification"
  | .deleteForRecipient => "Cannot delete notifications for user"
  | .findBoard => "Cannot get board"
  | .insertBoard => "Cannot insert board"

/-- The accesses to the tables that can break one by one. A broken update or delete shows
only when there is a row to change or remove. -/
inductive Access
  | insertNotice
  | rereadNotice
  | listNotices
  | countUnread
  | findNotice
  | updateNotice (id : String)
  | deleteNotice
  | findBoard
  | insertBoard
  | rereadBoard
  deriving DecidableEq, Repr

/-- Something wrong with a store, under a name that tells it from others. -/
structure Flaw where
  name : String
  breaks : Access → Bool

/-- The tables, each unless it is lost, and what is wrong with the accesses to them. -/
structure Store where
  notices : Option NoticeTable
  boards : Option BoardTable
  flaws : List Flaw

namespace Store

/-- A store with nothing in it and nothing wrong with it. -/
def empty : Store := ⟨some .empty, some .empty, []⟩

instance : Inhabited Store := ⟨empty⟩

def broken (s : Store) (access : Access) : Bool := s.flaws.any (·.breaks access)

/-! ## Rows -/

/-- The row for a draft: every required field is there and the creation time fits its
column. An absent read flag is false and an absent link, board or card is empty. -/
def row? (d : Draft) : Option Notice :=
  match d.id, d.recipient, d.message, d.sender, d.createdAt with
  | some id, some recipient, some message, some sender, some createdAt =>
      if Int64.fits createdAt then
        some { id, recipient, message, sender, createdAt
               read := d.read.getD false
               link := d.link.getD ""
               board := d.board.getD ""
               card := d.card.getD "" }
      else none
  | _, _, _, _, _ => none

/-- Whether `a` stands before `b` in a listing: newest first, and of notices of one moment
the one with the later identifier. -/
def before (a b : Notice) : Bool :=
  b.createdAt < a.createdAt || (a.createdAt = b.createdAt && b.id ≤ a.id)

/-- All notices of a recipient, in the order of listings. -/
def listing (t : NoticeTable) (recipient : String) : List Notice :=
  (t.rows.filter (·.recipient = recipient)).mergeSort before

/-- Whether a limit or offset can be handed to the store; one that is not positive is not
handed over at all. -/
def usable (bound : Int) : Bool := bound ≤ 0 || Int64.fits bound

/-- The part of a listing from `offset` on, at most `limit` rows of it if that is positive. -/
def page (limit offset : Int) (rows : List Notice) : List Notice :=
  let rest := rows.drop offset.toNat
  if 0 < limit then rest.take limit.toNat else rest

def marked (id : String) (read : Bool) (n : Notice) : Notice :=
  if n.id = id then { n with read } else n

theorem id_marked (id : String) (read : Bool) (n : Notice) : (marked id read n).id = n.id := by
  unfold marked
  split <;> rfl

/-! ## Operations on notices -/

/-- The notices, if their table is there and the access works. -/
def noticesFor (s : Store) (access : Access) : Option NoticeTable :=
  if s.broken access then none else s.notices

/-- Begins a task with notices and goes no further, which fails where their table is lost. -/
def reach (s : Store) (task : Task) : Except Task Unit :=
  if s.notices.isSome then .ok () else .error task

def insert (s : Store) (d : Draft) : Except Task (Notice × Store) :=
  match s.noticesFor .insertNotice, row? d with
  | some t, some n =>
      if free : t.has n.id = false then
        .ok (n, { s with notices := some (t.insert n free) })
      else .error .insertNotice
  | _, _ => .error .insertNotice

/-- Reads back a notice that has been stored. -/
def reread (s : Store) (id : String) : Except Task Notice :=
  match (s.noticesFor .rereadNotice).bind (·.find? id) with
  | some n => .ok n
  | none => .error .insertNotice

/-- Stores a notice and reads it back, with the store that is left. -/
def save (s : Store) (d : Draft) : Except Task Notice × Store :=
  match s.insert d with
  | .ok (n, s) => (s.reread n.id, s)
  | .error task => (.error task, s)

def list (s : Store) (recipient : Option String) (limit offset : Int) :
    Except Task (List Notice) :=
  match s.noticesFor .listNotices with
  | some t =>
      if usable limit && usable offset then
        .ok (page limit offset (recipient.elim [] (listing t)))
      else .error .listNotices
  | none => .error .listNotices

def countUnread (s : Store) (recipient : Option String) : Except Task Nat :=
  match s.noticesFor .countUnread with
  | some t => .ok (t.rows.countP fun n => recipient = some n.recipient && !n.read)
  | none => .error .countUnread

def find (s : Store) (id : Option String) : Except Task (Option Notice) :=
  match s.noticesFor .findNotice with
  | some t => .ok (id.bind t.find?)
  | none => .error .findNotice

/-- Sets the flag of the notice with the given identifier, if there is one. A notice cannot go
without its flag. -/
def setRead (s : Store) (id : Option String) (read : Option Bool) : Except Task Store :=
  match s.notices, id with
  | none, _ => .error .markNotice
  | some _, none => .ok s
  | some t, some id =>
      if t.has id then
        match read with
        | some read =>
            if s.broken (.updateNotice id) then .error .markNotice
            else .ok { s with notices := some (t.update (marked id read) (id_marked id read)) }
        | none => .error .markNotice
      else .ok s

/-- Removes the notices that `p` asks for, or fails at `task`. -/
def removeWhere (s : Store) (task : Task) (p : Notice → Bool) : Except Task Store :=
  match s.notices with
  | none => .error task
  | some t =>
      if t.rows.any p && s.broken .deleteNotice then .error task
      else .ok { s with notices := some (t.remove p) }

/-- Removes the notice with the given identifier, if there is one. -/
def delete (s : Store) (id : Option String) : Except Task Store :=
  s.removeWhere .deleteNotice fun n => id = some n.id

def deleteFor (s : Store) (recipient : Option String) : Except Task Store :=
  s.removeWhere .deleteForRecipient fun n => recipient = some n.recipient

/-! ## Operations on boards -/

def boardsFor (s : Store) (access : Access) : Option BoardTable :=
  if s.broken access then none else s.boards

def findBoard (s : Store) (id : Option String) : Except Task (Option Board) :=
  match s.boardsFor .findBoard with
  | some t => .ok (id.bind t.find?)
  | none => .error .findBoard

def insertBoard (s : Store) (id title : Option String) : Except Task (Board × Store) :=
  match s.boardsFor .insertBoard, id with
  | some t, some id =>
      let board : Board := { id, title := title.getD "" }
      if free : t.has board.id = false then
        .ok (board, { s with boards := some (t.insert board free) })
      else .error .insertBoard
  | _, _ => .error .insertBoard

/-- Reads back a board that has been stored. -/
def rereadBoard (s : Store) (id : String) : Except Task Board :=
  match (s.boardsFor .rereadBoard).bind (·.find? id) with
  | some board => .ok board
  | none => .error .insertBoard

/-- Stores a board and reads it back, with the store that is left. -/
def saveBoard (s : Store) (id title : Option String) : Except Task Board × Store :=
  match s.insertBoard id title with
  | .ok (board, s) => (s.rereadBoard board.id, s)
  | .error task => (.error task, s)

end Store

end Noticeboard
