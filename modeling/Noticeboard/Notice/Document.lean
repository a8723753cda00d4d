import Noticeboard.Json.Reader
import Noticeboard.Notice.Basic
import Noticeboard.Number.Int64
import Noticeboard.Text.Utf8

/-!
Notices as JSON documents. Writing leaves out an empty link, board or card. Reading takes
each field under its own name or its alternative name, never converts one type into another,
and reports every field of the wrong type, not just the first.
-/

namespace Noticeboard

def Json.Members.ofFilled (field : Field) (value : Option String) : Json.Members :=
  match filled? value with
  | some s => [(field.name, .str s)]
  | none => []

/-- The document of a draft; an absent value of a required field is null. -/
def Draft.document (d : Draft) : Json :=
  let text (value : Option String) : Json := value.elim .null .str
  .obj ([(Field.id.name, text d.id), (Field.recipient.name, text d.recipient),
      (Field.message.name, text d.message), (Field.sender.name, text d.sender),
      (Field.createdAt.name, d.createdAt.elim .null .int),
      (Field.read.name, d.read.elim .null .bool)] ++
    Json.Members.ofFilled .link d.link ++ Json.Members.ofFilled .board d.board ++
    Json.Members.ofFilled .card d.card)

def Notice.document (n : Notice) : Json := n.draft.document

namespace Document

/-- JSON as documents may be written: whole numbers and reals of at most 4300 digits before
the point, at most 200 containers open at once, and no lone surrogates. -/
def dialect : Json.Dialect where
  nesting := some 200
  opensEmpty := false
  wholeDigits := Text.maxDigits
  realDigits := some Text.maxDigits
  admitsGarbled := false

/-! ## Problems -/

inductive Problem.Kind
  | notText
  | notWhole
  | notFlag
  | belowRange
  | aboveRange
  | notObject
  | notList
  | notJson
  deriving DecidableEq, Repr

/-- A step on the way to the value at fault. -/
inductive Problem.Step
  | index (i : Nat)
  | member (name : String)
  deriving DecidableEq, Repr

structure Problem where
  location : List Problem.Step
  kind : Problem.Kind
  deriving DecidableEq, Repr

def Problem.within (i : Nat) (p : Problem) : Problem :=
  { p with location := .index i :: p.location }

/-! ## Fields -/

/-- What a field holds. -/
inductive Shape
  | text
  | whole
  | flag
  deriving DecidableEq, Repr

def shape : Field → Shape
  | .createdAt => .whole
  | .read => .flag
  | _ => .text

/-- What is wrong with a value for a field of the given shape. Null is never wrong. -/
def Shape.fault? : Shape → Json → Option Problem.Kind
  | _, .null => none
  | .text, .str _ => none
  | .text, _ => some .notText
  | .whole, .int n =>
      if n < Int64.least then some .belowRange
      else if Int64.greatest < n then some .aboveRange
      else none
  | .whole, _ => some .notWhole
  | .flag, .bool _ => none
  | .flag, _ => some .notFlag

/-- The name under which a field is found in an object, and the value there: its own name
wherever that occurs, else the alternative name. -/
def pick (ms : Json.Members) (field : Field) : String × Json :=
  match Json.Members.last? field.name ms with
  | some value => (field.name, value)
  | none =>
      match Json.Members.last? field.alternative ms with
      | some value => (field.alternative, value)
      | none => (field.name, .null)

def problem? (ms : Json.Members) (field : Field) : Option Problem :=
  let (name, value) := pick ms field
  ((shape field).fault? value).map fun kind => { location := [.member name], kind }

def textOf (ms : Json.Members) (field : Field) : String :=
  match (pick ms field).2 with
  | .str s => s
  | _ => ""

def wholeOf (ms : Json.Members) (field : Field) : Int :=
  match (pick ms field).2 with
  | .int n => n
  | _ => 0

def flagOf (ms : Json.Members) (field : Field) : Bool :=
  match (pick ms field).2 with
  | .bool b => b
  | _ => false

/-- The notice of an object whose fields are all in order. -/
def assemble (ms : Json.Members) : Notice where
  id := textOf ms .id
  recipient := textOf ms .recipient
  message := textOf ms .message
  sender := textOf ms .sender
  createdAt := wholeOf ms .createdAt
  read := flagOf ms .read
  link := textOf ms .link
  board := textOf ms .board
  card := textOf ms .card

/-! ## Documents -/

def notice : Json → Except (List Problem) Notice
  | .obj ms =>
      match Field.all.filterMap (problem? ms) with
      | [] => .ok (assemble ms)
      | problems => .error problems
  | _ => .error [{ location := [], kind := .notObject }]

/-- The notices of the elements from number `i` on, or all the problems in them. -/
def noticesFrom (i : Nat) : List Json → Except (List Problem) (List Notice)
  | [] => .ok []
  | x :: xs =>
      match notice x, noticesFrom (i + 1) xs with
      | .ok n, .ok ns => .ok (n :: ns)
      | .ok _, .error later => .error later
      | .error here, .ok _ => .error (here.map (.within i))
      | .error here, .error later => .error (here.map (.within i) ++ later)

def notices : Json → Except (List Problem) (List Notice)
  | .arr xs => noticesFrom 0 xs
  | _ => .error [{ location := [], kind := .notList }]

/-- A file, of which a part may have been read before. -/
structure File (α : Type) where
  contents : List α
  position : Nat

/-- What reading a file gives. -/
def File.unread {α : Type} (f : File α) : List α := f.contents.drop f.position

/-- Where a document comes from. Bytes are a document in UTF-8, whether they are at hand, in a
buffer that can change, or in a file. -/
inductive Source
  | text (s : String)
  | bytes (bs : Text.Bytes)
  | buffer (bs : ByteArray)
  | textFile (f : File Char)
  | byteFile (f : File UInt8)

def Source.chars? : Source → Option (List Char)
  | .text s => some s.toList
  | .bytes bs => Text.Utf8.decode? bs
  | .buffer bs => Text.Utf8.decode? bs.data.toList
  | .textFile f => some f.unread
  | .byteFile f => Text.Utf8.decode? f.unread

def Source.json? (source : Source) : Option Json :=
  source.chars?.bind (Json.read dialect)

/-- Reads with `f` what a document says, or reports that it is not JSON at all. -/
def readWith (f : Json → Except (List Problem) α) (source : Source) :
    Except (List Problem) α :=
  match source.json? with
  | some value => f value
  | none => .error [{ location := [], kind := .notJson }]

def read (source : Source) : Except (List Problem) Notice := readWith notice source

def readList (source : Source) : Except (List Problem) (List Notice) := readWith notices source

end Document

end Noticeboard
