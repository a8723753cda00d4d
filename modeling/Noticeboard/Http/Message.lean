import Noticeboard.Http.Reference
import Noticeboard.Json.Basic
import Noticeboard.Service.Failure

/-!
Requests and responses. A request that is not served has a `Refusal`: a status with a detail
that says why, or no explanation at all where something failed that callers can do nothing
about.
-/

namespace Noticeboard.Http

/-! ## Requests -/

abbrev Header := String × String

structure Request where
  method : String
  /-- What is asked for. -/
  reference : Reference
  headers : List Header
  body : Text.Bytes
  deriving Repr

namespace Request

def verb (r : Request) : String := String.ofList (r.method.toList.map Char.toUpper)

/-- The path with its percent code resolved, which is done twice: a client resolves the code of
the reference, and a server that of the path it is given. -/
def path (r : Request) : List Char :=
  Text.Percent.decode (Text.Percent.decode r.reference.place)

/-- The query as it was sent; it is empty when there is none. -/
def query (r : Request) : List Char := r.reference.query

def parameter? (r : Request) (name : String) : Option String :=
  Text.Percent.formValue? name r.query

/-- The first header of the given name, which is in lower case. Letter case does not count. -/
def header? (r : Request) (name : String) : Option String :=
  (r.headers.find? fun h => h.1.toList.map Char.toLower = name.toList).map (·.2)

/-- The value of the authorization header. An account in the reference takes its place, and is
no token. -/
def authorization? (r : Request) : Option String :=
  if r.reference.namesAccount then none else r.header? "authorization"

/-- What keeps a request from being sent. -/
inductive Fault
  /-- A header is not written in ASCII. -/
  | header
  /-- The host, which no header names instead, is none. -/
  | host (fault : International.Fault)
  /-- The scheme is for connections that stay open. -/
  | socket
  /-- The scheme is unknown. -/
  | scheme
  deriving DecidableEq, Repr

def isAscii (s : String) : Bool := s.toList.all fun c => c.toNat < 0x80

/-- The first thing that keeps a request from being sent, if anything does. -/
def fault? (r : Request) : Option Fault :=
  let scheme := r.reference.scheme
  if !(r.headers.all fun h => isAscii h.1 && isAscii h.2) then some .header
  else
    match r.header? "host", r.reference.hostFault? with
    | none, some fault => some (.host fault)
    | _, _ =>
        if !r.reference.isAbsolute then none
        else if scheme = "http".toList ∨ scheme = "https".toList then none
        else if scheme = "ws".toList ∨ scheme = "wss".toList then some .socket
        else some .scheme

end Request

/-! ## Responses -/

inductive Body
  | json (value : Json)
  | text (s : String)
  deriving Repr

structure Response where
  status : Nat
  headers : List Header
  body : Body
  deriving Repr

namespace Response

def json (status : Nat) (value : Json) : Response := ⟨status, [], .json value⟩

def text (status : Nat) (s : String) : Response := ⟨status, [], .text s⟩

/-- What keeps a response from being taken. -/
inductive Fault
  /-- The place that it points to cannot be read. -/
  | pointer
  /-- The host of that place, or of what was asked for, is none. -/
  | host (fault : International.Fault)
  deriving DecidableEq, Repr

/-- What keeps a response to a request for `asked` from being taken. Hosts are looked at where
it points elsewhere. -/
def fault? (asked : Reference) (r : Response) : Option Fault :=
  match r.headers.find? (·.1 = "location") with
  | none => none
  | some (_, text) =>
      match Reference.read? text with
      | none => some .pointer
      | some place => (place.hostFault? <|> asked.hostFault?).map .host

def withHeaders (r : Response) (headers : List Header) : Response :=
  { r with headers := r.headers ++ headers }

def bare (r : Response) : Response := { r with body := .text "" }

def detailed (status : Nat) (detail : String) : Response :=
  json status (.obj [("detail", .str detail)])

end Response

/-! ## Refusals -/

inductive Refusal
  | refused (status : Nat) (detail : String)
  /-- The request does not say, or not truthfully, on whose behalf it is made. -/
  | unauthenticated (detail : String)
  /-- Something failed that the caller can do nothing about. -/
  | broken
  deriving DecidableEq, Repr

namespace Refusal

def response : Refusal → Response
  | refused status detail => .detailed status detail
  | unauthenticated detail =>
      (Response.detailed 401 detail).withHeaders [("www-authenticate", "Bearer")]
  | broken => .text 500 "Internal Server Error"

/-- The refusal for a failure of some category with some message. What the store failed to do
is not told. -/
def ofCategory (c : Category) (message : String) : Refusal :=
  if c.isA .invalid then refused 400 message
  else if c.isA .missing then refused 404 message
  else if c.isA .denied then refused 403 message
  else refused 500 "internal error"

def ofFailure (f : Failure) : Refusal :=
  match f.category? with
  | some c => ofCategory c f.message
  | none => broken

end Refusal

end Noticeboard.Http
