import Noticeboard.Http.CrossOrigin
import Noticeboard.Http.Identity
import Noticeboard.Http.Parameter
import Noticeboard.Http.Route
import Noticeboard.Notice.Document
import Noticeboard.Service.Inbox

/-!
The application: users read and manage their own notices over HTTP. A request is answered by
a plan, which never fails: every failure on the way becomes a response.
-/

namespace Noticeboard.Http

/-- What stays fixed while the application runs. -/
structure App where
  authority : Token.Authority
  /-- The origins whose pages may call. -/
  origins : List String
  /-- The host at which the application is reached. -/
  host : String
  deriving Repr

namespace App

def doing {α : Type} (a : Action α) : Handler α :=
  ExceptT.mk (ExceptT.run a >>= fun result => pure (result.mapError Refusal.ofFailure))

/-- A notice that has to be there and to belong to the bearer. -/
def owned (id : String) (bearer : Token.Bearer) : Action Notice := do
  match ← Service.find id with
  | none => throw .noSuchNotice
  | some n => if bearer.owns n then return n else throw .notOwner

/-! ## Endpoints -/

def page (r : Request) (bearer : Token.Bearer) : Action (List Notice) := do
  let settings ← Action.settings
  let limit ← liftExcept (parameter "limit" settings.pageSize.val (r.parameter? "limit"))
  let offset ← liftExcept (parameter "offset" 0 (r.parameter? "offset"))
  bearer.ask .listNotices fun user => Service.list user (some limit) offset
where
  liftExcept {α : Type} (result : Except Failure α) : Action α := ExceptT.mk (pure result)

def store (draft : Draft) (bearer : Token.Bearer) : Action Notice := do
  let draft ← Service.completed draft
  bearer.ask .insertNotice fun _ => Action.insert draft

def markAll (bearer : Token.Bearer) : Action Service.Marking := do
  let limit ← Service.limitOr none Settings.markAllLimit
  bearer.ask .listNotices fun user => Service.markAllRead user (some limit)

/-- A note on a failure, which is left out when no caller is expected to act on it. -/
def noteOn (failure : Failure) (entry : Log.Entry) : Plan Unit :=
  if failure.category?.isSome then Plan.ask (.note entry) else pure ()

/-- A notice for the bearer as the body of the request describes it. The identifier, recipient
and creation time in the body do not count. -/
def create (app : App) (r : Request) : Handler Response := do
  match Document.read (.bytes r.body) with
  | .error _ => throw (.refused 400 "cannot parse request body")
  | .ok payload =>
      let bearer ← bearerOf app.authority r
      if payload.message = "" then throw (.refused 400 "message is required")
      if payload.sender = "" then throw (.refused 400 "from is required")
      let now ← ExceptT.lift (Plan.ask .now)
      let draft := { payload with id := "", recipient := bearer.name, createdAt := now }.draft
      match ← ExceptT.lift (ExceptT.run (store draft bearer)) with
      | .ok n =>
          ExceptT.lift (Plan.ask (.note (.created n.id bearer.name)))
          return .json 201 n.document
      | .error failure =>
          ExceptT.lift (noteOn failure (.notCreated bearer.name))
          throw (.ofFailure failure)

def delete (id : String) (bearer : Token.Bearer) : Handler Response := do
  let deletion : Action Unit := do
    let _ ← owned id bearer
    Service.delete id
  match ← ExceptT.lift (ExceptT.run deletion) with
  | .ok () =>
      ExceptT.lift (Plan.ask (.note (.deleted id bearer.name)))
      return .json 200 (.obj [])
  | .error failure =>
      ExceptT.lift (noteOn failure (.notDeleted id bearer.name))
      throw (.ofFailure failure)

def markRead (id : String) (bearer : Token.Bearer) : Handler Response :=
  doing do
    let _ ← owned id bearer
    Service.markRead id
    return .json 200 (.obj [])

def summary (m : Service.Marking) : Json :=
  .obj [("attempted", .int m.attempted), ("succeeded", .int m.succeeded),
    ("failed", .int m.failed.length)]

/-- Serves a request at an endpoint, with the identifier in its path. -/
def serve (app : App) (r : Request) (endpoint : Endpoint) (id : String) : Handler Response :=
  match endpoint with
  | .create => app.create r
  | .list => do
      let bearer ← bearerOf app.authority r
      let notices ← doing (page r bearer)
      return .json 200 (.arr (notices.map Notice.document))
  | .countUnread => do
      let bearer ← bearerOf app.authority r
      let count ← doing (bearer.ask .countUnread fun user => Service.countUnread user)
      return .json 200 (.obj [("count", .int count)])
  | .markAllRead => do
      let bearer ← bearerOf app.authority r
      let marking ← doing (markAll bearer)
      return .json 200 (summary marking)
  | .find => do
      let bearer ← bearerOf app.authority r
      let n ← doing (owned id bearer)
      return .json 200 n.document
  | .markRead => do
      let bearer ← bearerOf app.authority r
      markRead id bearer
  | .delete => do
      let bearer ← bearerOf app.authority r
      delete id bearer

/-! ## Dispatch -/

/-- The origin at which a request reaches the application: its scheme, and the host of its
header. Without that header the host is the one of an absolute reference, or else the
application's own, and so it is where the header names no host. -/
def originOf (app : App) (r : Request) : List Char :=
  let (scheme, authority, server) :=
    if r.reference.isAbsolute then
      (r.reference.scheme, r.reference.authority, r.reference.server)
    else ("http".toList, app.host.toList, app.host.toList)
  let named := ((r.header? "host").map String.toList).getD authority
  scheme ++ "://".toList ++ if Host.isNamed named then named else server

/-- The address of a path and a query at an origin. The marks that would end the path are
percent-coded in it. -/
def placeAt (origin path query : List Char) : String :=
  let path := path.flatMap fun c =>
    if c = '?' ∨ c = '#' then Text.Percent.encodeByte (UInt8.ofNat c.toNat) else [c]
  let query := if query.isEmpty then [] else '?' :: query
  Text.Percent.encodeAddress (String.ofList (origin ++ path ++ query))

/-- The response for a path without an endpoint: where the path is known without the slashes
at its end, a pointer to it. -/
def elsewhere (app : App) (r : Request) : Handler Response :=
  let shorter := Text.dropEndWhile (· = '/') r.path
  if r.path ≠ ['/'] ∧ shorter ≠ r.path ∧ !(endpointsAt shorter).isEmpty then
    pure ((Response.text 307 "").withHeaders
      [("location", placeAt (app.originOf r) shorter r.query)])
  else throw (.refused 404 "Not Found")

def dispatch (app : App) (r : Request) : Handler Response :=
  match route r.verb r.path with
  | .served endpoint id => app.serve r endpoint id
  | .otherVerb allowed =>
      pure ((Response.detailed 405 "Method Not Allowed").withHeaders [("allow", allowed)])
  | .unknown => app.elsewhere r

/-- The response to a request, with the given headers unless something is broken. -/
def answered (headers : List Header) (result : Except Refusal Response) : Response :=
  match result with
  | .ok response => response.withHeaders headers
  | .error .broken => Refusal.broken.response
  | .error refusal => refusal.response.withHeaders headers

/-- The plan that answers a request, without regard to how much of it is asked for. -/
def answer (app : App) (r : Request) : Plan Response :=
  match CrossOrigin.origin? app.origins r with
  | none => ExceptT.run (app.dispatch r) >>= fun result => pure (answered [] result)
  | some origin =>
      match CrossOrigin.asked? r with
      | some verb => pure (CrossOrigin.permission app.origins origin verb r)
      | none => ExceptT.run (app.dispatch r) >>= fun result =>
          pure (answered (CrossOrigin.headers app.origins origin) result)

/-- The plan that responds to a request. Where only the head of the response is asked for,
the body is left out. -/
def respond (app : App) (r : Request) : Plan Response :=
  app.answer r >>= fun response =>
    pure (if r.verb = "HEAD" then response.bare else response)

end App

end Noticeboard.Http
