import Noticeboard.Http.Message

/-!
Requests from pages of other origins. A browser tells the origin of the page, and may ask
beforehand whether a request of some method would be served. The rules apply only when
origins are configured at all; the origin `*` stands for every one.
-/

namespace Noticeboard.Http.CrossOrigin

def verbs : List String := ["DELETE", "GET", "HEAD", "OPTIONS", "PATCH", "POST", "PUT", "QUERY"]

def allows (origins : List String) (origin : String) : Bool :=
  origins.contains "*" || origins.contains origin

/-- The headers that tell a browser whether its page may see the response. -/
def headers (origins : List String) (origin : String) : List Header :=
  ("access-control-allow-credentials", "true") ::
    if allows origins origin then [("access-control-allow-origin", origin)] else []

def origin? (origins : List String) (r : Request) : Option String :=
  if origins.isEmpty then none else r.header? "origin"

def asked? (r : Request) : Option String :=
  if r.verb = "OPTIONS" then r.header? "access-control-request-method" else none

/-- Whether a request asks for access from a public page to a private network, which no page
has. -/
def asksPrivate (r : Request) : Bool :=
  (r.header? "access-control-request-private-network").isSome

/-- The answer to a page that asks beforehand by `r` about a method. -/
def permission (origins : List String) (origin verb : String) (r : Request) : Response :=
  let faults := (if allows origins origin then [] else ["origin"]) ++
    (if verbs.contains verb then [] else ["method"]) ++
    (if asksPrivate r then ["private-network"] else [])
  let response :=
    if faults.isEmpty then Response.text 200 "OK"
    else Response.text 400 ("Disallowed CORS " ++ ", ".intercalate faults)
  response.withHeaders (headers origins origin)

end Noticeboard.Http.CrossOrigin
