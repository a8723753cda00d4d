import Noticeboard.Http.Host

/-!
References: what a request names. A reference may begin with a scheme and an authority, which
is a host with perhaps an account and a port, goes on with a path, and may end in a query and a
fragment. One with both a scheme and a host is absolute; any other is taken as a place at the
application that the request is made to. Among the segments of a path a point stands for
nothing, and two points take back the segment before them.
-/

namespace Noticeboard.Http

/-- A reference without its fragment. -/
structure Reference where
  /-- The scheme in lower case; it may be empty. -/
  scheme : List Char
  /-- The account, as it is written before an at sign; it may be empty. -/
  account : List Char
  /-- The host; it may be empty. -/
  host : List Char
  /-- The port, unless it is the usual one of the scheme. -/
  port : Option Int
  path : List Char
  /-- The query as it is written; it may be empty. -/
  query : List Char
  deriving DecidableEq, Repr

namespace Reference

/-! ## Parts -/

/-- A character that may stand in a scheme after the letter that begins it. -/
def inScheme (c : Char) : Bool := c.isAlphanum || c = '+' || c = '.' || c = '-'

/-- The scheme, if there is one, and what follows its colon. A colon in front of everything
ends an empty scheme. -/
def cutScheme (cs : List Char) : List Char × List Char :=
  match cs.span inScheme with
  | ([], ':' :: rest) => ([], rest)
  | (c :: scheme, ':' :: rest) => if c.isAlpha then (c :: scheme, rest) else ([], cs)
  | _ => ([], cs)

def cutAuthority : List Char → List Char × List Char
  | '/' :: '/' :: rest => rest.span fun c => c ≠ '/' && c ≠ '?'
  | cs => ([], cs)

/-- What stands before the last `mark`, and after it, if there is one. -/
def cutAtLast (mark : Char) : List Char → Option (List Char × List Char)
  | [] => none
  | c :: cs =>
      match cutAtLast mark cs with
      | some (front, rest) => some (c :: front, rest)
      | none => if c = mark then some ([], cs) else none

def cutAccount (authority : List Char) : List Char × List Char :=
  (cutAtLast '@' authority).getD ([], authority)

/-- A host, and what follows it. A bracket in front goes with the last one that closes. -/
def cutHost (cs : List Char) : List Char × List Char :=
  match cs, cutAtLast ']' cs with
  | '[' :: _, some (front, rest) => (front ++ [']'], rest)
  | cs, _ => cs.span (· ≠ ':')

/-- The port that a scheme, as it is written, need not be given. -/
def usualPort? (scheme : List Char) : Option Int :=
  if scheme = "http".toList ∨ scheme = "ws".toList then some 80
  else if scheme = "https".toList ∨ scheme = "wss".toList then some 443
  else if scheme = "ftp".toList then some 21
  else none

/-- What follows a host: perhaps a colon, and a number or nothing. -/
def port? (scheme cs : List Char) : Option (Option Int) :=
  let digits := if cs.head? = some ':' then cs.drop 1 else cs
  if digits.isEmpty then some none
  else
    (Text.Numeral.relaxed? (String.ofList digits)).map fun n =>
      if usualPort? scheme = some n then none else some n

/-! ## Paths -/

/-- One step along the segments of a path; `done` holds those before, the last one first. The
empty segment in front of a path cannot be taken back. -/
def along (done : List (List Char)) (segment : List Char) : List (List Char) :=
  if segment = ['.'] then done
  else if segment = ['.', '.'] then if done = [[]] then done else done.drop 1
  else segment :: done

def withoutDots (path : List Char) : List Char :=
  ['/'].intercalate ((Text.Percent.pieces '/' path).foldl along []).reverse

def isAbsolute (r : Reference) : Bool := !r.scheme.isEmpty && !r.host.isEmpty

def isBare (r : Reference) : Bool :=
  r.scheme.isEmpty && r.account.isEmpty && r.host.isEmpty && r.port.isNone

/-- The path at the application of a reference that is not absolute: the slashes in front of
it count as one. -/
def localPath (r : Reference) : List Char := '/' :: r.path.dropWhile (· = '/')

/-- The path of the place, with its percent code. It begins with a slash. -/
def place (r : Reference) : List Char :=
  if !r.isAbsolute then withoutDots r.localPath
  else if r.path.isEmpty then ['/']
  else r.path

/-! ## Reading -/

/-- The most characters that a reference may have. -/
def maxLength : Nat := 65536

/-- Whether a text is not too long and holds no control characters. -/
def isPlain (s : String) : Bool :=
  s.length ≤ maxLength && s.toList.all fun c => ' ' ≤ c && c ≠ '\x7f'

def keptInQuery (c : Char) : Bool :=
  ' ' < c && c < '\x7f' && c ≠ '"' && c ≠ '#' && c ≠ '<' && c ≠ '>'

def keptInPath (c : Char) : Bool :=
  keptInQuery c && !("?`\x7b\x7d".toList.contains c)

/-- Whether a text is not too long with its percent code. -/
def fitsCoded (kept : Char → Bool) (cs : List Char) : Bool :=
  (Text.Percent.encodeExcept kept cs).length ≤ maxLength

/-- A reference of parts that are read, if they go together. With nothing in front of it a
path begins with no colon and not with two slashes. What is not absolute is put together with
the place of the application, and has to fit with its percent code. -/
def ofParts? (r : Reference) : Option Reference :=
  if r.isBare && (r.path.head? = some ':' || r.path.take 2 = ['/', '/']) then none
  else if r.isAbsolute ||
      (fitsCoded keptInPath r.localPath && fitsCoded keptInQuery r.query) then some r
  else none

def read? (s : String) : Option Reference :=
  let (scheme, rest) := cutScheme (s.toList.takeWhile (· ≠ '#'))
  let (authority, rest) := cutAuthority rest
  let (path, query) := Text.Percent.cutAt '?' rest
  let (account, place) := cutAccount authority
  let (host, port) := cutHost place
  match isPlain s, Host.read? host, port? scheme port with
  | true, some host, some port =>
      let r : Reference :=
        { scheme := scheme.map Char.toLower, account, host, port, path
          query := query.getD [] }
      ofParts? (if r.isBare then r else { r with path := withoutDots path })
  | _, _, _ => none

/-! ## Origins -/

def portText (port : Option Int) : List Char :=
  match port with
  | some n => ':' :: (toString n).toList
  | none => []

def authority (r : Reference) : List Char := r.host ++ portText r.port

/-- The host with its port, unless the scheme need not be given it. A port may be left that the
scheme, as it was written, did not tell to be the usual one. -/
def server (r : Reference) : List Char :=
  r.host ++ portText (r.port.filter fun n => usualPort? r.scheme ≠ some n)

/-- What is wrong with the host of an absolute reference that is spelled in Punycode. -/
def hostFault? (r : Reference) : Option International.Fault :=
  if r.isAbsolute && r.host.take International.mark.length = International.mark then
    match International.check r.host with
    | .ok () => none
    | .error fault => some fault
  else none

/-- Whether the reference says on whose behalf it is used. -/
def namesAccount (r : Reference) : Bool :=
  r.isAbsolute && !r.account.isEmpty && r.account ≠ [':']

end Reference

end Noticeboard.Http
