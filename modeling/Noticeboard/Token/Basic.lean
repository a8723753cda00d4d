import Noticeboard.Calendar.Moment
import Noticeboard.Codec.Base64
import Noticeboard.Codec.Sha256
import Noticeboard.Json.Printer
import Noticeboard.Json.Reader
import Noticeboard.Settings.Basic
import Noticeboard.Token.Lifetime

/-!
Access tokens. A token is three segments joined by points: a header that names the signature
algorithm, the claims, and the signature of the two before it. Issuing adds the moment of
expiry to the claims; checking accepts a token that is signed under the same secret and whose
claims allow it now.
-/

namespace Noticeboard.Token

open Text (Bytes)

/-- How deep containers may be nested in the header of a token and in its claims, before the
reader of JSON gives up. -/
structure Depth where
  header : Nat
  claims : Nat
  deriving DecidableEq, Repr

/-- Who issues and checks tokens: the secret that signs them, how many minutes they last when
nothing else is asked for, and how deep the tokens are read. -/
structure Authority where
  secret : String
  minutes : Count
  depth : Depth
  deriving DecidableEq, Repr

namespace Claim

def subject := "sub"
def expiry := "exp"
def notBefore := "nbf"
def issuedAt := "iat"
def audience := "aud"
def identifier := "jti"
def accessHash := "at_hash"

end Claim

def algorithm : String := "HS256"

def header : Json := .obj [("alg", .str algorithm), ("typ", .str "JWT")]

def point : UInt8 := 46

def segment (x : Json) : Bytes :=
  Text.Utf8.encodeChars (Base64.encode (Text.Utf8.encodeChars (Json.Printer.value x)))

def signature (secret : String) (text : Bytes) : Bytes :=
  Sha256.hmac (Text.Utf8.encode secret) text

/-! ## Issuing -/

inductive IssueFailure
  /-- The token would expire outside the years 1 to 9999, or is issued outside them. -/
  | outOfYears
  deriving DecidableEq, Repr

/-- The second in which a token issued now expires, in seconds after the epoch: the lifetime
is added first, and the sum cut to whole seconds. A lifetime of zero counts as none. -/
def expirySecond (authority : Authority) (lifetime : Option Span) (now : Int) :
    Except IssueFailure Int :=
  let usual := Span.ofMinutes authority.minutes.val
  let span := match lifetime with
    | some span => if span = 0 then usual else span
    | none => usual
  let moment := now * 1000 + span
  if Calendar.inYears now && Calendar.inYears (moment / 1000) then .ok (moment / 1000000)
  else .error .outOfYears

/-- The claims with the moment of expiry, which takes the place of one among them. -/
def withExpiry (claims : Json.Members) (second : Int) : Json.Members :=
  Json.Members.put Claim.expiry (.int second) claims

def compact (secret : String) (claims : Json.Members) : Bytes :=
  let signed := segment header ++ point :: segment (.obj claims)
  signed ++ point :: Text.Utf8.encodeChars (Base64.encode (signature secret signed))

/-- A token for the claims. `now` is in milliseconds after the epoch. -/
def issue (authority : Authority) (claims : Json.Members) (lifetime : Option Span)
    (now : Int) : Except IssueFailure String :=
  match expirySecond authority lifetime now with
  | .ok second =>
      let bytes := compact authority.secret (withExpiry claims second)
      .ok (String.ofList (bytes.map fun b => Char.ofNat b.toNat))
  | .error failure => .error failure

/-! ## Checking -/

inductive CheckFailure
  /-- The token is no token, is not signed, or its claims do not allow it. -/
  | refused
  /-- A moment among the claims is null, an array or an object. -/
  | momentNotNumber
  /-- A moment among the claims is infinite. -/
  | momentInfinite
  /-- A claim is compared with a moment outside the years 1 to 9999. -/
  | outOfYears
  /-- The header or the claims are nested deeper than they are read. -/
  | tooDeep
  deriving DecidableEq, Repr

def cutFirst : Bytes → Option (Bytes × Bytes)
  | [] => none
  | b :: bs =>
      if b = point then some ([], bs)
      else (cutFirst bs).map fun (front, rest) => (b :: front, rest)

def cutLast : Bytes → Option (Bytes × Bytes)
  | [] => none
  | b :: bs =>
      match cutLast bs with
      | some (front, rest) => some (b :: front, rest)
      | none => if b = point then some ([], bs) else none

/-- The members of the object whose text a segment holds. -/
def object (depth : Nat) (segment : Bytes) : Except CheckFailure Json.Members :=
  match (Base64.decode? segment).bind Text.Utf8.decode? with
  | none => .error .refused
  | some text =>
      match Json.attempt (.lenient depth) text with
      | .ok (.obj members) => .ok members
      | .error .tooDeep => .error .tooDeep
      | .ok _ | .error .malformed => .error .refused

def namesAlgorithm (header : Json.Members) : Bool :=
  match Json.Members.last? "alg" header with
  | some (.str name) => name = algorithm
  | _ => false

/-- The segments of a token: the header and the claims, then the text that is signed and the
signature. -/
def segments? (token : Bytes) : Option (Bytes × Bytes × Bytes × Bytes) :=
  match cutLast token with
  | none => none
  | some (signed, tag) =>
      (cutFirst signed).map fun (head, payload) => (head, payload, signed, tag)

/-- The claims of a token with a valid header and signature. The header is read before the
signature is looked at, and the claims after it. -/
def opened (authority : Authority) (token : Bytes) : Except CheckFailure Json.Members :=
  match segments? token with
  | none => .error .refused
  | some (head, payload, signed, tag) => do
      let header ← object authority.depth.header head
      if namesAlgorithm header ∧
          Base64.decode? tag = some (signature authority.secret signed) then
        object authority.depth.claims payload
      else throw .refused

/-- The second that a claim names: a number cut to its integer part, a truth value as one or
zero, or a numeral. -/
def second : Json → Except CheckFailure Int
  | .int n => .ok n
  | .bool b => .ok (if b then 1 else 0)
  | .real x =>
      match x with
      | .infinite _ => .error .momentInfinite
      | x => (x.integerPart?).elim (.error .refused) .ok
  | .str s => (Text.Numeral.relaxed? s).elim (.error .refused) .ok
  | .garbled _ => .error .refused
  | .null | .arr _ | .obj _ => .error .momentNotNumber

/-- Checks the second that a claim names, if the claim is there. -/
def checkSecond (claims : Json.Members) (name : String)
    (allowed : Int → Except CheckFailure Bool) : Except CheckFailure Unit :=
  match Json.Members.last? name claims with
  | none => .ok ()
  | some value => do
      if ← allowed (← second value) then return () else throw .refused

def checkAbsent (claims : Json.Members) (name : String) : Except CheckFailure Unit :=
  match Json.Members.last? name claims with
  | none => .ok ()
  | some _ => .error .refused

/-- Refuses claims that give the name to something other than a text. -/
def checkText (claims : Json.Members) (name : String) : Except CheckFailure Unit :=
  match Json.Members.last? name claims with
  | none | some (.str _) | some (.garbled _) => .ok ()
  | some _ => .error .refused

/-- Whole seconds after the epoch. `now` is in milliseconds. -/
def clock (now : Int) : Except CheckFailure Int :=
  if Calendar.inYears now then .ok (now / 1000) else .error .outOfYears

/-- Whether the claims allow a token now. The clock is looked at only where a claim needs it. -/
def checkClaims (claims : Json.Members) (now : Int) : Except CheckFailure Unit := do
  checkSecond claims Claim.issuedAt fun _ => .ok true
  checkSecond claims Claim.notBefore fun n => (clock now).map fun now => n ≤ now
  checkSecond claims Claim.expiry fun n => (clock now).map fun now => now ≤ n
  checkAbsent claims Claim.audience
  checkText claims Claim.subject
  checkText claims Claim.identifier
  checkAbsent claims Claim.accessHash

/-- The claims of a token that is accepted. `now` is in milliseconds after the epoch. -/
def check (authority : Authority) (token : String) (now : Int) :
    Except CheckFailure Json.Members :=
  match opened authority (Text.Utf8.encode token) with
  | .error failure => .error failure
  | .ok claims =>
      match checkClaims claims now with
      | .ok () => .ok (Json.Members.settled (Json.settledMembers claims))
      | .error failure => .error failure

/-- Whom a token speaks for. -/
inductive Bearer
  | user (id : String)
  /-- Somebody whose name is garbled and so not that of any user. -/
  | garbled (mended : String)
  deriving DecidableEq, Repr

def Bearer.name : Bearer → String
  | user id => id
  | garbled mended => mended

/-- The bearer of a token is its subject, which may not be empty. -/
def bearer (authority : Authority) (token : String) (now : Int) :
    Except CheckFailure Bearer :=
  match check authority token now with
  | .error failure => .error failure
  | .ok claims =>
      match Json.Members.last? Claim.subject claims with
      | some (.str s) => if s = "" then .error .refused else .ok (.user s)
      | some (.garbled s) => .ok (.garbled s)
      | _ => .error .refused

end Noticeboard.Token
