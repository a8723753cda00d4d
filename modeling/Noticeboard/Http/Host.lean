import Noticeboard.Http.International
import Noticeboard.Text.Numeral
import Noticeboard.Text.Percent

/-!
Hosts. A host is a name, an address of four numbers between points, or an address of eight
groups of hexadecimal digits between colons, which stands in brackets. A request names its host
twice, in its reference and in a header; the two are read by different rules.
-/

namespace Noticeboard.Http.Host

def isDigit (c : Char) : Bool := (Text.asciiDigit? c).isSome

def isHex (c : Char) : Bool := (Text.hexDigit? c).isSome

def number (cs : List Char) : Nat := Text.Numeral.ofDigits (cs.filterMap Text.asciiDigit?)

/-! ## Addresses -/

def isOctet (cs : List Char) : Bool :=
  !cs.isEmpty && cs.length ≤ 3 && cs.all isDigit && (cs.head? ≠ some '0' || cs = ['0']) &&
    number cs ≤ 255

def isQuad (cs : List Char) : Bool :=
  let numbers := Text.Percent.pieces '.' cs
  numbers.length = 4 && numbers.all isOctet

def isGroup (cs : List Char) : Bool := !cs.isEmpty && cs.length ≤ 4 && cs.all isHex

/-- How many groups stand between colons, if there is nothing else between them. Where
`endsInQuad`, four numbers may take the place of the last two groups. -/
def countGroups (endsInQuad : Bool) : List (List Char) → Option Nat
  | [] => some 0
  | [piece] =>
      if isGroup piece then some 1
      else if endsInQuad && isQuad piece then some 2
      else none
  | piece :: rest =>
      if isGroup piece then (countGroups endsInQuad rest).map (· + 1) else none

/-- How many groups a text holds, which may be none at all. -/
def groupsIn (endsInQuad : Bool) (cs : List Char) : Option Nat :=
  if cs.isEmpty then some 0 else countGroups endsInQuad (Text.Percent.pieces ':' cs)

/-- What stands before two colons in a row, and after them if they are there. -/
def cutGap : List Char → List Char × Option (List Char)
  | [] => ([], none)
  | ':' :: ':' :: rest => ([], some rest)
  | c :: cs =>
      let (front, rest) := cutGap cs
      (c :: front, rest)

/-- Eight groups, or fewer with two colons in a row for all that are left out. -/
def isGroups (cs : List Char) : Bool :=
  match cutGap cs with
  | (groups, none) => groupsIn true groups = some 8
  | (front, some back) =>
      match groupsIn false front, groupsIn true back with
      | some m, some n => m + n < 8
      | _, _ => false

/-! ## Hosts of references -/

/-- Groups, after which a percent sign may lead to the name of a zone. -/
def isZoned (cs : List Char) : Bool :=
  match Text.Percent.cutAt '%' cs with
  | (groups, none) => isGroups groups
  | (groups, some zone) => isGroups groups && !zone.isEmpty && !zone.contains '%'

/-- Whether a text reads as four numbers with one character, which may itself be a digit,
between each two. A run of `n` digits has room for `(n + 1) / 2` of the numbers. -/
def looksLikeQuad (cs : List Char) : Bool :=
  let runs := Text.Percent.pieces '.' (cs.map fun c => if isDigit c then c else '.')
  runs.length ≤ 4 && runs.all (!·.isEmpty) &&
    4 ≤ runs.foldl (fun n run => n + (run.length + 1) / 2) 0

def keptInName (c : Char) : Bool :=
  c.isAlphanum || "-._~!$&'()*+,;=\"`\x7b\x7d%|\\".toList.contains c

/-- The host of a reference as it is used, if it is one. A name is put in lower case and in
ASCII. -/
def read? (cs : List Char) : Option (List Char) :=
  if looksLikeQuad cs then
    if isQuad cs then some cs else none
  else if cs.head? = some '[' && cs.getLast? = some ']' then
    if isZoned (cs.drop 1).dropLast then some cs else none
  else if cs.all Text.Punycode.isBasic then
    some (Text.Percent.encodeExcept keptInName (cs.map Char.toLower))
  else (International.encode cs).toOption

/-! ## Hosts of headers -/

def inName (c : Char) : Bool := c.isAlphanum || "-._~!$&'()*+,;=".toList.contains c

def isName : List Char → Bool
  | [] => true
  | '%' :: high :: low :: cs => isHex high && isHex low && isName cs
  | c :: cs => inName c && isName cs

def isPort : List Char → Bool
  | [] => true
  | c :: digits => c = ':' && !digits.isEmpty && digits.all isDigit && number digits ≤ 65535

/-- Whether a header names a host, with or without a port. -/
def isNamed : List Char → Bool
  | '[' :: cs =>
      match cs.span (· ≠ ']') with
      | (groups, _ :: port) => isGroups groups && isPort port
      | _ => false
  | cs =>
      let (name, port) := cs.span (· ≠ ':')
      !name.isEmpty && isName name && isPort port

end Noticeboard.Http.Host
