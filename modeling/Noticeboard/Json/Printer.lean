import Noticeboard.Json.Basic
import Noticeboard.Number.Shortest
import Noticeboard.Text.Digit
import Noticeboard.Text.Numeral

/-!
Writing JSON text: no white space, members in their order, and ASCII alone, so that every
other character appears as the escapes of its UTF-16 code units. A real is written with the
fewest digits that read back, with a point in place while its exponent is at least `-4` and
below `16`.
-/

namespace Noticeboard.Json.Printer

def units (c : Char) : List Nat :=
  let n := c.toNat
  if n < 0x10000 then [n]
  else [0xd800 + (n - 0x10000) / 0x400, 0xdc00 + (n - 0x10000) % 0x400]

def character (c : Char) : List Char :=
  if c = '"' ∨ c = '\\' then ['\\', c]
  else if c = '\n' then ['\\', 'n']
  else if c = '\r' then ['\\', 'r']
  else if c = '\t' then ['\\', 't']
  else if c = '\x08' then ['\\', 'b']
  else if c = '\x0c' then ['\\', 'f']
  else if 0x20 ≤ c.toNat ∧ c.toNat < 0x7f then [c]
  else (units c).flatMap fun u => '\\' :: 'u' :: Text.hexDigits 4 u

def string (s : String) : List Char :=
  '"' :: s.toList.flatMap character ++ ['"']

def integer : Int → List Char
  | .ofNat n => Nat.toDigits 10 n
  | .negSucc n => '-' :: Nat.toDigits 10 (n + 1)

/-- The digits of a number and the place of its point, counted from the front. -/
def decimal (mantissa : Nat) (exponent : Int) : List Char × Int :=
  if mantissa = 0 then (['0'], 1)
  else
    let (digits, power) := Binary64.shortest mantissa exponent
    let ds := Nat.toDigits 10 digits
    (ds, ds.length + power)

def powerOfTen (e : Int) : List Char :=
  'e' :: (if e < 0 then '-' else '+') :: (Text.Numeral.padded 2 e.natAbs).toList

/-- A non-negative number from its digits and the place of its point. -/
def placed (ds : List Char) (point : Int) : List Char :=
  if -4 < point ∧ point ≤ 16 then
    if point ≤ 0 then '0' :: '.' :: (List.replicate (-point).toNat '0' ++ ds)
    else
      let front := point.toNat
      let whole := ds.take front ++ List.replicate (front - ds.length) '0'
      whole ++ '.' :: (if front < ds.length then ds.drop front else ['0'])
  else
    match ds with
    | [] => []
    | [d] => d :: powerOfTen (point - 1)
    | d :: rest => d :: '.' :: rest ++ powerOfTen (point - 1)

def real : Binary64 → List Char
  | .nan => ['N', 'a', 'N']
  | .infinite negative =>
      (if negative then ['-'] else []) ++ ['I', 'n', 'f', 'i', 'n', 'i', 't', 'y']
  | .finite negative m e =>
      let (ds, point) := decimal m e
      (if negative then ['-'] else []) ++ placed ds point

mutual

def value : Json → List Char
  | .null => ['n', 'u', 'l', 'l']
  | .bool true => ['t', 'r', 'u', 'e']
  | .bool false => ['f', 'a', 'l', 's', 'e']
  | .int n => integer n
  | .real x => real x
  | .str s | .garbled s => string s
  | .arr xs => '[' :: elements xs ++ [']']
  | .obj ms => '{' :: members ms ++ ['}']

def elements : List Json → List Char
  | [] => []
  | [x] => value x
  | x :: xs => value x ++ ',' :: elements xs

def members : List (String × Json) → List Char
  | [] => []
  | [(name, x)] => string name ++ ':' :: value x
  | (name, x) :: ms => string name ++ ':' :: (value x ++ ',' :: members ms)

end

end Noticeboard.Json.Printer

namespace Noticeboard.Json

def print (x : Json) : String := String.ofList (Printer.value x)

end Noticeboard.Json
