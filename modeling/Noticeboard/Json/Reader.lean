import Noticeboard.Json.Basic
import Noticeboard.Text.Digit
import Noticeboard.Text.Numeral

/-!
Reading JSON text. The grammar is that of RFC 8259 with the numbers `NaN`, `Infinity` and
`-Infinity`. A dialect says how deep containers may be nested, how long a number may be and
what becomes of an escaped surrogate without its partner. Each reader takes a front of the
text and returns what it denotes with the rest; `attempt` wants the whole text to be one value
and says why it is not read, and `read` leaves that out.
-/

namespace Noticeboard.Json

/-- What a text may hold beyond the grammar's own rules. -/
structure Dialect where
  /-- How many containers may be open at once, if there is a limit. -/
  nesting : Option Nat
  /-- Whether an empty container is opened like any other, and so counts. -/
  opensEmpty : Bool
  /-- How many digits a whole number may have. -/
  wholeDigits : Nat
  /-- How many digits a real may have before its point or exponent. -/
  realDigits : Option Nat
  /-- Whether a string may be garbled by a surrogate without its partner. -/
  admitsGarbled : Bool
  deriving DecidableEq, Repr

/-- Whether an empty container may stand where `room` further ones may be opened. -/
def Dialect.hasRoomForEmpty (d : Dialect) (room : Nat) : Bool := !d.opensEmpty || room ≠ 0

/-- JSON of any origin, with whole numbers of at most 4300 digits, reals of any length and garbled
strings, for a reader that can follow containers to a depth. -/
def Dialect.lenient (depth : Nat) : Dialect where
  nesting := some depth
  opensEmpty := true
  wholeDigits := Text.maxDigits
  realDigits := none
  admitsGarbled := true

/-- Why a text is not read. -/
inductive Fault
  | malformed
  /-- A container is opened where as many are open as may be. -/
  | tooDeep
  deriving DecidableEq, Repr

namespace Reader

/-- What is left after the white space of the grammar. -/
def skip : List Char → List Char
  | [] => []
  | c :: cs => if c = ' ' ∨ c = '\t' ∨ c = '\n' ∨ c = '\r' then skip cs else c :: cs

/-! ## Strings -/

/-- Where a string is read: between characters, after a backslash, or inside an escaped code
unit that still needs `left + 1` digits. -/
inductive Mode
  | plain
  | escape
  | unit (left value : Nat)
  deriving DecidableEq, Repr

/-- The character after a backslash that stands for one character. -/
def escaped? (c : Char) : Option Char :=
  if c = '"' ∨ c = '\\' ∨ c = '/' then some c
  else if c = 'b' then some '\x08'
  else if c = 'f' then some '\x0c'
  else if c = 'n' then some '\n'
  else if c = 'r' then some '\r'
  else if c = 't' then some '\t'
  else none

def isHigh (unit : Nat) : Bool := 0xd800 ≤ unit && unit < 0xdc00

def isLow (unit : Nat) : Bool := 0xdc00 ≤ unit && unit < 0xe000

/-- The character of a surrogate pair. -/
def joined (high low : Nat) : Char :=
  Char.ofNat (0x10000 + (high - 0xd800) * 0x400 + (low - 0xdc00))

/-- What stands for a surrogate without its partner. -/
def lone (mends : Bool) : Option (List Char) := if mends then some ['\ufffd'] else none

/-- What is written for a high surrogate that waits in vain for a low one. -/
def settle (mends : Bool) : Option Nat → Option (List Char)
  | none => some []
  | some _ => lone mends

/-- The characters that an escaped code unit completes, and the high surrogate that waits
after it. -/
def takeUnit (mends : Bool) (waiting : Option Nat) (unit : Nat) :
    Option (List Char × Option Nat) :=
  if isLow unit then
    match waiting with
    | some high => some ([joined high unit], none)
    | none => (lone mends).map (·, none)
  else
    match settle mends waiting with
    | none => none
    | some front =>
        if isHigh unit then some (front, some unit)
        else some (front ++ [Char.ofNat unit], none)

/-- Puts characters in front of a string that has been read. -/
def after (front : List Char) :
    Option (List Char × List Char) → Option (List Char × List Char)
  | none => none
  | some (body, rest) => some (front ++ body, rest)

/-- The characters of a string up to its closing quote, and the text after it. -/
def string (mends : Bool) : Mode → Option Nat → List Char → Option (List Char × List Char)
  | _, _, [] => none
  | .plain, waiting, c :: cs =>
      if c = '\\' then string mends .escape waiting cs
      else
        match settle mends waiting with
        | none => none
        | some front =>
            if c = '"' then some (front, cs)
            else if c.toNat < 0x20 then none
            else after (front ++ [c]) (string mends .plain none cs)
  | .escape, waiting, c :: cs =>
      if c = 'u' then string mends (.unit 3 0) waiting cs
      else
        match settle mends waiting, escaped? c with
        | some front, some d => after (front ++ [d]) (string mends .plain none cs)
        | _, _ => none
  | .unit left value, waiting, c :: cs =>
      match Text.hexDigit? c with
      | none => none
      | some d =>
          match left with
          | left + 1 => string mends (.unit left (value * 16 + d)) waiting cs
          | 0 =>
              match takeUnit mends waiting (value * 16 + d) with
              | none => none
              | some (front, waiting) => after front (string mends .plain waiting cs)

/-- A string without its opening quote. -/
def text (d : Dialect) (cs : List Char) : Option (Json × List Char) :=
  match string false .plain none cs with
  | some (body, rest) => some (.str (String.ofList body), rest)
  | none =>
      if d.admitsGarbled then
        (string true .plain none cs).map fun (body, rest) =>
          (.garbled (String.ofList body), rest)
      else none

/-! ## Numbers and words -/

/-- The digits at the front, and the rest. -/
def digits : List Char → List Nat × List Char
  | [] => ([], [])
  | c :: cs =>
      match Text.asciiDigit? c with
      | none => ([], c :: cs)
      | some d =>
          let (ds, rest) := digits cs
          (d :: ds, rest)

/-- The digits after a point, if there is one: none at all is an error. -/
def fraction : List Char → Option (Option (List Nat) × List Char)
  | '.' :: cs =>
      match digits cs with
      | ([], _) => none
      | (ds, rest) => some (some ds, rest)
  | cs => some (none, cs)

/-- The exponent, if there is one. -/
def exponent : List Char → Option (Option Int × List Char)
  | [] => some (none, [])
  | c :: cs =>
      if c = 'e' ∨ c = 'E' then
        let (negative, body) := Text.Numeral.sign cs
        match digits body with
        | ([], _) => none
        | (ds, rest) => some (some (Text.Numeral.signed negative (Text.Numeral.ofDigits ds)), rest)
      else some (none, c :: cs)

/-- A numeral without its sign. -/
def unsigned (d : Dialect) (negative : Bool) (cs : List Char) : Option (Json × List Char) :=
  match digits cs with
  | ([], _) | (0 :: _ :: _, _) => none
  | (whole, cs) =>
      match fraction cs with
      | none => none
      | some (part, cs) =>
          match exponent cs with
          | none => none
          | some (power, cs) =>
              match part, power with
              | none, none =>
                  if whole.length ≤ d.wholeDigits then
                    some (.int (Text.Numeral.signed negative (Text.Numeral.ofDigits whole)), cs)
                  else none
              | _, _ =>
                  if whole.length ≤ d.realDigits.getD whole.length then
                    let part := part.getD []
                    some (.real (.ofDecimal negative (Text.Numeral.ofDigits (whole ++ part))
                      (power.getD 0 - part.length)), cs)
                  else none

def number (d : Dialect) : List Char → Option (Json × List Char)
  | '-' :: cs => unsigned d true cs
  | cs => unsigned d false cs

/-- The text after `word`, if it begins with it. -/
def dropWord? : List Char → List Char → Option (List Char)
  | [], cs => some cs
  | _ :: _, [] => none
  | w :: ws, c :: cs => if w = c then dropWord? ws cs else none

/-- The values that are written as a word. -/
def words : List (List Char × Json) :=
  [(['n', 'u', 'l', 'l'], .null), (['t', 'r', 'u', 'e'], .bool true),
   (['f', 'a', 'l', 's', 'e'], .bool false), (['N', 'a', 'N'], .real .nan),
   (['I', 'n', 'f', 'i', 'n', 'i', 't', 'y'], .real (.infinite false)),
   (['-', 'I', 'n', 'f', 'i', 'n', 'i', 't', 'y'], .real (.infinite true))]

/-- A value that is neither string nor container. -/
def scalar (d : Dialect) (cs : List Char) : Option (Json × List Char) :=
  match words.findSome? fun w => (dropWord? w.1 cs).map (w.2, ·) with
  | some found => some found
  | none => number d cs

/-! ## Containers -/

/-- What has been found, if anything; otherwise the text is malformed. -/
def found {α : Type} : Option α → Except Fault α
  | some a => .ok a
  | none => .error .malformed

mutual

/-- One value. `room` is how many further containers may be opened; `fuel` bounds the calls and
is enough when it is at least twice the length of the text. -/
def value (d : Dialect) (fuel room : Nat) (cs : List Char) : Except Fault (Json × List Char) :=
  match fuel with
  | 0 => .error .malformed
  | fuel + 1 =>
      match cs with
      | '"' :: cs => found (text d cs)
      | '[' :: cs =>
          match skip cs, room with
          | ']' :: rest, room =>
              if d.hasRoomForEmpty room then .ok (.arr [], rest) else .error .tooDeep
          | _, 0 => .error .tooDeep
          | cs, room + 1 =>
              match elements d fuel room cs with
              | .error fault => .error fault
              | .ok (xs, rest) => .ok (.arr xs, rest)
      | '{' :: cs =>
          match skip cs, room with
          | '}' :: rest, room =>
              if d.hasRoomForEmpty room then .ok (.obj [], rest) else .error .tooDeep
          | _, 0 => .error .tooDeep
          | cs, room + 1 =>
              match members d fuel room cs with
              | .error fault => .error fault
              | .ok (ms, rest) => .ok (.obj ms, rest)
      | cs => found (scalar d cs)

/-- The elements of an array up to its closing bracket. -/
def elements (d : Dialect) (fuel room : Nat) (cs : List Char) :
    Except Fault (List Json × List Char) :=
  match fuel with
  | 0 => .error .malformed
  | fuel + 1 =>
      match value d fuel room cs with
      | .error fault => .error fault
      | .ok (x, cs) =>
          match skip cs with
          | ']' :: rest => .ok ([x], rest)
          | ',' :: cs =>
              match elements d fuel room (skip cs) with
              | .error fault => .error fault
              | .ok (xs, rest) => .ok (x :: xs, rest)
          | _ => .error .malformed

/-- The members of an object up to its closing brace. -/
def members (d : Dialect) (fuel room : Nat) (cs : List Char) :
    Except Fault (Members × List Char) :=
  match fuel with
  | 0 => .error .malformed
  | fuel + 1 =>
      match cs with
      | '"' :: cs =>
          match string d.admitsGarbled .plain none cs with
          | none => .error .malformed
          | some (name, cs) =>
              match skip cs with
              | ':' :: cs =>
                  match value d fuel room (skip cs) with
                  | .error fault => .error fault
                  | .ok (x, cs) =>
                      match skip cs with
                      | '}' :: rest => .ok ([(String.ofList name, x)], rest)
                      | ',' :: cs =>
                          match members d fuel room (skip cs) with
                          | .error fault => .error fault
                          | .ok (ms, rest) => .ok ((String.ofList name, x) :: ms, rest)
                      | _ => .error .malformed
              | _ => .error .malformed
      | _ => .error .malformed

end

/-- How many containers may be open at once in a text: without a limit, as many as the text has
characters. -/
def room (d : Dialect) (cs : List Char) : Nat := d.nesting.getD cs.length

end Reader

/-- The value that the whole text denotes, white space around it allowed, or why it is not
read. -/
def attempt (d : Dialect) (cs : List Char) : Except Fault Json :=
  match Reader.value d (2 * cs.length + 2) (Reader.room d cs) (Reader.skip cs) with
  | .error fault => .error fault
  | .ok (x, rest) => if Reader.skip rest = [] then .ok x else .error .malformed

/-- The value that the whole text denotes. -/
def read (d : Dialect) (cs : List Char) : Option Json := (attempt d cs).toOption

end Noticeboard.Json
