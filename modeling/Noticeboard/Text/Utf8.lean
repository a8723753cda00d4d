/-!
UTF-8. Encoding writes each character as one to four bytes. Decoding is one pass over the
bytes that yields a character, or nothing, for each well-formed sequence and for each longest
broken piece of one; the strict reading refuses a text with a broken piece and the lenient
one puts U+FFFD in its place.
-/

namespace Noticeboard.Text

abbrev Bytes := List UInt8

namespace Utf8

/-- A byte that continues a character, carrying the six lowest bits of `n`. -/
def continuation (n : Nat) : UInt8 := UInt8.ofNat (0x80 + n % 64)

def encodeChar (c : Char) : Bytes :=
  let n := c.toNat
  if n < 0x80 then [UInt8.ofNat n]
  else if n < 0x800 then [UInt8.ofNat (0xc0 + n / 64), continuation n]
  else if n < 0x10000 then
    [UInt8.ofNat (0xe0 + n / 4096), continuation (n / 64), continuation n]
  else
    [UInt8.ofNat (0xf0 + n / 262144), continuation (n / 4096), continuation (n / 64),
      continuation n]

def encodeChars (cs : List Char) : Bytes := cs.flatMap encodeChar

def encode (s : String) : Bytes := encodeChars s.toList

/-- Where the decoder stands: between characters, or inside one that still needs `owed + 1`
bytes, the next of them between `low` and `high`, after the bits gathered in `bits`. -/
inductive State
  | start
  | inside (owed bits low high : Nat)
  deriving DecidableEq, Repr

/-- What a byte between characters gives: a whole character or a broken piece, if it ends
one, and the state after it. The bounds on the second byte shut out overlong forms,
surrogates and everything above U+10FFFF. -/
def first (b : Nat) : List (Option Char) × State :=
  if b < 0x80 then ([some (Char.ofNat b)], .start)
  else if b < 0xc2 then ([none], .start)
  else if b < 0xe0 then ([], .inside 0 (b - 0xc0) 0x80 0xbf)
  else if b < 0xf0 then
    ([], .inside 1 (b - 0xe0) (if b = 0xe0 then 0xa0 else 0x80) (if b = 0xed then 0x9f else 0xbf))
  else if b < 0xf5 then
    ([], .inside 2 (b - 0xf0) (if b = 0xf0 then 0x90 else 0x80) (if b = 0xf4 then 0x8f else 0xbf))
  else ([none], .start)

/-- One byte. A byte that cannot continue the character at hand breaks it off and is read
again as the first byte of the next one. -/
def step : State → Nat → List (Option Char) × State
  | .start, b => first b
  | .inside owed bits low high, b =>
      if low ≤ b ∧ b ≤ high then
        let bits := bits * 64 + (b - 0x80)
        match owed with
        | 0 => ([some (Char.ofNat bits)], .start)
        | owed + 1 => ([], .inside owed bits 0x80 0xbf)
      else
        let (out, state) := first b
        (none :: out, state)

/-- The characters and broken pieces of a byte string, in order. -/
def scan : State → Bytes → List (Option Char)
  | .start, [] => []
  | .inside .., [] => [none]
  | state, b :: bs =>
      let (out, state) := step state b.toNat
      out ++ scan state bs

/-- All the characters, or nothing when one of them is broken. -/
def whole : List (Option Char) → Option (List Char)
  | [] => some []
  | none :: _ => none
  | some c :: rest => (whole rest).map (c :: ·)

/-- The text of a well-formed byte string. -/
def decode? (bs : Bytes) : Option (List Char) := whole (scan .start bs)

/-- The text of a byte string, with U+FFFD for each broken piece. -/
def decodeLenient (bs : Bytes) : List Char :=
  (scan .start bs).map (·.getD '\ufffd')

end Utf8

end Noticeboard.Text
