import Noticeboard.Text.Utf8

/-!
Base64 with the address-safe alphabet. Writing pads nothing. Reading is tolerant: it takes
both alphabets, passes over bytes that belong to neither, and lets padding end the text as
soon as there is enough of it; what it refuses is a text that stops inside a group.
-/

namespace Noticeboard.Base64

open Text (Bytes)

def digit (n : Nat) : Char :=
  if n < 26 then Char.ofNat ('A'.toNat + n)
  else if n < 52 then Char.ofNat ('a'.toNat + (n - 26))
  else if n < 62 then Char.ofNat ('0'.toNat + (n - 52))
  else if n = 62 then '-'
  else '_'

def value? (b : UInt8) : Option Nat :=
  let n := b.toNat
  if 65 ≤ n ∧ n ≤ 90 then some (n - 65)
  else if 97 ≤ n ∧ n ≤ 122 then some (n - 97 + 26)
  else if 48 ≤ n ∧ n ≤ 57 then some (n - 48 + 52)
  else if n = 45 ∨ n = 43 then some 62
  else if n = 95 ∨ n = 47 then some 63
  else none

/-- Three bytes to four digits; one or two bytes at the end to two or three digits. -/
def encode : Bytes → List Char
  | [] => []
  | [a] => [digit (a.toNat / 4), digit (a.toNat % 4 * 16)]
  | [a, b] =>
      [digit (a.toNat / 4), digit (a.toNat % 4 * 16 + b.toNat / 16), digit (b.toNat % 16 * 4)]
  | a :: b :: c :: rest =>
      digit (a.toNat / 4) :: digit (a.toNat % 4 * 16 + b.toNat / 16) ::
        digit (b.toNat % 16 * 4 + c.toNat / 64) :: digit (c.toNat % 64) :: encode rest

/-- The bits of a group that no byte has taken up yet. In the middle of a group one padding
sign may already have been seen. -/
inductive Held
  | nothing
  | six (bits : Nat)
  | four (bits : Nat) (padded : Bool)
  | two (bits : Nat)
  deriving DecidableEq, Repr

/-- The padding sign. -/
def pad : UInt8 := 61

def decodeFrom : Held → Bytes → Option Bytes
  | .nothing, [] => some []
  | _, [] => none
  | held, b :: bs =>
      if b = pad then
        match held with
        | .four bits false => decodeFrom (.four bits true) bs
        | .four _ true | .two _ => some []
        | held => decodeFrom held bs
      else
        match value? b with
        | none => decodeFrom held bs
        | some v =>
            match held with
            | .nothing => decodeFrom (.six v) bs
            | .six bits =>
                (decodeFrom (.four (v % 16) false) bs).map (UInt8.ofNat (bits * 4 + v / 16) :: ·)
            | .four bits _ =>
                (decodeFrom (.two (v % 4)) bs).map (UInt8.ofNat (bits * 16 + v / 4) :: ·)
            | .two bits => (decodeFrom .nothing bs).map (UInt8.ofNat (bits * 64 + v) :: ·)

/-- The bytes of a text that is first padded to a multiple of four. -/
def decode? (text : Bytes) : Option Bytes :=
  decodeFrom .nothing (text ++ List.replicate ((4 - text.length % 4) % 4) pad)

end Noticeboard.Base64
