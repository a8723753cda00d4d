/-!
Identifiers for new notices. A draw of 128 bits is written in base 32 after a tag that tells
what kind of thing the identifier names.
-/

namespace Noticeboard

abbrev Draw := BitVec 128

/-- The draw of 16 random bytes, the highest first. -/
def Draw.ofBytes (bytes : List UInt8) : Draw :=
  BitVec.ofNat 128 (bytes.foldl (fun n b => n * 256 + b.toNat) 0)

namespace Id

/-- The digits of base 32, chosen to be easy to read aloud. -/
def alphabet : List Char :=
  ['y', 'b', 'n', 'd', 'r', 'f', 'g', '8', 'e', 'j', 'k', 'm', 'c', 'p', 'q', 'x',
   'o', 't', '1', 'u', 'w', 'i', 's', 'z', 'a', '3', '4', '5', 'h', '7', '6', '9']

def letter (n : Nat) : Char := alphabet.getD n 'y'

/-- The lowest `width` digits of `n` in base 32, the highest first. -/
def digits : Nat → Nat → List Nat
  | 0, _ => []
  | width + 1, n => digits width (n / 32) ++ [n % 32]

def noticeTag : String := "b"

/-- The identifier for a draw. Twenty-six digits hold 130 bits, so two zero bits follow the
128 that were drawn. -/
def ofDraw (tag : String) (draw : Draw) : String :=
  tag ++ String.ofList ((digits 26 (4 * draw.toNat)).map letter)

end Id

end Noticeboard
