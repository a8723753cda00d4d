import Noticeboard.Text.Digit
import Noticeboard.Text.Utf8

/-!
Percent coding. A percent sign with two hexadecimal digits stands for a byte, and the bytes
of a text are read as UTF-8. Form coding also writes a space as a plus sign and joins
`name=value` pairs with ampersands.
-/

namespace Noticeboard.Text.Percent

/-- The bytes a percent-coded text stands for; a percent sign without two hexadecimal digits
after it stands for itself. -/
def bytes : List Char → Bytes
  | [] => []
  | '%' :: high :: low :: rest =>
      match hexDigit? high, hexDigit? low with
      | some h, some l => UInt8.ofNat (h * 16 + l) :: bytes rest
      | _, _ => UInt8.ofNat '%'.toNat :: bytes (high :: low :: rest)
  | c :: cs => Utf8.encodeChar c ++ bytes cs

def decode (cs : List Char) : List Char := Utf8.decodeLenient (bytes cs)

def decodeForm (cs : List Char) : List Char :=
  decode (cs.map fun c => if c = '+' then ' ' else c)

/-- `cs` up to the first `mark`, and what follows that mark if there is one. -/
def cutAt (mark : Char) : List Char → List Char × Option (List Char)
  | [] => ([], none)
  | c :: cs =>
      if c = mark then ([], some cs)
      else
        let (front, rest) := cutAt mark cs
        (c :: front, rest)

def pieces (mark : Char) : List Char → List (List Char)
  | [] => [[]]
  | c :: cs =>
      if c = mark then [] :: pieces mark cs
      else
        match pieces mark cs with
        | [] => [[c]]
        | piece :: rest => (c :: piece) :: rest

/-- The pairs of a form, in order. Empty pieces are skipped and a name without an equals
sign has the empty value. -/
def form (cs : List Char) : List (String × String) :=
  ((pieces '&' cs).filter (!·.isEmpty)).map fun piece =>
    let (name, value) := cutAt '=' piece
    (String.ofList (decodeForm name), String.ofList (decodeForm (value.getD [])))

def formValue? (name : String) (cs : List Char) : Option String :=
  ((form cs).reverse.find? (·.1 = name)).map (·.2)

def keptInAddress (c : Char) : Bool :=
  c.isAlphanum || "-._~:/%#?=@[]!$&'()*+,;".toList.contains c

def encodeByte (b : UInt8) : List Char :=
  '%' :: (hexDigits 2 b.toNat).map Char.toUpper

/-- A text with every character percent-coded but those that `kept` names. -/
def encodeExcept (kept : Char → Bool) (cs : List Char) : List Char :=
  cs.flatMap fun c => if kept c then [c] else (Utf8.encodeChar c).flatMap encodeByte

/-- An address with every character percent-coded that an address does not keep. -/
def encodeAddress (s : String) : String :=
  String.ofList (encodeExcept keptInAddress s.toList)

end Noticeboard.Text.Percent
