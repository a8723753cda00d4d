import Noticeboard.Text.Case
import Noticeboard.Text.Composed
import Noticeboard.Text.Direction
import Noticeboard.Text.Letter
import Noticeboard.Text.Percent
import Noticeboard.Text.Punycode
import Noticeboard.Text.Script

/-!
Names of hosts outside ASCII. Such a name is sent in ASCII: each of its labels that has other
characters is spelled in Punycode, with a mark in front. A label has to be in composed form,
may only have characters of names, some of them only beside others, and may not mix scripts of
both directions.
-/

namespace Noticeboard.Http.International

/-- What is wrong with a name. -/
inductive Fault
  /-- A label is empty, too long, misspelled, not in composed form, begins with a mark, or has
  hyphens or joiners where it may not. -/
  | malformed
  /-- A label has a character that no name has. -/
  | character
  /-- A character stands beside others than it may. -/
  | context
  /-- A label mixes directions. -/
  | direction
  deriving DecidableEq, Repr

/-! ## Characters -/

/-- Whether a text goes on with a letter of the runs, what letters join across aside. -/
def joins (runs : List Text.Run) (cs : List Char) : Bool :=
  (cs.dropWhile Text.isTransparent).head?.any (Text.Run.anyHas runs)

/-- Whether a text goes on with a mark that takes the vowel from a letter. -/
def isVirama (cs : List Char) : Bool :=
  cs.head?.any fun c => Text.markClass c = Text.viramaClass

/-- A character that has letters beside it join, or keeps them from it. -/
def isJoiner (c : Char) : Bool := c = '\u200c' || c = '\u200d'

/-- Whether a joiner stands where it tells something; `before` holds what stands before it, the
last character first. After a letter without its vowel both do, and between letters that join
the one that keeps them from it. -/
def joinerFits (before : List Char) (c : Char) (after : List Char) : Bool :=
  before.head?.all (Text.directionOf · ≠ .unknown) &&
    (isVirama before ||
      c = '\u200c' && joins Text.joiningAfterRuns before && joins Text.joiningBeforeRuns after)

def isArabicDigit (c : Char) : Bool := '\u0660' ≤ c && c ≤ '\u0669'

def isPersianDigit (c : Char) : Bool := '\u06f0' ≤ c && c ≤ '\u06f9'

/-- Whether another character that asks for some beside it has them, if it does ask. -/
def fits? (before : List Char) (c : Char) (after : List Char) : Option Bool :=
  if c = '\u00b7' then some (before.head? = some 'l' && after.head? = some 'l')
  else if c = '\u0375' then some (after.head?.any (Text.Run.anyHas Text.greekRuns))
  else if c = '\u05f3' ∨ c = '\u05f4' then
    some (before.head?.any (Text.Run.anyHas Text.hebrewRuns))
  else if c = '\u30fb' then some ((before ++ after).any (Text.Run.anyHas Text.japaneseRuns))
  else if isArabicDigit c then some (!(before ++ after).any isPersianDigit)
  else if isPersianDigit c then some (!(before ++ after).any isArabicDigit)
  else none

def checkCharacters (before : List Char) : List Char → Except Fault Unit
  | [] => .ok ()
  | c :: cs =>
      if Text.isNameCharacter c then checkCharacters (c :: before) cs
      else if isJoiner c then
        if joinerFits before c cs then checkCharacters (c :: before) cs
        else .error .malformed
      else
        match fits? before c cs with
        | some true => checkCharacters (c :: before) cs
        | some false => .error .context
        | none => .error .character

/-- Whether a label keeps to one direction, that of each character being known. One with
characters to the left begins with a letter to the left and has none to the right, ends in a
letter or a digit, marks aside, and has digits of one kind. -/
def keepsDirection (label : List Char) : Bool :=
  let directions := label.map Text.directionOf
  if directions.contains .unknown then false
  else if directions.contains .leftward || directions.contains .arabic then
    directions.head? = some .leftward && !directions.contains .rightward &&
      (directions.reverse.dropWhile (· = .attached)).head? ≠ some .neutral &&
      !(directions.contains .european && directions.contains .arabic)
  else true

/-! ## Labels -/

/-- What stands in front of a label that is spelled in Punycode. -/
def mark : List Char := "xn--".toList

/-- The most characters of a label, and of a name with a point at its end. -/
def labelLength : Nat := 63
def nameLength : Nat := 254

/-- Whether hyphens stand only where they may: not at an end, and not as the third and fourth
character. -/
def isHyphened (label : List Char) : Bool :=
  label.head? ≠ some '-' && label.getLast? ≠ some '-' && (label.drop 2).take 2 ≠ ['-', '-']

def checkPlain (label : List Char) : Except Fault Unit :=
  if label.isEmpty || nameLength < label.length || !Text.Composed.isComposed label ||
      !isHyphened label || label.head?.any Text.isMark then .error .malformed
  else
    match checkCharacters [] label with
    | .error fault => .error fault
    | .ok () => if keepsDirection label then .ok () else .error .direction

def checkBasic (label : List Char) : Except Fault Unit :=
  if label.take mark.length = mark then
    let body := label.drop mark.length
    if body.isEmpty || body.getLast? = some '-' then .error .malformed
    else
      match Text.Punycode.decode? body with
      | some plain => checkPlain plain
      | none => .error .malformed
  else checkPlain label

def encodeLabel (label : List Char) : Except Fault (List Char) := do
  let coded ←
    if label.all Text.Punycode.isBasic then do
      checkBasic label
      pure label
    else do
      checkPlain label
      pure (mark ++ Text.Punycode.encode label)
  if coded.length ≤ labelLength then return coded else throw .malformed

/-! ## Names -/

def isPoint (c : Char) : Bool := c = '.' || c = '\u3002' || c = '\uff0e' || c = '\uff61'

def labels (name : List Char) : List (List Char) × Bool :=
  let parts := Text.Percent.pieces '.' (name.map fun c => if isPoint c then '.' else c)
  if parts.getLast? = some [] then (parts.dropLast, true) else (parts, false)

def check (name : List Char) : Except Fault Unit :=
  if nameLength < name.length then .error .malformed
  else (labels name).1.forM checkBasic

/-- A name in lower case and in ASCII. A point at its end stays. -/
def encode (cs : List Char) : Except Fault (List Char) := do
  let name := Text.lower cs
  if nameLength < name.length then throw .malformed
  let (parts, ended) := labels name
  let coded ← parts.mapM encodeLabel
  let name := ['.'].intercalate (if ended then coded ++ [[]] else coded)
  if name.length ≤ (if ended then nameLength else nameLength - 1) then return name
  else throw .malformed

end Noticeboard.Http.International
