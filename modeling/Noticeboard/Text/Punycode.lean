/-!
Punycode: the spelling of a text in ASCII. What the text has in ASCII comes first. The other
characters follow from the lowest code point to the highest, each as the number of states that
are passed over on the way to it, where a state is a code point and a place to put it. The
numbers are written in digits whose weights follow the numbers before.
-/

namespace Noticeboard.Text.Punycode

def isBasic (c : Char) : Bool := c.toNat < 0x80

/-! ## Numbers -/

def digit (n : Nat) : Char :=
  Char.ofNat (if n < 26 then 'a'.toNat + n else '0'.toNat + (n - 26))

def digit? (c : Char) : Option Nat :=
  if 'a' ≤ c ∧ c ≤ 'z' then some (c.toNat - 'a'.toNat)
  else if 'A' ≤ c ∧ c ≤ 'Z' then some (c.toNat - 'A'.toNat)
  else if '0' ≤ c ∧ c ≤ '9' then some (c.toNat - '0'.toNat + 26)
  else none

/-- The digits from which on a number goes on after place `k`, which counts in steps of 36. -/
def threshold (bias k : Nat) : Nat := min 26 (max 1 (k - bias))

theorem threshold_pos (bias k : Nat) : 0 < threshold bias k := by
  unfold threshold
  omega

def digits (bias k n : Nat) : List Char :=
  let t := threshold bias k
  if n < t then [digit n]
  else digit (t + (n - t) % (36 - t)) :: digits bias (k + 36) ((n - t) / (36 - t))
termination_by n
decreasing_by
  have positive := threshold_pos bias k
  exact Nat.lt_of_le_of_lt (Nat.div_le_self _ _) (by omega)

/-- The bias that suits numbers of the size of `n`, `k` and more. -/
def settle (k n : Nat) : Nat :=
  if 455 < n then settle (k + 36) (n / 35) else k + 36 * n / (n + 38)
termination_by n
decreasing_by exact Nat.div_lt_self (by omega) (by omega)

/-- The bias after a number with which `count` characters are spelled. -/
def adapted (isFirst : Bool) (count n : Nat) : Nat :=
  let n := if isFirst then n / 700 else n / 2
  settle 0 (n + n / count)

/-! ## Spelling -/

/-- How far the spelling has come: what is written, the states passed over since, the bias, and
how many characters are spelled. -/
structure Progress where
  written : List Char
  passed : Nat
  bias : Nat
  count : Nat

/-- Goes on by one character of the text in the round of a code point. -/
def Progress.step (basics n : Nat) (p : Progress) (c : Char) : Progress :=
  if c.toNat < n then { p with passed := p.passed + 1 }
  else if c.toNat = n then
    { written := p.written ++ digits p.bias 36 p.passed
      passed := 0
      bias := adapted (p.count = basics) (p.count + 1) p.passed
      count := p.count + 1 }
  else p

/-- The rounds of the code points that are left, in order; `n` is the lowest that may come. -/
def rounds (text : List Char) (basics n : Nat) (p : Progress) : List Nat → Progress
  | [] => p
  | m :: rest =>
      let p := { p with passed := p.passed + (m - n) * (p.count + 1) }
      let p := text.foldl (Progress.step basics m) p
      rounds text basics (m + 1) { p with passed := p.passed + 1 } rest

def encode (cs : List Char) : List Char :=
  let basic := cs.filter isBasic
  let others := ((cs.filter (!isBasic ·)).map Char.toNat).mergeSort.eraseDups
  let start : Progress := { written := [], passed := 0, bias := 72, count := basic.length }
  basic ++ (if basic.isEmpty then [] else ['-']) ++
    (rounds cs basic.length 0x80 start others).written

/-! ## Reading -/

/-- How far the reading has come: the text so far, the code point and the place of the next
state, the bias, whether any number is read, and of the number that is being read the place of
its next digit, the weight of that digit, and the sum of those before. -/
structure Reading where
  text : List Char
  code : Nat
  place : Nat
  bias : Nat
  isFirst : Bool
  k : Nat
  weight : Nat
  sum : Nat

/-- The character of a code point; a surrogate, which is none, is replaced. -/
def character (n : Nat) : Char := if 0xd800 ≤ n ∧ n < 0xe000 then '\ufffd' else Char.ofNat n

/-- The reading after the last digit of a number, which tells how many states to pass over. A
state beyond the last code point is none. -/
def Reading.insert? (r : Reading) (passed : Nat) : Option Reading :=
  let count := r.text.length + 1
  let code := r.code + (r.place + passed) / count
  let place := (r.place + passed) % count
  if code < 0x110000 then
    some { text := r.text.take place ++ character code :: r.text.drop place
           code, place := place + 1, bias := adapted r.isFirst count passed, isFirst := false
           k := 36, weight := 1, sum := 0 }
  else none

def readFrom (r : Reading) : List Char → Option (List Char)
  | [] => if r.k = 36 then some r.text else none
  | c :: cs =>
      match digit? c with
      | none => none
      | some d =>
          let t := threshold r.bias r.k
          let sum := r.sum + d * r.weight
          if d < t then
            match r.insert? sum with
            | some r => readFrom r cs
            | none => none
          else readFrom { r with k := r.k + 36, weight := r.weight * (36 - t), sum } cs

/-- What stands before the last hyphen, which may be missing, and after it. -/
def cutBasic : List Char → Option (List Char) × List Char
  | [] => (none, [])
  | c :: cs =>
      match cutBasic cs with
      | (some front, rest) => (some (c :: front), rest)
      | (none, rest) => if c = '-' then (some [], rest) else (none, c :: rest)

def decode? (cs : List Char) : Option (List Char) :=
  let (basic, numbers) := cutBasic cs
  readFrom
    { text := basic.getD [], code := 0x80, place := 0, bias := 72, isFirst := true, k := 36
      weight := 1, sum := 0 }
    numbers

end Noticeboard.Text.Punycode
