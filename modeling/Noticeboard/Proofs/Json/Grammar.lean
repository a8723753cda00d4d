import Noticeboard.Json.Reader

/-!
The grammar of JSON texts, told by what may be written for a value: the rules of RFC 8259, with
the words for the numbers that are none. A text of a value has no white space around it. How long
numbers may be is up to a dialect, and so is whether an empty container is opened like others;
`room` is how many containers may still be opened.
-/

namespace Noticeboard.Json.Grammar

def IsBlank (c : Char) : Prop := c = ' ' ∨ c = '\t' ∨ c = '\n' ∨ c = '\r'

def Blank (cs : List Char) : Prop := ∀ c ∈ cs, IsBlank c

theorem blank_nil : Blank [] := fun _ h => absurd h List.not_mem_nil

theorem Blank.append {cs cs' : List Char} (h : Blank cs) (h' : Blank cs') : Blank (cs ++ cs') :=
  List.forall_mem_append.mpr ⟨h, h'⟩

/-! ## Strings -/

/-- A hexadecimal digit for a number, in either letter case. -/
inductive HexDigit : Nat → Char → Prop
  | decimal {n : Nat} (h : n < 10) : HexDigit n (Char.ofNat ('0'.toNat + n))
  | lower {n : Nat} (h : n < 6) : HexDigit (n + 10) (Char.ofNat ('a'.toNat + n))
  | upper {n : Nat} (h : n < 6) : HexDigit (n + 10) (Char.ofNat ('A'.toNat + n))

/-- The escape of a code unit of UTF-16. -/
inductive CodeUnit : Nat → List Char → Prop
  | mk {p q r s : Nat} {a b c d : Char} (ha : HexDigit p a) (hb : HexDigit q b)
      (hc : HexDigit r c) (hd : HexDigit s d) :
      CodeUnit (((p * 16 + q) * 16 + r) * 16 + s) ['\\', 'u', a, b, c, d]

/-- The characters that have an escape of two characters, with the second of these. -/
def shorthands : List (Char × Char) :=
  [('"', '"'), ('\\', '\\'), ('/', '/'), ('\x08', 'b'), ('\x0c', 'f'), ('\n', 'n'), ('\r', 'r'),
   ('\t', 't')]

/-- What may be written for one character: itself, unless it has to be escaped, its shorthand, or
its code units. -/
inductive Character : Char → List Char → Prop
  | raw {c : Char} (hquote : c ≠ '"') (hslash : c ≠ '\\') (hcontrol : 0x20 ≤ c.toNat) :
      Character c [c]
  | short {c e : Char} (h : (c, e) ∈ shorthands) : Character c ['\\', e]
  | unit {c : Char} {cs : List Char} (h : CodeUnit c.toNat cs) : Character c cs
  | pair {c : Char} {high low : List Char} (hc : 0x10000 ≤ c.toNat)
      (hhigh : CodeUnit (0xd800 + (c.toNat - 0x10000) / 0x400) high)
      (hlow : CodeUnit (0xdc00 + (c.toNat - 0x10000) % 0x400) low) : Character c (high ++ low)

inductive Characters : List Char → List Char → Prop
  | nil : Characters [] []
  | cons {c : Char} {body front cs : List Char} (h : Character c front)
      (hrest : Characters body cs) : Characters (c :: body) (front ++ cs)

inductive Quoted : String → List Char → Prop
  | mk {s : String} {cs : List Char} (h : Characters s.toList cs) : Quoted s ('"' :: (cs ++ ['"']))

/-- Whether a character may stand for itself. -/
def isPlain (c : Char) : Bool := c ≠ '"' && c ≠ '\\' && 0x20 ≤ c.toNat

theorem characters_plain {body : List Char} (h : body.all isPlain) : Characters body body := by
  induction body with
  | nil => exact .nil
  | cons c body ih =>
      simp only [List.all_cons, isPlain, Bool.and_eq_true, decide_eq_true_eq] at h
      exact .cons (.raw h.1.1.1 h.1.1.2 h.1.2) (ih h.2)

theorem quoted_plain {s : String} (h : s.toList.all isPlain) :
    Quoted s ('"' :: (s.toList ++ ['"'])) :=
  .mk (characters_plain h)

/-! ## Numbers -/

def Digits (ds : List Nat) (cs : List Char) : Prop :=
  ds ≠ [] ∧ (∀ d ∈ ds, d < 10) ∧ cs = ds.map Nat.digitChar

/-- The digits of a whole number. No zero stands in front of others. -/
def Leading (ds : List Nat) (cs : List Char) : Prop :=
  Digits ds cs ∧ (ds.head? = some 0 → ds = [0])

def minus (negative : Bool) : List Char := if negative then ['-'] else []

/-- The digits after a point, if there is one. -/
inductive Fraction : Option (List Nat) → List Char → Prop
  | none : Fraction none []
  | some {ds : List Nat} {cs : List Char} (h : Digits ds cs) : Fraction (some ds) ('.' :: cs)

/-- The exponent, if there is one. -/
inductive Exponent : Option Int → List Char → Prop
  | none : Exponent none []
  | unsigned {e : Char} {ds : List Nat} {cs : List Char} (he : e = 'e' ∨ e = 'E')
      (h : Digits ds cs) : Exponent (some (Text.Numeral.ofDigits ds)) (e :: cs)
  | plus {e : Char} {ds : List Nat} {cs : List Char} (he : e = 'e' ∨ e = 'E')
      (h : Digits ds cs) : Exponent (some (Text.Numeral.ofDigits ds)) (e :: '+' :: cs)
  | minus {e : Char} {ds : List Nat} {cs : List Char} (he : e = 'e' ∨ e = 'E')
      (h : Digits ds cs) : Exponent (some (-(Text.Numeral.ofDigits ds : Int))) (e :: '-' :: cs)

/-- A number. It is whole if it has neither a point nor an exponent. -/
inductive Number (d : Dialect) : Json → List Char → Prop
  | whole (negative : Bool) {ds : List Nat} {cs : List Char} (h : Leading ds cs)
      (hlength : ds.length ≤ d.wholeDigits) :
      Number d (.int (Text.Numeral.signed negative (Text.Numeral.ofDigits ds)))
        (minus negative ++ cs)
  | real (negative : Bool) {ds : List Nat} {part : Option (List Nat)} {power : Option Int}
      {cs fraction exponent : List Char} (h : Leading ds cs)
      (hlength : ds.length ≤ d.realDigits.getD ds.length) (hpart : Fraction part fraction)
      (hpower : Exponent power exponent) (hreal : part.isSome ∨ power.isSome) :
      Number d
        (.real (.ofDecimal negative (Text.Numeral.ofDigits (ds ++ part.getD []))
          (power.getD 0 - (part.getD []).length)))
        (minus negative ++ (cs ++ (fraction ++ exponent)))

/-! ## Values -/

mutual

inductive Value (d : Dialect) : Nat → Json → List Char → Prop
  | word {room : Nat} {x : Json} {cs : List Char} (h : (cs, x) ∈ Reader.words) : Value d room x cs
  | number {room : Nat} {x : Json} {cs : List Char} (h : Number d x cs) : Value d room x cs
  | string {room : Nat} {s : String} {cs : List Char} (h : Quoted s cs) : Value d room (.str s) cs
  | noElements {room : Nat} {w : List Char} (hroom : d.hasRoomForEmpty room) (hw : Blank w) :
      Value d room (.arr []) ('[' :: (w ++ [']']))
  | elements {room : Nat} {xs : List Json} {w cs : List Char} (hw : Blank w)
      (h : Elements d room xs cs) : Value d (room + 1) (.arr xs) ('[' :: (w ++ (cs ++ [']'])))
  | noMembers {room : Nat} {w : List Char} (hroom : d.hasRoomForEmpty room) (hw : Blank w) :
      Value d room (.obj []) ('{' :: (w ++ ['}']))
  | members {room : Nat} {ms : Json.Members} {w cs : List Char} (hw : Blank w)
      (h : Members d room ms cs) : Value d (room + 1) (.obj ms) ('{' :: (w ++ (cs ++ ['}'])))

inductive Elements (d : Dialect) : Nat → List Json → List Char → Prop
  | last {room : Nat} {x : Json} {cs w : List Char} (h : Value d room x cs) (hw : Blank w) :
      Elements d room [x] (cs ++ w)
  | more {room : Nat} {x : Json} {xs : List Json} {cs w w' rest : List Char}
      (h : Value d room x cs) (hw : Blank w) (hw' : Blank w') (hrest : Elements d room xs rest) :
      Elements d room (x :: xs) (cs ++ (w ++ ',' :: (w' ++ rest)))

inductive Members (d : Dialect) : Nat → Json.Members → List Char → Prop
  | last {room : Nat} {name : String} {x : Json} {quoted cs v w w' : List Char}
      (hname : Quoted name quoted) (hv : Blank v) (hw : Blank w) (h : Value d room x cs)
      (hw' : Blank w') : Members d room [(name, x)] (quoted ++ (v ++ ':' :: (w ++ (cs ++ w'))))
  | more {room : Nat} {name : String} {x : Json} {ms : Json.Members}
      {quoted cs v w w' w'' rest : List Char} (hname : Quoted name quoted) (hv : Blank v)
      (hw : Blank w) (h : Value d room x cs) (hw' : Blank w') (hw'' : Blank w'')
      (hrest : Members d room ms rest) :
      Members d room ((name, x) :: ms)
        (quoted ++ (v ++ ':' :: (w ++ (cs ++ (w' ++ ',' :: (w'' ++ rest))))))

end

theorem hasRoomForEmpty_of_pos {d : Dialect} {room : Nat} (h : 0 < room) :
    d.hasRoomForEmpty room = true := by
  simp [Dialect.hasRoomForEmpty, Nat.ne_of_gt h]

theorem hasRoomForEmpty_mono {d : Dialect} {room room' : Nat} (h : d.hasRoomForEmpty room = true)
    (hroom : room ≤ room') : d.hasRoomForEmpty room' = true := by
  simp only [Dialect.hasRoomForEmpty, Bool.or_eq_true, decide_eq_true_eq] at h ⊢
  exact h.imp_right fun h => by omega

-- What may be written with some room may be written with more. The induction is on the derivations,
-- of which those of values, elements and members contain one another.

mutual

theorem Value.mono {d : Dialect} {room room' : Nat} {x : Json} {cs : List Char}
    (h : Value d room x cs) (hroom : room ≤ room') : Value d room' x cs := by
  cases h with
  | word h => exact .word h
  | number h => exact .number h
  | string h => exact .string h
  | noElements hempty hw => exact .noElements (hasRoomForEmpty_mono hempty hroom) hw
  | noMembers hempty hw => exact .noMembers (hasRoomForEmpty_mono hempty hroom) hw
  | elements hw h =>
      obtain ⟨room', rfl⟩ := Nat.exists_eq_add_one_of_ne_zero (Nat.ne_zero_of_lt hroom)
      exact .elements hw (h.mono (Nat.le_of_succ_le_succ hroom))
  | members hw h =>
      obtain ⟨room', rfl⟩ := Nat.exists_eq_add_one_of_ne_zero (Nat.ne_zero_of_lt hroom)
      exact .members hw (h.mono (Nat.le_of_succ_le_succ hroom))

theorem Elements.mono {d : Dialect} {room room' : Nat} {xs : List Json} {cs : List Char}
    (h : Elements d room xs cs) (hroom : room ≤ room') : Elements d room' xs cs := by
  cases h with
  | last h hw => exact .last (h.mono hroom) hw
  | more h hw hw' hrest => exact .more (h.mono hroom) hw hw' (hrest.mono hroom)

theorem Members.mono {d : Dialect} {room room' : Nat} {ms : Json.Members} {cs : List Char}
    (h : Members d room ms cs) (hroom : room ≤ room') : Members d room' ms cs := by
  cases h with
  | last hname hv hw h hw' => exact .last hname hv hw (h.mono hroom) hw'
  | more hname hv hw h hw' hw'' hrest =>
      exact .more hname hv hw (h.mono hroom) hw' hw'' (hrest.mono hroom)

end

/-- Whether a text is JSON for a value, with white space around it. No dialect limits it. -/
def Spells (x : Json) (cs : List Char) : Prop :=
  ∃ (d : Dialect) (room : Nat) (w body w' : List Char),
    Blank w ∧ Blank w' ∧ Value d room x body ∧ cs = w ++ (body ++ w')

end Noticeboard.Json.Grammar
