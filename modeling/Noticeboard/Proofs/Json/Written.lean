import Noticeboard.Json.Printer
import Noticeboard.Proofs.Json.Members
import Noticeboard.Proofs.Json.Plain

/-!
Values come back from their texts. What is written for a value belongs to the grammar and is read as
that value, as long as no number in it is a real or too long, no object in it gives a name twice,
and its containers are not nested too deep.
-/

namespace Noticeboard.Json

open Grammar

/-- A value that comes back from its text: no reals and nothing garbled, whole numbers of a length
that is read, distinct names in every object, and containers that are nested at most so deep. -/
inductive Portable : Nat → Json → Prop
  | null {depth : Nat} : Portable depth .null
  | bool {depth : Nat} (b : Bool) : Portable depth (.bool b)
  | int {depth : Nat} {n : Int} (h : (Nat.toDigits 10 n.natAbs).length ≤ Text.maxDigits) :
      Portable depth (.int n)
  | str {depth : Nat} (s : String) : Portable depth (.str s)
  | arr {depth : Nat} {xs : List Json} (h : ∀ x ∈ xs, Portable depth x) :
      Portable (depth + 1) (.arr xs)
  | obj {depth : Nat} {ms : Members} (hnames : (ms.map Prod.fst).Nodup)
      (h : ∀ m ∈ ms, Portable depth m.2) : Portable (depth + 1) (.obj ms)

theorem Portable.mono {depth depth' : Nat} {x : Json} (h : Portable depth x)
    (hdepth : depth ≤ depth') : Portable depth' x := by
  induction h generalizing depth' with
  | null => exact .null
  | bool b => exact .bool b
  | int h => exact .int h
  | str s => exact .str s
  | arr _ ih =>
      obtain ⟨depth', rfl⟩ := Nat.exists_eq_add_one_of_ne_zero (Nat.ne_zero_of_lt hdepth)
      exact .arr fun x hx => ih x hx (Nat.le_of_succ_le_succ hdepth)
  | obj hnames _ ih =>
      obtain ⟨depth', rfl⟩ := Nat.exists_eq_add_one_of_ne_zero (Nat.ne_zero_of_lt hdepth)
      exact .obj hnames fun m hm => ih m hm (Nat.le_of_succ_le_succ hdepth)

namespace Printer

/-! ## Numbers -/

theorem leading_toDigits (n : Nat) :
    ∃ ds, Leading ds (Nat.toDigits 10 n) ∧ Text.Numeral.ofDigits ds = n := by
  induction n using Nat.strongRecOn with
  | ind n ih =>
      rw [Nat.toDigits_eq_if (by decide)]
      split
      · next hn =>
          refine ⟨[n], ⟨⟨by simp, by simpa using hn, rfl⟩, ?_⟩, ?_⟩
          · exact fun hhead => by cases hhead; rfl
          · simp [Text.Numeral.ofDigits]
      · next hn =>
          obtain ⟨ds, ⟨⟨hne, hsmall, hcs⟩, hzero⟩, hvalue⟩ := ih (n / 10) (by omega)
          have hlast : n % 10 < 10 := Nat.mod_lt n (by decide)
          refine ⟨ds ++ [n % 10], ⟨⟨by simp, ?_, by simp [hcs]⟩, ?_⟩, ?_⟩
          · exact List.forall_mem_append.mpr ⟨hsmall, by simpa using hlast⟩
          · intro hhead
            obtain ⟨k, tail, rfl⟩ := List.exists_cons_of_ne_nil hne
            have hnone : n / 10 = 0 := by
              rw [← hvalue, hzero hhead]
              rfl
            omega
          · rw [Text.Numeral.ofDigits, List.foldl_append, ← Text.Numeral.ofDigits, hvalue]
            simp only [List.foldl_cons, List.foldl_nil]
            omega

theorem length_toDigits_le {n width : Nat} (hwidth : 0 < width) (h : n < 10 ^ width) :
    (Nat.toDigits 10 n).length ≤ width := by
  obtain ⟨ds, hleading, hvalue⟩ := leading_toDigits n
  rw [hleading.1.2.2, List.length_map]
  exact length_of_leading hleading hwidth (hvalue ▸ h)

theorem number_integer {d : Dialect} {n : Int}
    (h : (Nat.toDigits 10 n.natAbs).length ≤ d.wholeDigits) : Number d (.int n) (integer n) := by
  obtain ⟨ds, hleading, hvalue⟩ := leading_toDigits n.natAbs
  have hlength : ds.length ≤ d.wholeDigits := by
    rwa [hleading.1.2.2, List.length_map] at h
  cases n with
  | ofNat n =>
      have hnumber := Number.whole (d := d) false hleading hlength
      rwa [hvalue] at hnumber
  | negSucc n =>
      have hnumber := Number.whole (d := d) true hleading hlength
      rwa [hvalue] at hnumber

/-! ## Strings -/

theorem hexDigit_hexDigit {k : Nat} (h : k < 16) : HexDigit k (Text.hexDigit k) := by
  rw [Text.hexDigit]
  by_cases hk : k < 10
  · rw [if_pos hk]
    exact .decimal hk
  · have hdigit := HexDigit.lower (n := k - 10) (by omega)
    rw [if_neg hk]
    rwa [Nat.sub_add_cancel (by omega)] at hdigit

theorem codeUnit_hexDigits {n : Nat} (h : n < 0x10000) :
    CodeUnit n ('\\' :: 'u' :: Text.hexDigits 4 n) := by
  have hunit := CodeUnit.mk (hexDigit_hexDigit (k := n / 16 / 16 / 16 % 16) (by omega))
    (hexDigit_hexDigit (k := n / 16 / 16 % 16) (by omega))
    (hexDigit_hexDigit (k := n / 16 % 16) (by omega)) (hexDigit_hexDigit (k := n % 16) (by omega))
  have hvalue : ((n / 16 / 16 / 16 % 16 * 16 + n / 16 / 16 % 16) * 16 + n / 16 % 16) * 16 + n % 16 =
      n := by
    omega
  rwa [hvalue] at hunit

theorem character_written (c : Char) : Character c (character c) := by
  have hvalid : c.toNat < 0xd800 ∨ 0xdfff < c.toNat ∧ c.toNat < 0x110000 := c.valid
  rw [character]
  split
  · next h => rcases h with rfl | rfl <;> exact .short (by decide)
  repeat' split
  all_goals try (subst_vars; exact .short (by decide))
  · next hquote _ _ _ _ _ hplain =>
      rw [not_or] at hquote
      exact .raw hquote.1 hquote.2 hplain.1
  · rw [units]
    split
    · next hsmall => simpa using Character.unit (codeUnit_hexDigits hsmall)
    · next hsmall =>
        have hpair := Character.pair (Nat.not_lt.mp hsmall)
          (codeUnit_hexDigits (n := 0xd800 + (c.toNat - 0x10000) / 0x400) (by omega))
          (codeUnit_hexDigits (n := 0xdc00 + (c.toNat - 0x10000) % 0x400) (by omega))
        simpa using hpair

theorem characters_written (cs : List Char) : Characters cs (cs.flatMap character) := by
  induction cs with
  | nil => exact .nil
  | cons c cs ih => exact .cons (character_written c) ih

theorem quoted_written (s : String) : Quoted s (string s) := .mk (characters_written s.toList)

/-! ## Values -/

variable {d : Dialect} {room : Nat}

theorem elements_written {xs : List Json} (hne : xs ≠ [])
    (h : ∀ x ∈ xs, Value d room x (value x)) : Elements d room xs (elements xs) := by
  induction xs with
  | nil => exact absurd rfl hne
  | cons x xs ih =>
      have hx := h x List.mem_cons_self
      cases xs with
      | nil => simpa [elements] using Elements.last hx blank_nil
      | cons y ys =>
          have hrest := ih (List.cons_ne_nil y ys) fun z hz => h z (List.mem_cons_of_mem x hz)
          exact .more hx blank_nil blank_nil hrest

theorem members_written {ms : Json.Members} (hne : ms ≠ [])
    (h : ∀ m ∈ ms, Value d room m.2 (value m.2)) : Grammar.Members d room ms (members ms) := by
  induction ms with
  | nil => exact absurd rfl hne
  | cons m ms ih =>
      obtain ⟨name, x⟩ := m
      have hx := h (name, x) List.mem_cons_self
      have hname := quoted_written name
      cases ms with
      | nil => simpa [members] using Members.last hname blank_nil blank_nil hx blank_nil
      | cons m ms =>
          have hrest := ih (List.cons_ne_nil m ms) fun z hz => h z (List.mem_cons_of_mem _ hz)
          exact .more hname blank_nil blank_nil hx blank_nil blank_nil hrest

/-- What is written for a value belongs to the grammar where its containers may be opened. -/
theorem value_written {depth : Nat} {x : Json} (hx : Portable depth x)
    (hdigits : Text.maxDigits ≤ d.wholeDigits) : Value d depth x (value x) := by
  induction hx with
  | null => exact .word (by simp [Reader.words, value])
  | bool b => cases b <;> exact .word (by simp [Reader.words, value])
  | int h => exact .number (number_integer (Nat.le_trans h hdigits))
  | str s => exact .string (quoted_written s)
  | @arr depth xs _ ih =>
      by_cases hxs : xs = []
      · subst hxs
        exact .noElements (hasRoomForEmpty_of_pos depth.succ_pos) blank_nil
      · exact .elements blank_nil (elements_written hxs ih)
  | @obj depth ms _ _ ih =>
      by_cases hms : ms = []
      · subst hms
        exact .noMembers (hasRoomForEmpty_of_pos depth.succ_pos) blank_nil
      · exact .members blank_nil (members_written hms ih)

end Printer

theorem attempt_written {depth : Nat} {x : Json} (hx : Portable depth x) :
    attempt (.lenient depth) (Printer.value x) = .ok x := by
  have hvalue := Printer.value_written (d := .lenient depth) hx (Nat.le_refl _)
  have hattempt := attempt_of_value (d := .lenient depth) blank_nil blank_nil hvalue
  rwa [List.nil_append, List.append_nil] at hattempt

/-! ## Repeated names -/

theorem settledElements_eq {xs : List Json} (h : ∀ x ∈ xs, settled x = x) :
    settledElements xs = xs := by
  induction xs with
  | nil => rfl
  | cons x xs ih =>
      rw [settledElements, h x List.mem_cons_self, ih fun y hy => h y (List.mem_cons_of_mem x hy)]

theorem settledMembers_eq {ms : Members} (h : ∀ m ∈ ms, settled m.2 = m.2) :
    settledMembers ms = ms := by
  induction ms with
  | nil => rfl
  | cons m ms ih =>
      rw [settledMembers, h m List.mem_cons_self, ih fun n hn => h n (List.mem_cons_of_mem m hn)]

theorem settled_of_portable {depth : Nat} {x : Json} (hx : Portable depth x) : settled x = x := by
  induction hx with
  | null | bool _ | int _ | str _ => rfl
  | arr _ ih => rw [settled, settledElements_eq ih]
  | obj hnames _ ih => rw [settled, settledMembers_eq ih, Members.settled_of_nodup hnames]

end Noticeboard.Json
