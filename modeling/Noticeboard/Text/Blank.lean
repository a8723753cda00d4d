/-!
Blank characters. Two sets are in use: the White_Space property, and the same set with the
four information separators, which is what names and lines are trimmed of.
-/

namespace Noticeboard.Text

def isWhite (c : Char) : Bool :=
  let n := c.toNat
  (0x9 ≤ n && n ≤ 0xd) || n == 0x20 || n == 0x85 || n == 0xa0 || n == 0x1680 ||
    (0x2000 ≤ n && n ≤ 0x200a) || n == 0x2028 || n == 0x2029 || n == 0x202f ||
    n == 0x205f || n == 0x3000

/-- White space and the information separators U+001C to U+001F. -/
def isBlank (c : Char) : Bool :=
  isWhite c || (0x1c ≤ c.toNat && c.toNat ≤ 0x1f)

/-- The longest front of `cs` outside which every character satisfies `p`. -/
def dropEndWhile (p : Char → Bool) (cs : List Char) : List Char :=
  (cs.reverse.dropWhile p).reverse

/-- `cs` without the characters at either end that satisfy `p`. -/
def trim (p : Char → Bool) (cs : List Char) : List Char :=
  dropEndWhile p (cs.dropWhile p)

/-! ## Trimming -/

section Trimming

variable {p : Char → Bool} {front core back : List Char}

theorem dropWhile_of_head (h : ∀ c ∈ core.head?, p c = false) : core.dropWhile p = core := by
  cases core with
  | nil => rfl
  | cons c cs => exact List.dropWhile_cons_of_neg (Bool.eq_false_iff.mp (h c rfl))

theorem dropWhile_front (hfront : ∀ c ∈ front, p c = true) (h : ∀ c ∈ core.head?, p c = false) :
    (front ++ core).dropWhile p = core := by
  rw [List.dropWhile_append_of_pos hfront, dropWhile_of_head h]

theorem dropEndWhile_back (hback : ∀ c ∈ back, p c = true)
    (h : ∀ c ∈ core.getLast?, p c = false) : dropEndWhile p (core ++ back) = core := by
  rw [dropEndWhile, List.reverse_append, dropWhile_front, List.reverse_reverse]
  · exact fun c hc => hback c (List.mem_reverse.mp hc)
  · rwa [List.head?_reverse]

/-- What is trimmed off is told by what is left, which begins and ends with something else. -/
theorem trim_append (hfront : ∀ c ∈ front, p c = true) (hback : ∀ c ∈ back, p c = true)
    (hhead : ∀ c ∈ core.head?, p c = false) (hlast : ∀ c ∈ core.getLast?, p c = false) :
    trim p (front ++ (core ++ back)) = core := by
  rw [trim, List.dropWhile_append_of_pos hfront]
  cases core with
  | nil =>
      have hnil : (back ++ []).dropWhile p = [] := dropWhile_front hback nofun
      rw [List.nil_append, ← List.append_nil back, hnil]
      rfl
  | cons c cs =>
      rw [dropWhile_of_head, dropEndWhile_back hback hlast]
      exact hhead

theorem trim_split (p : Char → Bool) (cs : List Char) :
    ∃ front back, (∀ c ∈ front, p c = true) ∧ (∀ c ∈ back, p c = true) ∧
      cs = front ++ (trim p cs ++ back) := by
  refine ⟨cs.takeWhile p, ((cs.dropWhile p).reverse.takeWhile p).reverse,
    fun c hc => List.all_eq_true.mp List.all_takeWhile c hc,
    fun c hc => List.all_eq_true.mp List.all_takeWhile c (List.mem_reverse.mp hc), ?_⟩
  rw [trim, dropEndWhile, ← List.reverse_append, List.takeWhile_append_dropWhile,
    List.reverse_reverse, List.takeWhile_append_dropWhile]

end Trimming

def strip (s : String) : String :=
  String.ofList (trim isBlank s.toList)

end Noticeboard.Text
