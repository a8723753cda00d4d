import Mathlib.Algebra.Group.Nat.Defs
import Noticeboard.Number.Int64
import Noticeboard.Proofs.Json.Completeness

/-!
Objects that no dialect is too narrow for. Where the members of an object are strings, truth values
and 64-bit integers, every text of it is read by every dialect that has room for one container and
for nineteen digits.
-/

namespace Noticeboard.Json

open Grammar

/-- A string, a truth value, or a 64-bit integer. -/
inductive Plain : Json → Prop
  | str (s : String) : Plain (.str s)
  | bool (b : Bool) : Plain (.bool b)
  | int {n : Int} (h : Int64.fits n) : Plain (.int n)

/-! ## The length of a numeral -/

theorem le_foldl_digits (ds : List Nat) (n : Nat) :
    n * 10 ^ ds.length ≤ ds.foldl (fun n d => n * 10 + d) n := by
  induction ds generalizing n with
  | nil => simp
  | cons k ds ih =>
      calc n * 10 ^ (ds.length + 1)
          = n * 10 * 10 ^ ds.length := by rw [Nat.pow_succ, Nat.mul_assoc, Nat.mul_comm 10]
        _ ≤ (n * 10 + k) * 10 ^ ds.length := Nat.mul_le_mul_right _ (Nat.le_add_right _ k)
        _ ≤ ds.foldl (fun n d => n * 10 + d) (n * 10 + k) := ih _

/-- A numeral without a leading zero is no longer than its number asks for. -/
theorem length_of_leading {ds : List Nat} {cs : List Char} (h : Leading ds cs) {width : Nat}
    (hwidth : 0 < width) (hsmall : Text.Numeral.ofDigits ds < 10 ^ width) : ds.length ≤ width := by
  obtain ⟨⟨hne, -, -⟩, hzero⟩ := h
  cases ds with
  | nil => exact absurd rfl hne
  | cons k ds =>
      cases k with
      | zero =>
          -- Only the numeral of zero begins with a zero.
          cases hzero rfl
          exact hwidth
      | succ k =>
          refine Nat.le_of_not_lt fun hlong => ?_
          have hpow : 10 ^ width ≤ 10 ^ ds.length :=
            Nat.pow_le_pow_right (by decide) (Nat.le_of_lt_succ hlong)
          have hvalue : (k + 1) * 10 ^ ds.length ≤ Text.Numeral.ofDigits ((k + 1) :: ds) := by
            simpa [Text.Numeral.ofDigits] using le_foldl_digits ds (k + 1)
          have hone : 10 ^ ds.length ≤ (k + 1) * 10 ^ ds.length :=
            Nat.le_mul_of_pos_left _ (Nat.succ_pos k)
          omega

/-! ## Other limits -/

variable {d d' : Dialect} {room room' : Nat} {x : Json} {ms : Json.Members} {cs : List Char}

theorem Plain.number (hx : Plain x) (hdigits : 19 ≤ d'.wholeDigits) (h : Number d x cs) :
    Number d' x cs := by
  cases h with
  | real => cases hx
  | @whole negative ds _ h _ =>
      have hsmall : Text.Numeral.ofDigits ds < 10 ^ 19 := by
        cases hx with
        | int hfits =>
            cases negative <;>
              simp [Int64.fits, Text.Numeral.signed, Int64.least, Int64.greatest] at hfits <;> omega
      exact .whole negative h (Nat.le_trans (length_of_leading h (by decide) hsmall) hdigits)

theorem Plain.value (hx : Plain x) (hdigits : 19 ≤ d'.wholeDigits) (h : Value d room x cs) :
    Value d' room' x cs := by
  cases h with
  | word h => exact .word h
  | number h => exact .number (hx.number hdigits h)
  | string h => exact .string h
  | noElements | elements | noMembers | members => cases hx

theorem members_of_plain (hms : ∀ m ∈ ms, Plain m.2) (hdigits : 19 ≤ d'.wholeDigits)
    (h : Grammar.Members d room ms cs) : Grammar.Members d' room' ms cs := by
  induction ms generalizing cs with
  | nil => cases h
  | cons m ms ih =>
      have hx := hms m List.mem_cons_self
      cases h with
      | last hname hv hw h hw' => exact .last hname hv hw (hx.value hdigits h) hw'
      | more hname hv hw h hw' hw'' hrest =>
          exact .more hname hv hw (hx.value hdigits h) hw' hw''
            (ih (fun m hm => hms m (List.mem_cons_of_mem _ hm)) hrest)

/-- Every text of an object with plain members is read. -/
theorem read_of_spells (hms : ∀ m ∈ ms, Plain m.2) (h : Spells (.obj ms) cs)
    (hdigits : 19 ≤ d.wholeDigits) (hroom : 0 < Reader.room d cs) : read d cs = some (.obj ms) := by
  obtain ⟨d', room, w, body, w', hw, hw', hbody, rfl⟩ := h
  refine read_of_value hw hw' ?_
  cases hbody with
  | word h => simp [Reader.words] at h
  | number h => cases h
  | noMembers _ hw => exact .noMembers (hasRoomForEmpty_of_pos hroom) hw
  | members hw h =>
      rw [← Nat.succ_pred_eq_of_pos hroom]
      exact .members hw (members_of_plain hms hdigits h)

end Noticeboard.Json
