import Noticeboard.Proofs.Json.Completeness

/-!
The limits of a reader. One that can follow containers deeper reads a text like one that cannot,
unless the text is nested too deep for the latter: so a text has one value, however deep it is read.
A text with too many brackets at its front is nested too deep, and one with a whole number of too
many digits is malformed.
-/

namespace Noticeboard.Json

open Grammar

namespace Reader

variable {d : Dialect} {fuel room room' : Nat} {cs : List Char}

/-! ## Opening a container -/

theorem value_closed_array {rest : List Char} (h : skip cs = ']' :: rest) :
    value d (fuel + 1) room ('[' :: cs) =
      if d.hasRoomForEmpty room then .ok (.arr [], rest) else .error .tooDeep := by
  unfold value
  simp only [h]

theorem value_closed_object {rest : List Char} (h : skip cs = '}' :: rest) :
    value d (fuel + 1) room ('{' :: cs) =
      if d.hasRoomForEmpty room then .ok (.obj [], rest) else .error .tooDeep := by
  unfold value
  simp only [h]

theorem value_array (h : ∀ rest, skip cs ≠ ']' :: rest) :
    value d (fuel + 1) (room + 1) ('[' :: cs) =
      (elements d fuel room (skip cs)).map fun (xs, rest) => (.arr xs, rest) := by
  unfold value
  simp only
  cases elements d fuel room (skip cs) <;> rfl

theorem value_object (h : ∀ rest, skip cs ≠ '}' :: rest) :
    value d (fuel + 1) (room + 1) ('{' :: cs) =
      (members d fuel room (skip cs)).map fun (ms, rest) => (.obj ms, rest) := by
  unfold value
  simp only
  cases members d fuel room (skip cs) <;> rfl

theorem value_full_array (h : ∀ rest, skip cs ≠ ']' :: rest) :
    value d (fuel + 1) 0 ('[' :: cs) = .error .tooDeep := by
  unfold value
  simp only

theorem value_full_object (h : ∀ rest, skip cs ≠ '}' :: rest) :
    value d (fuel + 1) 0 ('{' :: cs) = .error .tooDeep := by
  unfold value
  simp only

/-! ## More room -/

/-- Readers with a given amount of fuel that do not give up do not fare differently where there is
more room, whatever the nesting that the dialect allows at first. -/
structure DeepensAt (d : Dialect) (nesting : Option Nat) (fuel : Nat) : Prop where
  value {room room' : Nat} {cs : List Char} (hroom : room ≤ room') :
    Reader.value d fuel room cs ≠ .error .tooDeep →
      Reader.value { d with nesting } fuel room' cs = Reader.value d fuel room cs
  elements {room room' : Nat} {cs : List Char} (hroom : room ≤ room') :
    Reader.elements d fuel room cs ≠ .error .tooDeep →
      Reader.elements { d with nesting } fuel room' cs = Reader.elements d fuel room cs
  members {room room' : Nat} {cs : List Char} (hroom : room ≤ room') :
    Reader.members d fuel room cs ≠ .error .tooDeep →
      Reader.members { d with nesting } fuel room' cs = Reader.members d fuel room cs

variable {nesting : Option Nat}

theorem ne_of_map_ne {α β : Type} {result : Except Fault α} {f : α → β}
    (h : result.map f ≠ .error .tooDeep) : result ≠ .error .tooDeep := by
  rintro rfl
  exact h rfl

/-- What becomes of an empty container. -/
theorem closed_deepens {x : Json} {rest : List Char} (hroom : room ≤ room')
    (h : (if d.hasRoomForEmpty room then .ok (x, rest) else .error .tooDeep :
      Except Fault (Json × List Char)) ≠ .error .tooDeep) :
    (if ({ d with nesting } : Dialect).hasRoomForEmpty room' then .ok (x, rest)
      else .error .tooDeep : Except Fault (Json × List Char)) =
    if d.hasRoomForEmpty room then .ok (x, rest) else .error .tooDeep := by
  have hempty : d.hasRoomForEmpty room = true := Decidable.byContradiction fun hempty =>
    h (if_neg hempty)
  rw [if_pos hempty]
  exact if_pos (hasRoomForEmpty_mono hempty hroom)

theorem array_deepens (ih : DeepensAt d nesting fuel) (hroom : room ≤ room')
    (h : value d (fuel + 1) room ('[' :: cs) ≠ .error .tooDeep) :
    value { d with nesting } (fuel + 1) room' ('[' :: cs) = value d (fuel + 1) room ('[' :: cs) := by
  by_cases hclosed : ∃ rest, skip cs = ']' :: rest
  · obtain ⟨rest, hrest⟩ := hclosed
    rw [value_closed_array hrest] at h ⊢
    rw [value_closed_array hrest]
    exact closed_deepens hroom h
  · have hopen := not_exists.mp hclosed
    cases room with
    | zero => exact absurd (value_full_array hopen) h
    | succ room =>
        obtain ⟨room', rfl⟩ := Nat.exists_eq_add_one_of_ne_zero (Nat.ne_zero_of_lt hroom)
        rw [value_array hopen] at h ⊢
        rw [value_array hopen, ih.elements (Nat.le_of_succ_le_succ hroom) (ne_of_map_ne h)]

theorem object_deepens (ih : DeepensAt d nesting fuel) (hroom : room ≤ room')
    (h : value d (fuel + 1) room ('{' :: cs) ≠ .error .tooDeep) :
    value { d with nesting } (fuel + 1) room' ('{' :: cs) = value d (fuel + 1) room ('{' :: cs) := by
  by_cases hclosed : ∃ rest, skip cs = '}' :: rest
  · obtain ⟨rest, hrest⟩ := hclosed
    rw [value_closed_object hrest] at h ⊢
    rw [value_closed_object hrest]
    exact closed_deepens hroom h
  · have hopen := not_exists.mp hclosed
    cases room with
    | zero => exact absurd (value_full_object hopen) h
    | succ room =>
        obtain ⟨room', rfl⟩ := Nat.exists_eq_add_one_of_ne_zero (Nat.ne_zero_of_lt hroom)
        rw [value_object hopen] at h ⊢
        rw [value_object hopen, ih.members (Nat.le_of_succ_le_succ hroom) (ne_of_map_ne h)]

theorem value_deepens (ih : DeepensAt d nesting fuel) (hroom : room ≤ room')
    (h : value d (fuel + 1) room cs ≠ .error .tooDeep) :
    value { d with nesting } (fuel + 1) room' cs = value d (fuel + 1) room cs := by
  cases cs with
  | nil => rfl
  | cons c cs =>
      by_cases harr : c = '['
      · subst harr
        exact array_deepens ih hroom h
      · by_cases hobj : c = '{'
        · subst hobj
          exact object_deepens ih hroom h
        · by_cases hquote : c = '"'
          · subst hquote
            rfl
          · rw [value_of_scalar hquote harr hobj, value_of_scalar hquote harr hobj]
            rfl

theorem elements_deepens (ih : DeepensAt d nesting fuel) (hroom : room ≤ room')
    (h : elements d (fuel + 1) room cs ≠ .error .tooDeep) :
    elements { d with nesting } (fuel + 1) room' cs = elements d (fuel + 1) room cs := by
  rw [elements] at h ⊢
  rw [elements]
  have hvalue : value d fuel room cs ≠ .error .tooDeep := by
    intro hx
    rw [hx] at h
    exact h rfl
  rw [ih.value hroom hvalue]
  cases hx : value d fuel room cs with
  | error fault => rfl
  | ok found =>
      obtain ⟨x, cs'⟩ := found
      rw [hx] at h
      dsimp only at h ⊢
      split
      · rfl
      · next rest hskip =>
          rw [hskip] at h
          have hrest : elements d fuel room (skip rest) ≠ .error .tooDeep := by
            intro hxs
            simp only [hxs] at h
            exact h rfl
          rw [ih.elements hroom hrest]
      · rfl

theorem members_deepens (ih : DeepensAt d nesting fuel) (hroom : room ≤ room')
    (h : members d (fuel + 1) room cs ≠ .error .tooDeep) :
    members { d with nesting } (fuel + 1) room' cs = members d (fuel + 1) room cs := by
  by_cases hquote : ∃ tail, cs = '"' :: tail
  · obtain ⟨cs, rfl⟩ := hquote
    rw [members] at h ⊢
    rw [members]
    cases hname : string d.admitsGarbled .plain none cs with
    | none => rfl
    | some found =>
        obtain ⟨name, cs₁⟩ := found
        rw [hname] at h
        dsimp only at h ⊢
        split
        · next cs₂ hcolon =>
            simp only [hcolon] at h
            have hvalue : value d fuel room (skip cs₂) ≠ .error .tooDeep := by
              intro hx
              rw [hx] at h
              exact h rfl
            rw [ih.value hroom hvalue]
            cases hx : value d fuel room (skip cs₂) with
            | error fault => rfl
            | ok found =>
                obtain ⟨x, cs₃⟩ := found
                rw [hx] at h
                dsimp only at h ⊢
                split
                · rfl
                · next rest hskip =>
                    rw [hskip] at h
                    have hrest : members d fuel room (skip rest) ≠ .error .tooDeep := by
                      intro hms
                      simp only [hms] at h
                      exact h rfl
                    rw [ih.members hroom hrest]
                · rfl
        · rfl
  · have hother : ∀ tail, cs = '"' :: tail → False := not_exists.mp hquote
    rw [members, members] <;> exact hother

theorem deepensAt (d : Dialect) (nesting : Option Nat) (fuel : Nat) : DeepensAt d nesting fuel := by
  induction fuel with
  | zero => constructor <;> exact fun _ _ => rfl
  | succ fuel ih => exact ⟨value_deepens ih, elements_deepens ih, members_deepens ih⟩

/-! ## Too many brackets -/

/-- Where one more bracket is opened than there is room for, it does not matter what follows. -/
theorem value_of_brackets (h : 2 * room < fuel) (hd : d.opensEmpty = true) (cs : List Char) :
    value d fuel room (List.replicate (room + 1) '[' ++ cs) = .error .tooDeep := by
  induction room generalizing fuel with
  | zero =>
      obtain ⟨fuel, rfl⟩ := Nat.exists_eq_add_one_of_ne_zero (Nat.ne_zero_of_lt h)
      by_cases hclosed : ∃ rest, skip cs = ']' :: rest
      · obtain ⟨rest, hrest⟩ := hclosed
        refine (value_closed_array hrest).trans (if_neg ?_)
        simp [Dialect.hasRoomForEmpty, hd]
      · exact value_full_array (not_exists.mp hclosed)
  | succ room ih =>
      obtain ⟨fuel, rfl⟩ : ∃ n, fuel = n + 2 := ⟨fuel - 2, by omega⟩
      have hskip : skip (List.replicate (room + 1) '[' ++ cs) =
          List.replicate (room + 1) '[' ++ cs := rfl
      have hopen : ∀ rest, skip (List.replicate (room + 1) '[' ++ cs) ≠ ']' :: rest := by
        intro rest heq
        cases heq
      rw [List.replicate_succ, List.cons_append, value_array hopen, hskip, elements,
        ih (by omega)]
      rfl

end Reader

/-- A reader that goes deeper finds nothing else, unless the other one gives up. -/
theorem attempt_deeper {depth depth' : Nat} (h : depth ≤ depth') {cs : List Char}
    (hdeep : attempt (.lenient depth) cs ≠ .error .tooDeep) :
    attempt (.lenient depth') cs = attempt (.lenient depth) cs := by
  have hvalue : Reader.value (.lenient depth) (2 * cs.length + 2)
      (Reader.room (.lenient depth) cs) (Reader.skip cs) ≠ .error .tooDeep := by
    intro hx
    rw [attempt, hx] at hdeep
    exact hdeep rfl
  have hsame : Reader.value (.lenient depth') (2 * cs.length + 2)
      (Reader.room (.lenient depth') cs) (Reader.skip cs) = _ :=
    (Reader.deepensAt (.lenient depth) (some depth') _).value h hvalue
  rw [attempt, hsame, attempt]
  rfl

/-- A text is read as one value at most, however deep it is read. -/
theorem attempt_unique {depth depth' : Nat} {cs : List Char} {x x' : Json}
    (h : attempt (.lenient depth) cs = .ok x) (h' : attempt (.lenient depth') cs = .ok x') :
    x = x' := by
  rcases Nat.le_total depth depth' with hle | hle
  · rw [attempt_deeper hle (by rw [h]; nofun), h] at h'
    exact Except.ok.inj h'
  · rw [attempt_deeper hle (by rw [h']; nofun), h'] at h
    exact (Except.ok.inj h).symm

/-- A text that begins with more brackets than may be open is not read. -/
theorem attempt_of_brackets {depth count : Nat} (h : depth < count) (cs : List Char) :
    attempt (.lenient depth) (List.replicate count '[' ++ cs) = .error .tooDeep := by
  obtain ⟨extra, rfl⟩ := Nat.exists_eq_add_of_lt h
  have hsplit : List.replicate (depth + extra + 1) '[' ++ cs =
      List.replicate (depth + 1) '[' ++ (List.replicate extra '[' ++ cs) := by
    rw [← List.append_assoc, List.replicate_append_replicate, Nat.add_right_comm]
  have hskip (rest : List Char) : Reader.skip (List.replicate (depth + 1) '[' ++ rest) =
      List.replicate (depth + 1) '[' ++ rest := rfl
  generalize List.replicate extra '[' ++ cs = rest at hsplit
  have hvalue : Reader.value (.lenient depth)
      (2 * (List.replicate (depth + 1) '[' ++ rest).length + 2)
      (Reader.room (.lenient depth) (List.replicate (depth + 1) '[' ++ rest))
      (List.replicate (depth + 1) '[' ++ rest) = .error .tooDeep := by
    refine Reader.value_of_brackets ?_ rfl rest
    rw [List.length_append, List.length_replicate, Reader.room, Dialect.lenient, Option.getD_some]
    omega
  rw [hsplit, attempt, hskip, hvalue]

/-- A list of one number that has more digits than are read is malformed. -/
theorem attempt_of_long {depth : Nat} {ds : List Nat} {cs : List Char} (h : Leading ds cs)
    (hlong : Text.maxDigits < ds.length) :
    attempt (.lenient (depth + 1)) ('[' :: (cs ++ [']'])) = .error .malformed := by
  obtain ⟨k, hk, tail, rfl⟩ := Reader.head_of_digits h.1
  have hscalar : Reader.scalar (.lenient (depth + 1)) (Nat.digitChar k :: (tail ++ [']'])) = none := by
    have hunsigned := Reader.unsigned_append (d := .lenient (depth + 1)) false h .none .none
      (Reader.ends_cons (.inr (.inl rfl)) [])
    rw [if_neg (by simp)] at hunsigned
    rw [Reader.scalar_of_digit hk]
    exact hunsigned.trans (if_neg (Nat.not_le.mpr hlong))
  have hvalue (fuel room : Nat) : Reader.value (.lenient (depth + 1)) (fuel + 1) room
      (Nat.digitChar k :: (tail ++ [']'])) = .error .malformed := by
    rw [Reader.value_of_scalar (Reader.digitChar_ne hk rfl) (Reader.digitChar_ne hk rfl)
      (Reader.digitChar_ne hk rfl), hscalar]
    rfl
  have hblank : ¬ IsBlank (Nat.digitChar k) := by
    rintro (h | h | h | h) <;> exact Reader.digitChar_ne hk rfl h
  have hopen : ∀ rest, Reader.skip (Nat.digitChar k :: (tail ++ [']'])) ≠ ']' :: rest := by
    intro rest heq
    rw [Reader.skip_of_not_isBlank hblank] at heq
    exact Reader.digitChar_ne hk rfl (List.cons.inj heq).1
  have harray (fuel room : Nat) : Reader.value (.lenient (depth + 1)) (fuel + 2) (room + 1)
      ('[' :: (Nat.digitChar k :: (tail ++ [']']))) = .error .malformed := by
    rw [Reader.value_array hopen, Reader.skip_of_not_isBlank hblank, Reader.elements]
    cases fuel with
    | zero => rfl
    | succ fuel => rw [hvalue]; rfl
  have hwhole : Reader.value (.lenient (depth + 1))
      (2 * ('[' :: (Nat.digitChar k :: tail ++ [']'])).length + 2)
      (Reader.room (.lenient (depth + 1)) ('[' :: (Nat.digitChar k :: tail ++ [']'])))
      (Reader.skip ('[' :: (Nat.digitChar k :: tail ++ [']']))) = .error .malformed :=
    harray _ depth
  rw [attempt, hwhole]

end Noticeboard.Json
