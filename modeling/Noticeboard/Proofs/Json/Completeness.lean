import Noticeboard.Proofs.Json.Lexical

/-!
Every text of the grammar is read as the value that it is a text of. A reader of the inside of a
container takes what the grammar has for it up to what closes the container.
-/

namespace Noticeboard.Json

open Grammar

namespace Reader

/-! ## The front of a text -/

variable {d : Dialect} {room : Nat} {x : Json} {cs rest : List Char}

theorem value_of_scalar {c : Char} (hquote : c ≠ '"') (harr : c ≠ '[') (hobj : c ≠ '{')
    (fuel : Nat) : value d (fuel + 1) room (c :: cs) = found (scalar d (c :: cs)) := by
  rw [value]
  · exact fun tail h => hquote (List.cons.inj h).1
  · exact fun tail h => harr (List.cons.inj h).1
  · exact fun tail h => hobj (List.cons.inj h).1

/-- A value does not begin with white space, nor with what closes a container. -/
theorem head_of_value (h : Value d room x cs) :
    ∃ c tail, cs = c :: tail ∧ ¬ IsBlank c ∧ c ≠ ']' := by
  cases h with
  | word h =>
      have all : ∀ w ∈ words, ∃ c tail, w.1 = c :: tail ∧ ¬ IsBlank c ∧ c ≠ ']' := by
        simp [words, IsBlank]
      exact all _ h
  | number h =>
      obtain ⟨negative, k, body, hk, rfl, -⟩ := unsigned_of_number h
      have hblank : ¬ IsBlank (Nat.digitChar k) := by
        rintro (h | h | h | h) <;> exact digitChar_ne hk rfl h
      cases negative with
      | true => exact ⟨'-', Nat.digitChar k :: body, rfl, by simp [IsBlank], by decide⟩
      | false => exact ⟨Nat.digitChar k, body, rfl, hblank, digitChar_ne hk rfl⟩
  | string h =>
      cases h
      exact ⟨'"', _, rfl, by simp [IsBlank], by decide⟩
  | noElements | elements => exact ⟨'[', _, rfl, by simp [IsBlank], by decide⟩
  | noMembers | members => exact ⟨'{', _, rfl, by simp [IsBlank], by decide⟩

theorem skip_value (h : Value d room x cs) (rest : List Char) : skip (cs ++ rest) = cs ++ rest := by
  obtain ⟨c, tail, rfl, hblank, -⟩ := head_of_value h
  exact skip_of_not_isBlank hblank _

theorem ends_blank {w : List Char} (hw : Blank w) (h : Ends rest) : Ends (w ++ rest) := by
  cases w with
  | nil => exact h
  | cons c w =>
      intro c' tail hc
      cases hc
      rcases hw c List.mem_cons_self with rfl | rfl | rfl | rfl <;> decide

theorem ends_cons {c : Char} (h : c = ',' ∨ c = ']' ∨ c = '}') (cs : List Char) :
    Ends (c :: cs) := by
  intro c' tail hc
  cases hc
  rcases h with rfl | rfl | rfl <;> decide

theorem skip_closer {w : List Char} (hw : Blank w) {c : Char}
    (h : c = ',' ∨ c = ']' ∨ c = '}' ∨ c = ':') (cs : List Char) :
    skip (w ++ c :: cs) = c :: cs := by
  rw [skip_blank hw, skip_of_not_isBlank]
  rcases h with rfl | rfl | rfl | rfl <;> simp [IsBlank]

/-! ## Steps of the readers of containers -/

section Steps

variable {fuel : Nat} {name : String} {cs₁ cs₂ cs₃ cs₄ : List Char} {xs : List Json}
  {ms : Json.Members}

theorem value_noElements (hroom : d.hasRoomForEmpty room) (h : skip cs = ']' :: rest) :
    value d (fuel + 1) room ('[' :: cs) = .ok (.arr [], rest) := by
  unfold value
  simp only [h, hroom, if_true]

theorem value_elements (hskip : skip cs = cs₁) (hne : ∀ tail, cs₁ ≠ ']' :: tail)
    (h : elements d fuel room cs₁ = .ok (xs, rest)) :
    value d (fuel + 1) (room + 1) ('[' :: cs) = .ok (.arr xs, rest) := by
  unfold value
  simp only [hskip, h]

theorem value_noMembers (hroom : d.hasRoomForEmpty room) (h : skip cs = '}' :: rest) :
    value d (fuel + 1) room ('{' :: cs) = .ok (.obj [], rest) := by
  unfold value
  simp only [h, hroom, if_true]

theorem value_members (hskip : skip cs = cs₁) (hne : ∀ tail, cs₁ ≠ '}' :: tail)
    (h : members d fuel room cs₁ = .ok (ms, rest)) :
    value d (fuel + 1) (room + 1) ('{' :: cs) = .ok (.obj ms, rest) := by
  unfold value
  simp only [hskip, h]

theorem elements_last (hx : value d fuel room cs = .ok (x, cs₁)) (hskip : skip cs₁ = ']' :: rest) :
    elements d (fuel + 1) room cs = .ok ([x], rest) := by
  simp only [elements, hx, hskip]

theorem elements_more (hx : value d fuel room cs = .ok (x, cs₁)) (hskip : skip cs₁ = ',' :: cs₂)
    (hxs : elements d fuel room (skip cs₂) = .ok (xs, rest)) :
    elements d (fuel + 1) room cs = .ok (x :: xs, rest) := by
  simp only [elements, hx, hskip, hxs]

theorem members_last (hname : string d.admitsGarbled .plain none cs = some (name.toList, cs₁))
    (hcolon : skip cs₁ = ':' :: cs₂) (hx : value d fuel room (skip cs₂) = .ok (x, cs₃))
    (hskip : skip cs₃ = '}' :: rest) :
    members d (fuel + 1) room ('"' :: cs) = .ok ([(name, x)], rest) := by
  simp only [members, hname, hcolon, hx, hskip, String.ofList_toList]

theorem members_more (hname : string d.admitsGarbled .plain none cs = some (name.toList, cs₁))
    (hcolon : skip cs₁ = ':' :: cs₂) (hx : value d fuel room (skip cs₂) = .ok (x, cs₃))
    (hskip : skip cs₃ = ',' :: cs₄) (hms : members d fuel room (skip cs₄) = .ok (ms, rest)) :
    members d (fuel + 1) room ('"' :: cs) = .ok ((name, x) :: ms, rest) := by
  simp only [members, hname, hcolon, hx, hskip, hms, String.ofList_toList]

end Steps

theorem head_of_elements {xs : List Json} (h : Elements d room xs cs) :
    ∃ c tail, cs = c :: tail ∧ ¬ IsBlank c ∧ c ≠ ']' := by
  cases h with
  | last h | more h =>
      obtain ⟨c, tail, rfl, hc⟩ := head_of_value h
      exact ⟨c, _, rfl, hc⟩

theorem head_of_members {ms : Json.Members} (h : Grammar.Members d room ms cs) :
    ∃ tail, cs = '"' :: tail := by
  cases h with
  | last hname | more hname =>
      cases hname
      exact ⟨_, rfl⟩

theorem skip_elements {xs : List Json} (h : Elements d room xs cs) (rest : List Char) :
    skip (cs ++ rest) = cs ++ rest := by
  obtain ⟨c, tail, rfl, hblank, -⟩ := head_of_elements h
  exact skip_of_not_isBlank hblank _

theorem skip_members {ms : Json.Members} (h : Grammar.Members d room ms cs) (rest : List Char) :
    skip (cs ++ rest) = cs ++ rest := by
  obtain ⟨tail, rfl⟩ := head_of_members h
  exact skip_of_not_isBlank (by simp [IsBlank]) _

theorem string_of_quoted (mends : Bool) {s : String} {cs : List Char} (h : Quoted s cs) :
    ∃ body, cs = '"' :: body ∧
      ∀ rest, string mends .plain none (body ++ rest) = some (s.toList, rest) := by
  cases h with
  | mk h =>
      refine ⟨_, rfl, fun rest => ?_⟩
      rw [List.append_assoc]
      exact string_characters h rest

end Reader

/-! ## Reading what the grammar has -/

namespace Grammar

open Reader

-- The induction is on the fuel, since the readers of values, elements and members call one another
-- with less of it. Twice the length of the text is enough for a value, and one more for what is
-- inside a container, which may be one value without anything around it.

mutual

theorem Value.read {d : Dialect} {room fuel : Nat} {x : Json} {cs rest : List Char}
    (h : Value d room x cs) (hrest : Ends rest) (hfuel : 2 * cs.length ≤ fuel) :
    value d fuel room (cs ++ rest) = .ok (x, rest) := by
  obtain ⟨fuel, rfl⟩ : ∃ n, fuel = n + 1 := by
    obtain ⟨c, tail, rfl, -⟩ := head_of_value h
    exact ⟨fuel - 1, by rw [List.length_cons] at hfuel; omega⟩
  cases h with
  | word h =>
      have all : ∀ w ∈ words, ∃ c tail, w.1 = c :: tail ∧ c ≠ '"' ∧ c ≠ '[' ∧ c ≠ '{' := by
        simp [words]
      obtain ⟨c, tail, hcs, hquote, harr, hobj⟩ := all _ h
      dsimp only at hcs
      rw [hcs, List.cons_append, value_of_scalar hquote harr hobj, ← List.cons_append, ← hcs,
        scalar_of_word h rest, found]
  | number h =>
      have hscalar := congrArg found (scalar_of_number h hrest)
      obtain ⟨negative, k, body, hk, rfl, -⟩ := unsigned_of_number h
      cases negative with
      | true => exact (value_of_scalar (by decide) (by decide) (by decide) fuel).trans hscalar
      | false =>
          exact (value_of_scalar (digitChar_ne hk rfl) (digitChar_ne hk rfl) (digitChar_ne hk rfl)
            fuel).trans hscalar
  | string h =>
      obtain ⟨body, rfl, hbody⟩ := string_of_quoted false h
      rw [List.cons_append, value, text, hbody]
      simp only [String.ofList_toList, found]
  | noElements hroom hw =>
      rw [List.cons_append, List.append_assoc]
      exact value_noElements hroom (skip_closer hw (by decide) rest)
  | @elements room xs w cs hw h =>
      simp only [List.length_cons, List.length_append, List.length_nil] at hfuel
      simp only [List.cons_append, List.append_assoc, List.nil_append]
      refine value_elements ((skip_blank hw _).trans (skip_elements h _)) ?_
        (Elements.read h (by omega))
      obtain ⟨c, tail, rfl, -, hc⟩ := head_of_elements h
      exact fun _ heq => hc (List.cons.inj heq).1
  | noMembers hroom hw =>
      rw [List.cons_append, List.append_assoc]
      exact value_noMembers hroom (skip_closer hw (by decide) rest)
  | @members room ms w cs hw h =>
      simp only [List.length_cons, List.length_append, List.length_nil] at hfuel
      simp only [List.cons_append, List.append_assoc, List.nil_append]
      refine value_members ((skip_blank hw _).trans (skip_members h _)) ?_
        (Members.read h (by omega))
      obtain ⟨tail, rfl⟩ := head_of_members h
      exact fun _ heq => nomatch (List.cons.inj heq).1
termination_by fuel

theorem Elements.read {d : Dialect} {room fuel : Nat} {xs : List Json} {cs rest : List Char}
    (h : Elements d room xs cs) (hfuel : 2 * cs.length < fuel) :
    elements d fuel room (cs ++ ']' :: rest) = .ok (xs, rest) := by
  obtain ⟨fuel, rfl⟩ : ∃ n, fuel = n + 1 := ⟨fuel - 1, by omega⟩
  cases h with
  | @last _ x cs w h hw =>
      simp only [List.length_append] at hfuel
      rw [List.append_assoc]
      exact elements_last (Value.read h (ends_blank hw (ends_cons (by decide) rest)) (by omega))
        (skip_closer hw (by decide) rest)
  | @more _ x xs cs w w' rest' h hw hw' hrest =>
      simp only [List.length_append, List.length_cons] at hfuel
      simp only [List.cons_append, List.append_assoc]
      have hxs : elements d fuel room (skip (w' ++ (rest' ++ ']' :: rest))) = .ok (xs, rest) := by
        rw [skip_blank hw', skip_elements hrest]
        exact Elements.read hrest (by omega)
      exact elements_more (Value.read h (ends_blank hw (ends_cons (by decide) _)) (by omega))
        (skip_closer hw (by decide) _) hxs
termination_by fuel

theorem Members.read {d : Dialect} {room fuel : Nat} {ms : Json.Members} {cs rest : List Char}
    (h : Members d room ms cs) (hfuel : 2 * cs.length < fuel) :
    members d fuel room (cs ++ '}' :: rest) = .ok (ms, rest) := by
  obtain ⟨fuel, rfl⟩ : ∃ n, fuel = n + 1 := ⟨fuel - 1, by omega⟩
  cases h with
  | @last _ name x quoted cs v w w' hname hv hw h hw' =>
      obtain ⟨body, rfl, hbody⟩ := string_of_quoted d.admitsGarbled hname
      simp only [List.length_append, List.length_cons] at hfuel
      simp only [List.cons_append, List.append_assoc]
      refine members_last (hbody _) (skip_closer hv (by decide) _) ?_
        (skip_closer hw' (by decide) rest)
      rw [skip_blank hw, skip_value h]
      exact Value.read h (ends_blank hw' (ends_cons (by decide) rest)) (by omega)
  | @more _ name x ms quoted cs v w w' w'' rest' hname hv hw h hw' hw'' hrest =>
      obtain ⟨body, rfl, hbody⟩ := string_of_quoted d.admitsGarbled hname
      simp only [List.length_append, List.length_cons] at hfuel
      simp only [List.cons_append, List.append_assoc]
      have hms : members d fuel room (skip (w'' ++ (rest' ++ '}' :: rest))) = .ok (ms, rest) := by
        rw [skip_blank hw'', skip_members hrest]
        exact Members.read hrest (by omega)
      refine members_more (hbody _) (skip_closer hv (by decide) _) ?_
        (skip_closer hw' (by decide) _) hms
      rw [skip_blank hw, skip_value h]
      exact Value.read h (ends_blank hw' (ends_cons (by decide) _)) (by omega)
termination_by fuel

end

end Grammar

/-- A text that the grammar has for a value, with white space around it, is read as that value. -/
theorem attempt_of_value {d : Dialect} {x : Json} {w cs w' : List Char} (hw : Blank w) (hw' : Blank w')
    (h : Value d (Reader.room d (w ++ (cs ++ w'))) x cs) : attempt d (w ++ (cs ++ w')) = .ok x := by
  have hends : Reader.Ends w' := by
    rw [← List.append_nil w']
    exact Reader.ends_blank hw' fun c tail heq => nomatch heq
  have hblank : Reader.skip w' = [] := by
    rw [← List.append_nil w', Reader.skip_blank hw']
    rfl
  rw [attempt, Reader.skip_blank hw, Reader.skip_value h, Value.read h hends]
  · exact if_pos hblank
  · simp only [List.length_append]
    omega

theorem read_of_value {d : Dialect} {x : Json} {w cs w' : List Char} (hw : Blank w) (hw' : Blank w')
    (h : Value d (Reader.room d (w ++ (cs ++ w'))) x cs) : read d (w ++ (cs ++ w')) = some x := by
  rw [read, attempt_of_value hw hw' h]
  rfl

end Noticeboard.Json
