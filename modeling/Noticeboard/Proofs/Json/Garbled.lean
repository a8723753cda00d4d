import Noticeboard.Proofs.Json.Soundness

/-!
Garbled strings. A string that is read with a surrogate in want of its partner is mended, and what
is mended has a character in that place, so that no garbled string among the members of an object
is empty.
-/

namespace Noticeboard.Json

namespace Reader

open Grammar

variable {d : Dialect} {mode : Mode} {waiting waiting' : Option Nat} {cs rest : List Char}

/-! ## Strings -/

theorem settle_nil (h : settle true waiting = some []) : waiting = none := by
  cases waiting with
  | none => rfl
  | some _ => cases h

theorem takeUnit_nil {unit : Nat} (h : takeUnit true waiting unit = some ([], waiting')) :
    takeUnit false waiting unit = some ([], waiting') := by
  rw [takeUnit.eq_def] at h ⊢
  split at h
  · cases waiting <;> cases h
  · next hlow =>
      rw [if_neg hlow]
      split at h
      · cases h
      · next front hfront =>
          split at h
          · next hhigh =>
              cases h
              cases settle_nil hfront
              exact if_pos hhigh
          · cases List.append_eq_nil_iff.mp (Prod.mk.inj (Option.some.inj h)).1 |>.2

theorem after_nil_split {front : List Char} {result : Option (List Char × List Char)}
    (h : after front result = some ([], rest)) : front = [] ∧ result = some ([], rest) := by
  obtain ⟨body, hbody, hresult⟩ := after_eq_some h
  obtain ⟨rfl, rfl⟩ := List.append_eq_nil_iff.mp hbody.symm
  exact ⟨rfl, hresult⟩

/-- A string that is empty has nothing to mend. -/
theorem string_nil (h : string true mode waiting cs = some ([], rest)) :
    string false mode waiting cs = some ([], rest) := by
  induction cs generalizing mode waiting with
  | nil => cases mode <;> cases h
  | cons c cs ih =>
      cases mode with
      | plain =>
          rw [string] at h ⊢
          split at h
          · next hslash => exact (if_pos hslash).trans (ih h)
          · next hslash =>
              rw [if_neg hslash]
              split at h
              · cases h
              · next front hfront =>
                  split at h
                  · next hquote =>
                      cases h
                      cases settle_nil hfront
                      exact if_pos hquote
                  · split at h
                    · cases h
                    · cases List.append_eq_nil_iff.mp (after_nil_split h).1 |>.2
      | escape =>
          rw [string] at h ⊢
          split at h
          · next hu => exact (if_pos hu).trans (ih h)
          · split at h
            · cases List.append_eq_nil_iff.mp (after_nil_split h).1 |>.2
            · cases h
      | unit left number =>
          rw [string] at h ⊢
          split at h
          · cases h
          · next k _ =>
              cases left with
              | succ left => exact ih h
              | zero =>
                  dsimp only at h ⊢
                  split at h
                  · cases h
                  · next front waiting' hunit =>
                      obtain ⟨rfl, hrest⟩ := after_nil_split h
                      rw [takeUnit_nil hunit]
                      exact (after_nil _).trans (ih hrest)

theorem text_garbled {s : String} (h : text d cs = some (.garbled s, rest)) : s ≠ "" := by
  rw [text] at h
  split at h
  · cases h
  · next hbroken =>
      split at h
      · obtain ⟨⟨body, rest'⟩, hbody, heq⟩ := Option.map_eq_some_iff.mp h
        cases heq
        intro hs
        obtain rfl : body = [] := by simpa using hs
        cases hbroken.symm.trans (string_nil hbody)
      · cases h

/-! ## Values -/

/-- What is neither a string nor a container is a word or a number. -/
theorem scalar_single {x : Json} (h : scalar d cs = some (x, rest)) :
    (∀ s, x ≠ .garbled s) ∧ ∀ ms, x ≠ .obj ms := by
  rw [scalar] at h
  split at h
  · next found hfound =>
      cases h
      obtain ⟨w, hw, hdrop⟩ := List.exists_of_findSome?_eq_some hfound
      obtain ⟨_, _, hx⟩ := Option.map_eq_some_iff.mp hdrop
      cases hx
      simp only [words, List.mem_cons, List.not_mem_nil, or_false] at hw
      rcases hw with rfl | rfl | rfl | rfl | rfl | rfl <;> simp
  · obtain ⟨front, hnumber, -⟩ := number_split h
    cases hnumber <;> simp

theorem value_garbled {fuel room : Nat} {s : String}
    (h : value d fuel room cs = .ok (.garbled s, rest)) : s ≠ "" := by
  cases fuel with
  | zero => cases h
  | succ fuel =>
      rw [value.eq_def] at h
      dsimp only at h
      split at h
      · exact text_garbled (eq_of_found h)
      · split at h
        · split at h <;> cases h
        · cases h
        · split at h <;> cases h
      · split at h
        · split at h <;> cases h
        · cases h
        · split at h <;> cases h
      · exact absurd rfl ((scalar_single (eq_of_found h)).1 s)

theorem members_garbled {fuel room : Nat} {ms : Json.Members} {name s : String}
    (h : members d fuel room cs = .ok (ms, rest)) (hs : (name, .garbled s) ∈ ms) : s ≠ "" := by
  induction fuel generalizing room cs ms rest with
  | zero => cases h
  | succ fuel ih =>
      rw [members.eq_def] at h
      dsimp only at h
      split at h
      · split at h
        · cases h
        · split at h
          · split at h
            · cases h
            · next x _ hx =>
                split at h
                · cases h
                  rw [List.mem_singleton] at hs
                  cases hs
                  exact value_garbled hx
                · split at h
                  · cases h
                  · next later _ hlater =>
                      cases h
                      rcases List.mem_cons.mp hs with hs | hs
                      · cases hs
                        exact value_garbled hx
                      · exact ih hlater hs
                · cases h
          · cases h
      · cases h

theorem object_garbled {fuel room : Nat} {ms : Json.Members} {name s : String}
    (h : value d fuel room cs = .ok (.obj ms, rest)) (hs : (name, .garbled s) ∈ ms) : s ≠ "" := by
  cases fuel with
  | zero => cases h
  | succ fuel =>
      rw [value.eq_def] at h
      dsimp only at h
      split at h
      · have h := eq_of_found h
        rw [text] at h
        split at h
        · cases h
        · split at h
          · obtain ⟨_, _, heq⟩ := Option.map_eq_some_iff.mp h
            cases heq
          · cases h
      · split at h
        · split at h <;> cases h
        · cases h
        · split at h <;> cases h
      · split at h
        · split at h
          · cases h
            cases hs
          · cases h
        · cases h
        · split at h
          · cases h
          · next hms =>
              cases h
              exact members_garbled hms hs
      · exact absurd rfl ((scalar_single (eq_of_found h)).2 ms)

end Reader

theorem attempt_garbled {d : Dialect} {cs : List Char} {ms : Members} {name s : String}
    (h : attempt d cs = .ok (.obj ms)) (hs : (name, .garbled s) ∈ ms) : s ≠ "" := by
  rw [attempt] at h
  split at h
  · cases h
  · next x rest hx =>
      split at h
      · cases h
        exact Reader.object_garbled hx hs
      · cases h

end Noticeboard.Json
