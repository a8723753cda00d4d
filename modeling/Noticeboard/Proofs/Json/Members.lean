import Mathlib.Data.List.Nodup
import Noticeboard.Json.Basic

/-!
The members of an object. The value of a name is the last one that is given to it. Where the names
are distinct it does not depend on the order of the members, and what is put under a name is the
value of that name while all others keep theirs.
-/

namespace Noticeboard.Json.Members

/-! ## Last values -/

/-- Whether a name is given a value, and no other one after that. -/
def IsLast (ms : Members) (name : String) (x : Json) : Prop :=
  ∃ front back, ms = front ++ (name, x) :: back ∧ name ∉ back.map Prod.fst

theorem last?_append (name : String) (front back : Members) :
    last? name (front ++ back) = (last? name back).or (last? name front) := by
  induction front with
  | nil => exact Option.or_none.symm
  | cons m front ih =>
      rw [List.cons_append, last?, last?, ih]
      cases last? name back with
      | some x => rfl
      | none => rfl

theorem last?_of_not_mem {ms : Members} {name : String} (h : name ∉ ms.map Prod.fst) :
    last? name ms = none := by
  induction ms with
  | nil => rfl
  | cons m ms ih =>
      rw [List.map_cons, List.mem_cons, not_or] at h
      rw [last?, ih h.2]
      exact if_neg (Ne.symm h.1)

theorem last?_eq_none_iff {ms : Members} {name : String} :
    last? name ms = none ↔ name ∉ ms.map Prod.fst := by
  refine ⟨fun h hmem => ?_, last?_of_not_mem⟩
  obtain ⟨⟨_, x⟩, hm, rfl⟩ := List.mem_map.mp hmem
  obtain ⟨front, back, rfl⟩ := List.append_of_mem hm
  rw [last?_append, Option.or_eq_none_iff, last?] at h
  split at h
  · cases h.1
  · exact absurd h.1 (by simp)

theorem last?_eq_some_iff_isLast {ms : Members} {name : String} {x : Json} :
    last? name ms = some x ↔ ms.IsLast name x := by
  constructor
  · intro h
    induction ms with
    | nil => cases h
    | cons m ms ih =>
        rw [last?] at h
        split at h
        · next hlater =>
            cases h
            obtain ⟨front, back, rfl, hback⟩ := ih hlater
            exact ⟨m :: front, back, rfl, hback⟩
        · next hlater =>
            split at h
            · next hname =>
                cases h
                exact ⟨[], ms, hname ▸ rfl, last?_eq_none_iff.mp hlater⟩
            · cases h
  · rintro ⟨front, back, rfl, hback⟩
    rw [last?_append, last?, last?_of_not_mem hback]
    exact congrArg (Option.or · _) (if_pos rfl)

/-! ## Distinct names -/

theorem last?_eq_some_iff {ms : Members} (h : (ms.map Prod.fst).Nodup) {name : String} {x : Json} :
    last? name ms = some x ↔ (name, x) ∈ ms := by
  induction ms with
  | nil => simp [last?]
  | cons m ms ih =>
      obtain ⟨key, y⟩ := m
      rw [List.map_cons, List.nodup_cons] at h
      rw [List.mem_cons, last?]
      by_cases hkey : key = name
      · -- The name does not occur again.
        subst hkey
        have hnone : (key, x) ∉ ms := fun hx =>
          h.1 (List.mem_map.mpr ⟨(key, x), hx, rfl⟩)
        simp [last?_of_not_mem h.1, hnone, eq_comm]
      · rw [← ih h.2]
        cases last? name ms <;> simp [hkey, Ne.symm hkey]

theorem last?_perm {ms ms' : Members} (hperm : ms.Perm ms') (h : (ms.map Prod.fst).Nodup)
    (name : String) : last? name ms = last? name ms' := by
  have h' : (ms'.map Prod.fst).Nodup := (hperm.map Prod.fst).nodup_iff.mp h
  apply Option.ext
  intro x
  rw [last?_eq_some_iff h, last?_eq_some_iff h', hperm.mem_iff]

/-! ## Putting -/

theorem put_of_not_mem {ms : Members} {name : String} (h : name ∉ ms.map Prod.fst) (x : Json) :
    put name x ms = ms ++ [(name, x)] := by
  induction ms with
  | nil => rfl
  | cons m ms ih =>
      rw [List.map_cons, List.mem_cons, not_or] at h
      rw [put, if_neg (Ne.symm h.1), ih h.2, List.cons_append]

theorem foldl_put {ms front : Members} (h : ((front ++ ms).map Prod.fst).Nodup) :
    ms.foldl (fun ms m => put m.1 m.2 ms) front = front ++ ms := by
  induction ms generalizing front with
  | nil => rw [List.foldl_nil, List.append_nil]
  | cons m ms ih =>
      rw [List.append_cons] at h
      have hfresh : m.1 ∉ front.map Prod.fst := by
        rw [List.map_append, List.map_append, List.nodup_append, List.nodup_append] at h
        exact fun hm => h.1.2.2 _ hm _ (by simp) rfl
      rw [List.foldl_cons, put_of_not_mem hfresh, ih h, List.append_assoc]
      rfl

theorem settled_of_nodup {ms : Members} (h : (ms.map Prod.fst).Nodup) : settled ms = ms :=
  foldl_put h

theorem names_put (name : String) (x : Json) (ms : Members) :
    (put name x ms).map Prod.fst =
      if name ∈ ms.map Prod.fst then ms.map Prod.fst else ms.map Prod.fst ++ [name] := by
  induction ms with
  | nil => rfl
  | cons m ms ih =>
      rw [put]
      by_cases hkey : m.1 = name
      · simp [hkey]
      · simp only [if_neg hkey, List.map_cons, ih, List.mem_cons, Ne.symm hkey, false_or]
        split <;> rfl

theorem nodup_put {ms : Members} (h : (ms.map Prod.fst).Nodup) (name : String) (x : Json) :
    ((put name x ms).map Prod.fst).Nodup := by
  rw [names_put]
  split
  · exact h
  · next hname =>
      refine List.nodup_append.mpr ⟨h, List.nodup_singleton name, fun key hkey other hother => ?_⟩
      rw [List.mem_singleton.mp hother]
      exact fun heq => hname (heq ▸ hkey)

theorem last?_put {ms : Members} (h : (ms.map Prod.fst).Nodup) (name : String) (x : Json)
    (key : String) : last? key (put name x ms) = if key = name then some x else last? key ms := by
  induction ms with
  | nil => simp [put, last?, eq_comm]
  | cons m ms ih =>
      obtain ⟨first, y⟩ := m
      rw [List.map_cons, List.nodup_cons] at h
      rw [put]
      by_cases hfirst : first = name
      · subst hfirst
        by_cases hkey : key = first
        · subst hkey
          simp [last?, last?_of_not_mem h.1]
        · simp [last?, hkey, Ne.symm hkey]
      · simp only [if_neg hfirst, last?, ih h.2]
        by_cases hkey : key = name
        · subst hkey
          simp
        · simp [hkey]

theorem mem_put_iff {ms : Members} (h : (ms.map Prod.fst).Nodup) {name : String} {x : Json}
    {m : String × Json} : m ∈ put name x ms ↔ if m.1 = name then m.2 = x else m ∈ ms := by
  obtain ⟨key, y⟩ := m
  rw [← last?_eq_some_iff (nodup_put h name x), last?_put h, ← last?_eq_some_iff h]
  split <;> simp [eq_comm]

theorem put_put (name : String) (x y : Json) (ms : Members) :
    put name x (put name y ms) = put name x ms := by
  induction ms with
  | nil => simp [put]
  | cons m ms ih =>
      rw [put, put]
      by_cases hkey : m.1 = name
      · simp [put, hkey]
      · simp [put, hkey, ih]

/-! ## Settling -/

theorem last?_foldl_put {front : Members} (h : (front.map Prod.fst).Nodup) (ms : Members)
    (name : String) : last? name (ms.foldl (fun ms m => put m.1 m.2 ms) front) =
      (last? name ms).or (last? name front) := by
  induction ms generalizing front with
  | nil => rfl
  | cons m ms ih =>
      rw [List.foldl_cons, ih (nodup_put h _ _), last?_put h, last?]
      cases last? name ms with
      | some x => rfl
      | none =>
          simp only [Option.none_or, eq_comm (a := name)]
          split <;> rfl

theorem last?_settled (ms : Members) (name : String) : last? name (settled ms) = last? name ms := by
  rw [settled, last?_foldl_put (by simp)]
  exact Option.or_none

theorem last?_settledMembers (ms : Members) (name : String) :
    last? name (settledMembers ms) = (last? name ms).map Json.settled := by
  induction ms with
  | nil => rfl
  | cons m ms ih =>
      obtain ⟨key, x⟩ := m
      rw [settledMembers, last?, last?, ih]
      cases last? name ms with
      | some y => rfl
      | none =>
          by_cases hkey : key = name
          · simp [hkey]
          · simp [hkey]

end Noticeboard.Json.Members
