import Mathlib.Data.List.TakeDrop
import Mathlib.Data.List.TakeWhile
import Noticeboard.Http.Route
import Noticeboard.Notice.Id

/-!
The paths of notices. Behind the path of all notices any identifier without a slash leads to the
endpoints of one notice, unless it is one of the words of the fixed paths. A generated identifier
is never such a word.
-/

namespace Noticeboard
namespace Id

theorem letter_mem_alphabet (n : Nat) : letter n ∈ alphabet := by
  rw [letter, List.getD_eq_getElem?_getD]
  cases h : alphabet[n]? with
  | none => decide
  | some c => exact List.mem_of_getElem? h

/-- A generated identifier is its tag and letters of the alphabet. -/
theorem toList_ofDraw (tag : String) (draw : Draw) :
    ∃ letters : List Char, (∀ c ∈ letters, c ∈ alphabet) ∧
      (ofDraw tag draw).toList = tag.toList ++ letters := by
  refine ⟨(digits 26 (4 * draw.toNat)).map letter, fun c hc => ?_, by simp [ofDraw]⟩
  obtain ⟨n, _, rfl⟩ := List.mem_map.mp hc
  exact letter_mem_alphabet n

end Id

namespace Http

/-- Whether an identifier can stand in a path and is none of the words of the fixed paths. A word
with a line feed after it is read as the word. -/
structure Addressable (id : String) : Prop where
  filled : id ≠ ""
  unslashed : '/' ∉ id.toList
  notCount : ¬ Target.isText "unread_count" id.toList
  notMarkAll : ¬ Target.isText "mark_all_as_read" id.toList

theorem addressable_ofDraw (draw : Draw) : Addressable (Id.ofDraw Id.noticeTag draw) := by
  obtain ⟨letters, hletters, hchars⟩ := Id.toList_ofDraw Id.noticeTag draw
  have hchars : (Id.ofDraw Id.noticeTag draw).toList = 'b' :: letters := hchars
  refine ⟨fun h => ?_, fun h => ?_, ?_, ?_⟩
  · rw [h] at hchars
    cases hchars
  · rw [hchars] at h
    rcases List.mem_cons.mp h with h | h
    · cases h
    · exact absurd (hletters _ h) (by decide)
  all_goals
    rw [hchars]
    simp [Target.isText]

namespace Target

theorem after?_append (start cs : List Char) : after? start (start ++ cs) = some cs := by
  induction start with
  | nil => rfl
  | cons s start ih => simpa [after?] using ih

/-- The path of one notice. -/
def pathOf (id : String) : List Char := (root ++ "/").toList ++ id.toList

theorem isText_append (front text : String) (cs : List Char) :
    isText (front ++ text) (front.toList ++ cs) = isText text cs := by
  simp [isText]

theorem isText_iff {text : String} {cs : List Char} :
    isText text cs ↔ cs = text.toList ∨ cs = text.toList ++ ['\n'] := by
  simp [isText]

theorem not_isText_of_slash {word : String} {cs : List Char} (hword : '/' ∉ word.toList)
    (hcs : '/' ∈ cs) : ¬ isText word cs := by
  rw [isText_iff]
  rintro (rfl | rfl)
  · exact hword hcs
  · simp [hword] at hcs

theorem identifier?_fixed {path word : String} {cs : List Char} (h : ¬ isText word cs)
    (hpath : path = root ++ "/" ++ word) :
    (fixed path).identifier? ((root ++ "/").toList ++ cs) = none := by
  rw [identifier?, hpath, isText_append, if_neg h]

theorem identifier?_root (cs : List Char) :
    (fixed root).identifier? ((root ++ "/").toList ++ cs) = none := by
  rw [identifier?, if_neg]
  simp [isText]

/-- An identifier ends where the path does, or at the next slash. -/
theorem identifier?_segment {id : String} (hid : id ≠ "") (hslash : '/' ∉ id.toList)
    (rest : List Char) (hrest : rest.head?.all (· = '/')) (after : String) :
    (notice after).identifier? (pathOf id ++ rest) =
      if isText after rest then some id else none := by
  have other (c : Char) (hc : c ∈ id.toList) : decide (c ≠ '/') = true :=
    decide_eq_true fun heq => hslash (heq ▸ hc)
  have stop : rest.takeWhile (· ≠ '/') = [] ∧ rest.dropWhile (· ≠ '/') = rest := by
    cases rest with
    | nil => exact ⟨rfl, rfl⟩
    | cons c cs =>
        obtain rfl : c = '/' := by simpa using hrest
        exact ⟨rfl, rfl⟩
  have whole : (id.toList ++ rest).span (· ≠ '/') = (id.toList, rest) := by
    rw [List.span_eq_takeWhile_dropWhile, List.takeWhile_append_of_pos other,
      List.dropWhile_append_of_pos other, stop.1, stop.2, List.append_nil]
  have filled : id.toList.isEmpty = false := by simp [hid]
  rw [identifier?, pathOf, List.append_assoc, after?_append]
  simp only [whole, filled, String.ofList_toList]
  cases isText after rest <;> rfl

theorem identifier?_notice {id : String} (h : Addressable id) (after : String) :
    (notice after).identifier? (pathOf id) = if isText after [] then some id else none := by
  have hsegment := identifier?_segment h.filled h.unslashed [] rfl after
  rwa [List.append_nil] at hsegment

end Target

open Target in
theorem endpointsAt_pathOf {id : String} (h : Addressable id) :
    endpointsAt (pathOf id) = [(.find, id), (.delete, id)] := by
  have list : (fixed root).identifier? (pathOf id) = none := identifier?_root id.toList
  have count : (fixed (root ++ "/unread_count")).identifier? (pathOf id) = none :=
    identifier?_fixed h.notCount rfl
  have markAll : (fixed (root ++ "/mark_all_as_read")).identifier? (pathOf id) = none :=
    identifier?_fixed h.notMarkAll rfl
  simp only [endpointsAt, Endpoint.all, List.filterMap_cons, List.filterMap_nil, Endpoint.target,
    identifier?_notice h, list, count, markAll]
  rfl

theorem route_pathOf {id : String} (h : Addressable id) :
    route "GET" (Target.pathOf id) = .served .find id := by
  rw [route, endpointsAt_pathOf h]
  rfl

/-- A request is served by an endpoint of its path and method if none of those before it is. -/
theorem route_of_skipped (before after : List Endpoint) {verb : String} {path : List Char}
    {e : Endpoint} {id : String} (hall : Endpoint.all = before ++ e :: after)
    (hverb : e.verb = verb) (hid : e.target.identifier? path = some id)
    (hbefore : ∀ f ∈ before, f.verb = verb → f.target.identifier? path = none) :
    route verb path = .served e id := by
  have hskipped : (before.filterMap fun f => (f.target.identifier? path).map (f, ·)).find?
      (·.1.verb = verb) = none := by
    refine List.find?_eq_none.mpr fun (f, k) hf hv => ?_
    obtain ⟨f', hf', hk⟩ := List.mem_filterMap.mp hf
    obtain ⟨k', hk', heq⟩ := Option.map_eq_some_iff.mp hk
    obtain ⟨rfl, rfl⟩ := Prod.mk.inj heq
    cases hk'.symm.trans (hbefore f' hf' (of_decide_eq_true hv))
  have hfirst : (endpointsAt path).find? (·.1.verb = verb) = some (e, id) := by
    rw [endpointsAt, hall, List.filterMap_append, List.find?_append, hskipped,
      List.filterMap_cons_some (by rw [hid]; rfl), List.find?_cons_of_pos (by simpa using hverb)]
    rfl
  rw [route, hfirst]

end Http
end Noticeboard
