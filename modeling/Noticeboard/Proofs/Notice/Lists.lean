import Noticeboard.Proofs.Notice.Malformed

/-!
Lists of notices. The text of a list holds the texts of documents, and is read as these are read
one by one: as the notices of all of them in order, or else with the problems of all of them, each
within its element.
-/

namespace Noticeboard.Document

open Json.Grammar

/-! ## Elements -/

/-- The problems that a result reports. -/
def problems {α : Type} : Except (List Problem) α → List Problem
  | .ok _ => []
  | .error ps => ps

/-- The problems of the elements of a list, each within its element. The first has number `i`. -/
def problemsFrom (i : Nat) (results : List (Except (List Problem) Notice)) : List Problem :=
  (results.zipIdx i).flatMap fun (result, i) => (problems result).map (.within i)

theorem noticesFrom_eq_ok_iff {i : Nat} {xs : List Json} {ns : List Notice} :
    noticesFrom i xs = .ok ns ↔ xs.map notice = ns.map .ok := by
  induction xs generalizing i ns with
  | nil => cases ns <;> simp [noticesFrom]
  | cons x xs ih =>
      rw [noticesFrom, List.map_cons]
      cases ns with
      | nil => cases notice x <;> cases noticesFrom (i + 1) xs <;> simp
      | cons n ns =>
          rw [List.map_cons, List.cons.injEq, ← @ih (i + 1) ns]
          cases notice x <;> cases noticesFrom (i + 1) xs <;> simp

theorem problems_noticesFrom (i : Nat) (xs : List Json) :
    problems (noticesFrom i xs) = problemsFrom i (xs.map notice) := by
  induction xs generalizing i with
  | nil => rfl
  | cons x xs ih =>
      have hrest := ih (i + 1)
      rw [problemsFrom, List.map_cons, List.zipIdx_cons, List.flatMap_cons, ← problemsFrom, ← hrest,
        noticesFrom]
      cases notice x <;> cases noticesFrom (i + 1) xs <;> simp [problems]

/-- What is read of a list is what is read of its elements: all of their notices, or the problems of
all of them. -/
structure ReadsElements (ds : List String) (result : Except (List Problem) (List Notice)) :
    Prop where
  accepted : ∀ ns, result = .ok ns ↔ ds.map (fun d => read (.text d)) = ns.map .ok
  refused : ∀ ps, result = .error ps → ps = problemsFrom 0 (ds.map fun d => read (.text d))

theorem readsElements_notices {ds : List String} {xs : List Json}
    (h : List.Forall₂ (fun d x => (Source.text d).Denotes x) ds xs) :
    ReadsElements ds (notices (.arr xs)) := by
  have hresults : ds.map (fun d => read (.text d)) = xs.map notice := by
    induction h with
    | nil => rfl
    | cons hd _ ih => rw [List.map_cons, List.map_cons, ih, read, readWith_of_denotes hd]
  refine ⟨fun ns => hresults ▸ noticesFrom_eq_ok_iff, fun ps hps => ?_⟩
  rw [hresults, ← problems_noticesFrom]
  exact (congrArg problems hps).symm

/-! ## Texts -/

/-- Whether a text is a document that may stand in a list, where containers can be nested one level
less deep than in a document that stands alone. -/
def Shallow (d : String) : Prop :=
  ∃ x w body w', Blank w ∧ Blank w' ∧ Value dialect 199 x body ∧ d.toList = w ++ (body ++ w')

/-- Texts with commas between them and white space around each. -/
inductive Separated : List String → List Char → Prop
  | last {d : String} {w w' : List Char} (hw : Blank w) (hw' : Blank w') :
      Separated [d] (w ++ (d.toList ++ w'))
  | more {d : String} {ds : List String} {w w' rest : List Char} (hw : Blank w) (hw' : Blank w')
      (hrest : Separated ds rest) : Separated (d :: ds) (w ++ (d.toList ++ (w' ++ ',' :: rest)))

inductive Bracketed : List String → List Char → Prop
  | none {w : List Char} (hw : Blank w) : Bracketed [] ('[' :: (w ++ [']']))
  | some {ds : List String} {inside : List Char} (h : Separated ds inside) :
      Bracketed ds ('[' :: (inside ++ [']']))

/-- Whether a source holds the list of some texts, with nothing but white space around it. -/
def Source.Lists (source : Source) (ds : List String) : Prop :=
  ∃ w list w', Blank w ∧ Blank w' ∧ Bracketed ds list ∧ source.Holds (w ++ (list ++ w'))

theorem elements_of_separated {ds : List String} {inside : List Char} (h : Separated ds inside)
    (hds : ∀ d ∈ ds, Shallow d) :
    ∃ w cs xs, Blank w ∧ inside = w ++ cs ∧ Elements dialect 199 xs cs ∧
      List.Forall₂ (fun d x => (Source.text d).Denotes x) ds xs := by
  induction h with
  | @last d w w' hw hw' =>
      obtain ⟨x, v, body, v', hv, hv', hbody, hd⟩ := hds d List.mem_cons_self
      refine ⟨w ++ v, body ++ (v' ++ w'), [x], hw.append hv, ?_,
        .last hbody (hv'.append hw'), .cons ⟨v, body, v', hv, hv', hbody.mono (by decide), hd⟩ .nil⟩
      simp only [hd, List.append_assoc]
  | @more d ds w w' rest hw hw' hrest ih =>
      obtain ⟨x, v, body, v', hv, hv', hbody, hd⟩ := hds d List.mem_cons_self
      obtain ⟨u, cs, xs, hu, rfl, helements, hxs⟩ :=
        ih fun d hd => hds d (List.mem_cons_of_mem _ hd)
      refine ⟨w ++ v, body ++ ((v' ++ w') ++ ',' :: (u ++ cs)), x :: xs, hw.append hv, ?_,
        .more hbody (hv'.append hw') hu helements,
        .cons ⟨v, body, v', hv, hv', hbody.mono (by decide), hd⟩ hxs⟩
      simp only [hd, List.append_assoc]

/-- The text of a list stands for the values of its elements. -/
theorem Source.Lists.denotes {source : Source} {ds : List String} (h : source.Lists ds)
    (hds : ∀ d ∈ ds, Shallow d) :
    ∃ xs, source.Denotes (.arr xs) ∧
      List.Forall₂ (fun d x => (Source.text d).Denotes x) ds xs := by
  obtain ⟨w, list, w', hw, hw', hlist, hsource⟩ := h
  cases hlist with
  | none hv => exact ⟨[], ⟨w, _, w', hw, hw', .noElements rfl hv, hsource⟩, .nil⟩
  | some hinside =>
      obtain ⟨v, cs, xs, hv, rfl, helements, hxs⟩ := elements_of_separated hinside hds
      rw [List.append_assoc] at hsource
      exact ⟨xs, ⟨w, _, w', hw, hw', .elements hv helements, hsource⟩, hxs⟩

/-- The list of some documents is read as those documents are read one by one: as all of their
notices if each of them is one, and otherwise with the problems of all of them, each within its
element. Any other document is refused as no list. -/
theorem lists_read_by_element :
    (∀ {source : Source} {ds : List String}, source.Lists ds → (∀ d ∈ ds, Shallow d) →
        ReadsElements ds (readList source)) ∧
      ∀ {source : Source} {x : Json}, source.Denotes x → (∀ xs, x ≠ .arr xs) →
        readList source = .error [⟨[], .notList⟩] := by
  refine ⟨fun {source ds} h hds => ?_, fun {source x} hx hlist => ?_⟩
  · obtain ⟨xs, hxs, helements⟩ := h.denotes hds
    rw [readList, readWith_of_denotes hxs]
    exact readsElements_notices helements
  · rw [readList, readWith_of_denotes hx, notices]
    exact hlist

/-- Three documents: a notice, one that is no object, and one with a field of the wrong type. -/
def mixedTexts : List String := ["\x7b\"id\":\"a\"\x7d", "7", "\x7b\"read\":7\x7d"]

def mixedList : Source := .text "[\x7b\"id\":\"a\"\x7d ,7,\n\x7b\"read\":7\x7d]"

theorem value_seven (room : Nat) : Value dialect room (.int 7) ['7'] :=
  .number (@Number.whole dialect false [7] ['7'] ⟨⟨by decide, by decide, rfl⟩, by decide⟩
    (by decide))

theorem shallow_mixedTexts : ∀ d ∈ mixedTexts, Shallow d := by
  have name {s : String} (h : s.toList.all isPlain) := quoted_plain h
  have letter : Value dialect 198 (.str "a") _ := .string (@name "a" (by decide))
  have first := Members.last (@name "id" (by decide)) blank_nil blank_nil letter blank_nil
  have last :=
    Members.last (@name "read" (by decide)) blank_nil blank_nil (value_seven 198) blank_nil
  simp only [mixedTexts, List.forall_mem_cons]
  exact ⟨⟨_, [], _, [], blank_nil, blank_nil, .members blank_nil first, by decide +kernel⟩,
    ⟨_, [], _, [], blank_nil, blank_nil, value_seven 199, rfl⟩,
    ⟨_, [], _, [], blank_nil, blank_nil, .members blank_nil last, by decide +kernel⟩, nofun⟩

theorem lists_mixedList : mixedList.Lists mixedTexts := by
  have space : Blank [' '] := by simp [Blank, IsBlank]
  have line : Blank ['\n'] := by simp [Blank, IsBlank]
  exact ⟨[], _, [], blank_nil, blank_nil,
    .some (.more blank_nil space (.more blank_nil blank_nil (.last line blank_nil))),
    show String.toList _ = _ by decide +kernel⟩

theorem mixed_list_read :
    mixedList.Lists mixedTexts ∧ (∀ d ∈ mixedTexts, Shallow d) ∧
      ReadsElements mixedTexts (readList mixedList) ∧
      readList mixedList =
        .error [⟨[.index 1], .notObject⟩, ⟨[.index 2, .member "read"], .notFlag⟩] ∧
      (Source.text "7").Denotes (.int 7) ∧ readList (.text "7") = .error [⟨[], .notList⟩] := by
  have hseven : (Source.text "7").Denotes (.int 7) :=
    ⟨[], _, [], blank_nil, blank_nil, value_seven 200, rfl⟩
  exact ⟨lists_mixedList, shallow_mixedTexts,
    lists_read_by_element.1 lists_mixedList shallow_mixedTexts, by decide +kernel, hseven,
    lists_read_by_element.2 hseven nofun⟩

end Noticeboard.Document
