import Noticeboard.Proofs.Settings.Lines

/-!
Where a setting is looked up: in the environment first, whose names may be in any letter case, and
then in the file, of which the last line with the name counts. A setting that is in neither has
nothing given for it.
-/

namespace Noticeboard.Settings

open Lines (Plain bound)

def Names (field : Field) (v : String × String) : Prop := sameName v.1 field.name = true

/-- What is given for a setting: the text under its name in the environment, or else on the last
line of the file with its name. -/
inductive Given (environment lines : List (String × String)) (field : Field) : Option String → Prop
  | environment {name text : String} (h : (name, text) ∈ environment)
      (hname : Names field (name, text)) : Given environment lines field (some text)
  | file {name text : String} {front back : List (String × String)}
      (habsent : ∀ v ∈ environment, ¬ Names field v) (h : lines = front ++ (name, text) :: back)
      (hname : Names field (name, text)) (hlast : ∀ v ∈ back, ¬ Names field v) :
      Given environment lines field (some text)
  | default (habsent : ∀ v ∈ environment, ¬ Names field v) (h : ∀ v ∈ lines, ¬ Names field v) :
      Given environment lines field none

theorem sameName_trans {a b c : String} (h : sameName a c = true) (h' : sameName b c = true) :
    sameName a b = true := by
  simp only [sameName, decide_eq_true_eq] at h h' ⊢
  exact h.trans h'.symm

theorem exists_given (environment lines : List (String × String)) (field : Field) :
    ∃ given, Given environment lines field given := by
  by_cases henvironment : ∃ v ∈ environment, Names field v
  · obtain ⟨⟨name, text⟩, h, hname⟩ := henvironment
    exact ⟨_, .environment h hname⟩
  · have habsent : ∀ v ∈ environment, ¬ Names field v := fun v hv h => henvironment ⟨v, hv, h⟩
    cases hfind : lines.reverse.find? (sameName ·.1 field.name) with
    | none =>
        refine ⟨_, .default habsent fun v hv => ?_⟩
        exact List.find?_eq_none.mp hfind v (List.mem_reverse.mpr hv)
    | some v =>
        obtain ⟨name, text⟩ := v
        obtain ⟨hname, back, front, hlines, hback⟩ := List.find?_eq_some_iff_append.mp hfind
        have hsplit : lines = front.reverse ++ (name, text) :: back.reverse := by
          rw [← List.reverse_reverse lines, hlines, List.reverse_append, List.reverse_cons,
            List.append_assoc, List.singleton_append]
        refine ⟨_, .file habsent hsplit hname fun v hv h => ?_⟩
        rw [Names] at h
        simpa [h] using hback v (List.mem_reverse.mp hv)

section Lookup

variable {depth : Depth} {environment lines : List (String × String)} {text : String} {field : Field}

theorem inEnvironment?_eq_none (file : List Binding) (h : ∀ v ∈ environment, ¬ Names field v) :
    Sources.inEnvironment? ⟨environment, file, depth⟩ field = none := by
  rw [Sources.inEnvironment?, Option.map_eq_none_iff, List.find?_eq_none]
  exact fun v hv => h v (List.mem_reverse.mp hv)

theorem inEnvironment?_eq_some
    (hunique : ∀ v ∈ environment, ∀ w ∈ environment, sameName v.1 w.1 = true → v = w)
    (file : List Binding) {name : String} (h : (name, text) ∈ environment)
    (hname : Names field (name, text)) :
    Sources.inEnvironment? ⟨environment, file, depth⟩ field = some text := by
  rw [Sources.inEnvironment?]
  cases hfind : environment.reverse.find? (sameName ·.1 field.name) with
  | none => exact absurd hname (List.find?_eq_none.mp hfind _ (List.mem_reverse.mpr h))
  | some v =>
      have hv : Names field v := (List.find?_eq_some_iff_append.mp hfind).1
      have hmem := List.mem_reverse.mp (List.mem_of_find?_eq_some hfind)
      rw [hunique v hmem _ h (sameName_trans hv hname)]
      rfl

/-- The file gives what its last line with the name gives. -/
theorem inFile?_ofText (hplain : Plain text.toList lines)
    (hnames : ∀ v ∈ lines, ∀ w ∈ lines, sameName v.1 w.1 = true → v.1 = w.1) :
    (Sources.ofText depth environment text).inFile? field =
      (lines.reverse.find? (sameName ·.1 field.name)).map (·.2) := by
  have hresolved := resolved_plain environment lines fun line hline =>
    (hplain.values line hline).unreferring
  have hfile : ∀ b ∈ lines.map bound, ∀ c ∈ lines.map bound, sameName b.1 field.name = true →
      sameName c.1 field.name = true → b.1 = c.1 := by
    intro b hb c hc hbname hcname
    obtain ⟨v, hv, rfl⟩ := List.mem_map.mp hb
    obtain ⟨w, hw, rfl⟩ := List.mem_map.mp hc
    exact hnames v hv w hw (sameName_trans hbname hcname)
  rw [Sources.inFile?, Sources.ofText, ofFile_plain hplain, hresolved,
    find?_file (fun {b c} h => by rw [h]) hfile, ← List.map_reverse, List.find?_map]
  have hcomp : (fun b : Binding => sameName b.1 field.name) ∘ bound = (sameName ·.1 field.name) :=
    rfl
  rw [hcomp]
  cases lines.reverse.find? (sameName ·.1 field.name) <;> rfl

theorem text?_of_inFile? {sources : Sources} (h : sources.inFile? field = none) :
    sources.text? field = sources.inEnvironment? field := by
  rw [Sources.text?, h]
  cases sources.inEnvironment? field <;> rfl

theorem text?_of_inEnvironment? {sources : Sources} (h : sources.inEnvironment? field = none) :
    sources.text? field = sources.inFile? field := by
  rw [Sources.text?, h]
  rfl

theorem text?_of_given
    (hunique : ∀ v ∈ environment, ∀ w ∈ environment, sameName v.1 w.1 = true → v = w)
    (hplain : Plain text.toList lines)
    (hnames : ∀ v ∈ lines, ∀ w ∈ lines, sameName v.1 w.1 = true → v.1 = w.1)
    {given : Option String} (h : Given environment lines field given) :
    (Sources.ofText depth environment text).text? field = given := by
  rw [Sources.text?, inFile?_ofText hplain hnames]
  cases h with
  | environment h hname =>
      rw [Sources.ofText, inEnvironment?_eq_some hunique _ h hname]
      rfl
  | @file name text front back habsent h hname hlast =>
      have hfind : lines.reverse.find? (sameName ·.1 field.name) = some (name, text) := by
        refine List.find?_eq_some_iff_append.mpr ⟨hname, back.reverse, front.reverse, ?_, ?_⟩
        · rw [h, List.reverse_append, List.reverse_cons, List.append_assoc, List.singleton_append]
        · intro v hv
          rw [Bool.not_eq_true', Bool.eq_false_iff]
          exact hlast v (List.mem_reverse.mp hv)
      rw [Sources.ofText, inEnvironment?_eq_none _ habsent, hfind]
      rfl
  | default habsent h =>
      have hfind : lines.reverse.find? (sameName ·.1 field.name) = none :=
        List.find?_eq_none.mpr fun v hv => h v (List.mem_reverse.mp hv)
      rw [Sources.ofText, inEnvironment?_eq_none _ habsent, hfind]
      rfl

end Lookup

end Noticeboard.Settings
