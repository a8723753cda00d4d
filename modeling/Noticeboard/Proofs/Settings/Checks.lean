import Mathlib.Data.List.Pairwise
import Noticeboard.Proofs.Json.Limits
import Noticeboard.Proofs.Settings.Whole
import Noticeboard.Settings.Basic

/-!
What can be wrong with settings, and how each check tells it. A check reports all that is wrong with
its setting, and where nothing is it has the value that was given, or the default.
-/

namespace Noticeboard.Settings

open Whole (Counts)

/-! ## What is acceptable -/

/-- Whether a text is JSON for a value, for a reader that goes as deep as it takes. -/
def Denotes (s : String) (x : Json) : Prop := ∃ depth, Json.attempt (.lenient depth) s.toList = .ok x

theorem Denotes.unique {s : String} {x y : Json} (h : Denotes s x) (h' : Denotes s y) : x = y := by
  obtain ⟨_, h⟩ := h
  obtain ⟨_, h'⟩ := h'
  exact Json.attempt_unique h h'

/-- Whether a JSON value is a text. A garbled one is taken as it is mended. -/
inductive TextOf : Json → String → Prop
  | str (s : String) : TextOf (.str s) s
  | garbled (s : String) : TextOf (.garbled s) s

def filled : List Field := [.databaseURL, .secretKey]

def counts : List Field := [.tokenMinutes, .pageSize, .markAllLimit]

/-- Whether something is wrong with what is given for a setting, or with the element under an index
of it. -/
inductive Offends (given : Field → Option String) : Field → Option Nat → Prop
  | missing (h : given .secretKey = none) : Offends given .secretKey none
  | empty {field : Field} (hfield : field ∈ filled) (h : given field = some "") :
      Offends given field none
  | notCount {field : Field} {s : String} (hfield : field ∈ counts) (h : given field = some s)
      (hnone : ¬ ∃ n, Counts s.toList n) : Offends given field none
  | notList {s : String} {x : Json} (h : given .origins = some s)
      (hread : Denotes s x) (hnull : x ≠ .null)
      (hlist : ¬ ∃ xs, x = .arr xs) : Offends given .origins none
  | notText {s : String} {xs : List Json} {i : Nat} {x : Json} (h : given .origins = some s)
      (hread : Denotes s (.arr xs)) (hx : xs[i]? = some x)
      (htext : ¬ ∃ s, TextOf x s) : Offends given .origins (some i)

/-- Whether what is given for all settings can be loaded. -/
structure Acceptable (given : Field → Option String) : Prop where
  secretKey : ∃ s, given .secretKey = some s ∧ s ≠ ""
  databaseURL : given .databaseURL ≠ some ""
  counts : ∀ field ∈ counts, ∀ s, given field = some s → ∃ n, Counts s.toList n
  origins : ∀ s x, given .origins = some s → Denotes s x →
    x = .null ∨ ∃ xs, x = .arr xs ∧ ∀ y ∈ xs, ∃ s, TextOf y s

/-- The count that is given, or the default. -/
inductive Means (default : Nat) : Option String → Nat → Prop
  | default : Means default none default
  | given {s : String} {n : Nat} (h : Counts s.toList n) : Means default (some s) n

/-- The origins that are given. There are none in null, nor by default. -/
inductive Lists : Option String → List String → Prop
  | default : Lists none []
  | null {s : String} (h : Denotes s .null) : Lists (some s) []
  | elements {s : String} {xs : List Json} {texts : List String}
      (h : Denotes s (.arr xs)) (htexts : List.Forall₂ TextOf xs texts) :
      Lists (some s) texts

/-- Whether settings are what is given, or the defaults where nothing is. -/
structure Loads (given : Field → Option String) (s : Settings) : Prop where
  databaseURL : s.databaseURL = (given .databaseURL).getD "sqlite:///./boardnotify.db"
  secretKey : given .secretKey = some s.secretKey
  tokenMinutes : Means 60 (given .tokenMinutes) s.tokenMinutes.val
  timeZone : s.timeZone = (given .timeZone).getD "UTC"
  tablePrefix : s.tablePrefix = (given .tablePrefix).getD ""
  pageSize : Means 50 (given .pageSize) s.pageSize.val
  markAllLimit : Means 1000 (given .markAllLimit) s.markAllLimit.val
  logLevel : s.logLevel = (given .logLevel).getD "INFO"
  origins : Lists (given .origins) s.origins

def Field.place (field : Field) : Nat := Field.all.idxOf field

/-- Whether a problem is to be reported before another. -/
def Problem.Precedes (p q : Problem) : Prop :=
  p.field.place < q.field.place ∨
    p.field = q.field ∧ ∃ i j, p.index = some i ∧ q.index = some j ∧ i < j

/-- Whether problems are all that is wrong, each once and in order. -/
structure Listed (given : Field → Option String) (ps : List Problem) : Prop where
  ordered : ps.Pairwise Problem.Precedes
  exact : ∀ field index, (∃ p ∈ ps, p.field = field ∧ p.index = index) ↔ Offends given field index

section Offences

variable {given : Field → Option String} {field : Field} {index : Option Nat}

theorem not_count_of_filled (h : field ∈ filled) : field ∉ counts := by
  cases field with
  | databaseURL | secretKey => decide
  | _ => exact absurd h (by decide)

theorem offends_filled (hfield : field ∈ filled) : Offends given field index ↔
    index = none ∧ (given field = some "" ∨ field = .secretKey ∧ given field = none) := by
  constructor
  · intro h
    cases h with
    | missing h => exact ⟨rfl, .inr ⟨rfl, h⟩⟩
    | empty _ h => exact ⟨rfl, .inl h⟩
    | notCount hcount => exact absurd hcount (not_count_of_filled hfield)
    | notList => exact absurd hfield (by decide)
    | notText => exact absurd hfield (by decide)
  · rintro ⟨rfl, h | ⟨rfl, h⟩⟩
    · exact .empty hfield h
    · exact .missing h

theorem offends_count (hfield : field ∈ counts) : Offends given field index ↔
    index = none ∧ ∃ s, given field = some s ∧ ¬ ∃ n, Counts s.toList n := by
  constructor
  · intro h
    cases h with
    | missing => exact absurd hfield (by decide)
    | empty hfilled => exact absurd hfield (not_count_of_filled hfilled)
    | notCount _ h hnone => exact ⟨rfl, _, h, hnone⟩
    | notList => exact absurd hfield (by decide)
    | notText => exact absurd hfield (by decide)
  · rintro ⟨rfl, s, h, hnone⟩
    exact .notCount hfield h hnone

/-- Settings are acceptable if nothing is wrong with them. -/
theorem acceptable_iff : Acceptable given ↔ ∀ field index, ¬ Offends given field index := by
  constructor
  · intro h field index hoffends
    cases hoffends with
    | missing hnone =>
        obtain ⟨s, hs, -⟩ := h.secretKey
        cases hnone.symm.trans hs
    | empty hfield hempty =>
        simp only [filled, List.mem_cons, List.not_mem_nil, or_false] at hfield
        rcases hfield with rfl | rfl
        · exact h.databaseURL hempty
        · obtain ⟨s, hs, hne⟩ := h.secretKey
          cases hempty.symm.trans hs
          exact hne rfl
    | notCount hfield hgiven hnone => exact hnone (h.counts _ hfield _ hgiven)
    | notList hgiven hread hnull hlist =>
        rcases h.origins _ _ hgiven hread with h | ⟨xs, h, -⟩
        · exact hnull h
        · exact hlist ⟨xs, h⟩
    | notText hgiven hread hx htext =>
        rcases h.origins _ _ hgiven hread with h | ⟨xs, h, hall⟩
        · cases h
        · cases h
          exact htext (hall _ (List.mem_of_getElem? hx))
  · intro h
    refine ⟨?_, fun hempty => h _ _ (.empty (by decide) hempty), fun field hfield s hgiven => ?_,
      fun s x hgiven hread => ?_⟩
    · cases hkey : given .secretKey with
      | none => exact absurd (.missing hkey) (h _ _)
      | some s =>
          refine ⟨s, rfl, ?_⟩
          rintro rfl
          exact h _ _ (.empty (by decide) hkey)
    · by_contra hnone
      exact h _ _ (.notCount hfield hgiven hnone)
    · by_cases hlist : ∃ xs, x = .arr xs
      · obtain ⟨xs, rfl⟩ := hlist
        refine .inr ⟨xs, rfl, fun y hy => ?_⟩
        by_contra htext
        obtain ⟨i, hi⟩ := List.getElem?_of_mem hy
        exact h _ _ (.notText hgiven hread hi htext)
      · refine .inl ?_
        by_contra hnull
        exact h _ _ (.notList hgiven hread hnull hlist)

end Offences

/-! ## Checks -/

/-- Whether problems are all that is wrong with one setting, each once and in order. -/
structure Reports (given : Field → Option String) (field : Field) (ps : List Problem) : Prop where
  own : ∀ p ∈ ps, p.field = field
  ordered : ps.Pairwise Problem.Precedes
  exact : ∀ index, (∃ p ∈ ps, p.index = index) ↔ Offends given field index

section Checks

variable {given : Field → Option String} {field : Field}

theorem reports_nil (h : ∀ index, ¬ Offends given field index) : Reports given field [] where
  own := List.forall_mem_nil _
  ordered := .nil
  exact index := ⟨fun ⟨_, hp, _⟩ => absurd hp List.not_mem_nil, fun ho => absurd ho (h index)⟩

theorem reports_one {fault : Fault} (h : ∀ index, Offends given field index ↔ index = none) :
    Reports given field [{ field, fault }] where
  own := List.forall_mem_singleton.mpr rfl
  ordered := List.pairwise_singleton _ _
  exact index := by
    rw [h index]
    constructor
    · rintro ⟨p, hp, rfl⟩
      cases List.mem_singleton.mp hp
      rfl
    · rintro rfl
      exact ⟨_, List.mem_singleton_self _, rfl⟩

theorem Reports.eq_nil {ps : List Problem} (hreports : Reports given field ps)
    (h : ∀ index, ¬ Offends given field index) : ps = [] :=
  List.eq_nil_iff_forall_not_mem.mpr fun p hp => h p.index ((hreports.exact _).mp ⟨p, hp, rfl⟩)

theorem reports_filledText (hfield : field ∈ filled) {default : Option String}
    (hdefault : default = none ↔ field = .secretKey) :
    Reports given field (filledText field (given field) default).problems := by
  cases hgiven : given field with
  | some s =>
      rw [filledText]
      split
      · next hs =>
          subst hs
          exact reports_one fun index => by
            rw [offends_filled hfield, hgiven]
            simp
      · next hs =>
          exact reports_nil fun index => by
            rw [offends_filled hfield, hgiven]
            simp [hs]
  | none =>
      cases default with
      | some s =>
          exact reports_nil fun index => by
            rw [offends_filled hfield, hgiven]
            simp [← hdefault]
      | none =>
          exact reports_one fun index => by
            rw [offends_filled hfield, hgiven]
            simp [← hdefault]

theorem filledText_ok {text default : Option String}
    (h : (filledText field text default).problems = []) :
    ∃ s, filledText field text default = .ok s ∧ text.or default = some s := by
  match text, default with
  | some s, _ =>
      rw [filledText] at h ⊢
      split at h
      · cases h
      · next hs => exact ⟨s, if_neg hs, rfl⟩
  | none, some s => exact ⟨s, rfl, rfl⟩
  | none, none => cases h

theorem count_of_counts {s : String} {n : Nat} (h : Counts s.toList n) (default : Count) :
    count field (some s) default = .ok ⟨n, h.pos⟩ := by
  simp only [count, (Whole.read_eq_ok_iff h.pos).mpr h, Int.toNat_natCast, h.pos, ↓reduceDIte]

theorem count_of_not_counts {s : String} (h : ¬ ∃ n, Counts s.toList n) (default : Count) :
    ∃ fault, count field (some s) default = fail field fault := by
  rw [count]
  split
  · exact ⟨_, rfl⟩
  · exact ⟨_, rfl⟩
  · next m hread =>
      by_cases hm : 0 < m.toNat
      · have hcast : (m.toNat : Int) = m := Int.toNat_of_nonneg (by omega)
        rw [← hcast] at hread
        exact absurd ⟨_, (Whole.read_eq_ok_iff hm).mp hread⟩ h
      · exact ⟨_, dif_neg hm⟩

theorem reports_count (hfield : field ∈ counts) (default : Count) :
    Reports given field (count field (given field) default).problems := by
  cases hgiven : given field with
  | none =>
      exact reports_nil fun index => by
        rw [offends_count hfield, hgiven]
        simp
  | some s =>
      by_cases hs : ∃ n, Counts s.toList n
      · obtain ⟨n, hn⟩ := hs
        rw [count_of_counts hn]
        refine reports_nil fun index h => ?_
        obtain ⟨-, s', hs', hnone⟩ := (offends_count hfield).mp h
        cases hgiven.symm.trans hs'
        exact hnone ⟨n, hn⟩
      · obtain ⟨fault, hfault⟩ := count_of_not_counts hs default
        rw [hfault]
        refine reports_one fun index => (offends_count hfield).trans ?_
        exact ⟨fun h => h.1, fun h => ⟨h, s, hgiven, hs⟩⟩

theorem count_ok {text : Option String} {default : Count}
    (h : (count field text default).problems = []) :
    ∃ n, count field text default = .ok n ∧ Means default.val text n.val := by
  cases text with
  | none => exact ⟨default, rfl, .default⟩
  | some s =>
      by_cases hs : ∃ n, Counts s.toList n
      · obtain ⟨n, hn⟩ := hs
        exact ⟨_, count_of_counts hn default, .given hn⟩
      · obtain ⟨fault, hfault⟩ := count_of_not_counts hs default
        rw [hfault] at h
        cases h

/-! ### Origins -/

theorem textsFrom_text {x : Json} {s : String} (h : TextOf x s) (i : Nat) (xs : List Json) :
    textsFrom i (x :: xs) = (textsFrom (i + 1) xs).map (s :: ·) := by
  cases h <;> cases hxs : textsFrom (i + 1) xs <;> simp only [textsFrom, hxs] <;> rfl

theorem textsFrom_other {x : Json} (h : ¬ ∃ s, TextOf x s) (i : Nat) (xs : List Json) :
    textsFrom i (x :: xs) = .error
      ({ field := .origins, index := some i, fault := .notText } ::
        (textsFrom (i + 1) xs).problems) := by
  cases x with
  | str s => exact absurd ⟨s, .str s⟩ h
  | garbled s => exact absurd ⟨s, .garbled s⟩ h
  | _ => cases hxs : textsFrom (i + 1) xs <;> simp only [textsFrom, hxs]

theorem problems_map {α β : Type} (f : α → β) (c : Checked α) :
    Checked.problems (Except.map f c) = c.problems := by
  cases c <;> rfl

/-- Whether a place in a list whose first element is number `i` has an element that is no text. -/
def Wrong (i : Nat) (xs : List Json) (index : Option Nat) : Prop :=
  ∃ k x, xs[k]? = some x ∧ (¬ ∃ s, TextOf x s) ∧ index = some (i + k)

theorem wrong_cons {i : Nat} {x : Json} {xs : List Json} {index : Option Nat} :
    Wrong i (x :: xs) index ↔
      ((¬ ∃ s, TextOf x s) ∧ index = some i) ∨ Wrong (i + 1) xs index := by
  constructor
  · rintro ⟨k, y, hy, htext, rfl⟩
    cases k with
    | zero =>
        cases hy
        exact .inl ⟨htext, rfl⟩
    | succ k => exact .inr ⟨k, y, hy, htext, congrArg some (by omega)⟩
  · rintro (⟨htext, rfl⟩ | ⟨k, y, hy, htext, rfl⟩)
    · exact ⟨0, x, rfl, htext, rfl⟩
    · exact ⟨k + 1, y, hy, htext, congrArg some (by omega)⟩

/-- The elements that are no texts are reported, each under its number. -/
theorem textsFrom_problems (i : Nat) (xs : List Json) :
    (∀ p ∈ (textsFrom i xs).problems, p.field = .origins) ∧
      (textsFrom i xs).problems.Pairwise Problem.Precedes ∧
      ∀ index, (∃ p ∈ (textsFrom i xs).problems, p.index = index) ↔ Wrong i xs index := by
  induction xs generalizing i with
  | nil =>
      refine ⟨List.forall_mem_nil _, .nil, fun index => ⟨?_, ?_⟩⟩
      · rintro ⟨p, hp, -⟩
        cases hp
      · rintro ⟨k, x, hx, -⟩
        cases hx
  | cons x xs ih =>
      obtain ⟨hown, hordered, hexact⟩ := ih (i + 1)
      by_cases htext : ∃ s, TextOf x s
      · obtain ⟨s, hs⟩ := htext
        rw [textsFrom_text hs, problems_map]
        refine ⟨hown, hordered, fun index => ?_⟩
        rw [hexact, wrong_cons, or_iff_right fun h => h.1 ⟨s, hs⟩]
      · rw [textsFrom_other htext]
        refine ⟨List.forall_mem_cons.mpr ⟨rfl, hown⟩, List.pairwise_cons.mpr ⟨fun p hp => ?_, hordered⟩,
          fun index => ?_⟩
        · obtain ⟨k, y, -, -, hindex⟩ := (hexact _).mp ⟨p, hp, rfl⟩
          exact .inr ⟨(hown p hp).symm, i, i + 1 + k, rfl, hindex, by omega⟩
        · rw [wrong_cons, ← hexact, Checked.problems]
          simp only [List.mem_cons, exists_eq_or_imp]
          exact or_congr_left ⟨fun h => ⟨htext, h.symm⟩, fun h => h.2.symm⟩

theorem textsFrom_ok {i : Nat} {xs : List Json} (h : (textsFrom i xs).problems = []) :
    ∃ texts, textsFrom i xs = .ok texts ∧ List.Forall₂ TextOf xs texts := by
  induction xs generalizing i with
  | nil => exact ⟨[], rfl, .nil⟩
  | cons x xs ih =>
      by_cases htext : ∃ s, TextOf x s
      · obtain ⟨s, hs⟩ := htext
        rw [textsFrom_text hs, problems_map] at h
        obtain ⟨texts, htexts, hall⟩ := ih h
        exact ⟨s :: texts, by rw [textsFrom_text hs, htexts]; rfl, .cons hs hall⟩
      · rw [textsFrom_other htext] at h
        cases h

theorem json?_split {depth : Nat} {text : Option String} {found : Option Json}
    (h : json? depth text = .ok found) :
    (text = none ∧ found = none) ∨
      ∃ s x, text = some s ∧ Denotes s x ∧ found = some x := by
  cases text with
  | none =>
      cases h
      exact .inl ⟨rfl, rfl⟩
  | some s =>
      rw [json?] at h
      split at h
      · next x hx =>
          cases h
          exact .inr ⟨s, x, rfl, ⟨depth, hx⟩, rfl⟩
      · cases h
      · cases h

theorem offends_origins {s : String} {x : Json} {index : Option Nat}
    (hgiven : given .origins = some s) (hread : Denotes s x) :
    Offends given .origins index ↔
      (index = none ∧ x ≠ .null ∧ ¬ ∃ xs, x = .arr xs) ∨ ∃ xs, x = .arr xs ∧ Wrong 0 xs index := by
  constructor
  · intro h
    cases h with
    | empty hfield | notCount hfield => exact absurd hfield (by decide)
    | notList h hread' hnull hlist =>
        cases hgiven.symm.trans h
        cases hread.unique hread'
        exact .inl ⟨rfl, hnull, hlist⟩
    | @notText s' xs i y h hread' hy htext =>
        cases hgiven.symm.trans h
        cases hread.unique hread'
        exact .inr ⟨xs, rfl, i, y, hy, htext, by rw [Nat.zero_add]⟩
  · rintro (⟨rfl, hnull, hlist⟩ | ⟨xs, rfl, k, y, hy, htext, rfl⟩)
    · exact .notList hgiven hread hnull hlist
    · rw [Nat.zero_add]
      exact .notText hgiven hread hy htext

theorem reports_originList {depth : Nat} {found : Option Json}
    (h : json? depth (given .origins) = .ok found) :
    Reports given .origins (originList found).problems := by
  obtain ⟨hnone, rfl⟩ | ⟨s, x, hgiven, hread, rfl⟩ := json?_split h
  · refine reports_nil fun index hoffends => ?_
    cases hoffends with
    | empty hfield | notCount hfield => exact absurd hfield (by decide)
    | notList h | notText h => cases hnone.symm.trans h
  · have hiff (index : Option Nat) : Offends given .origins index ↔ _ := offends_origins hgiven hread
    cases x with
    | null => exact reports_nil fun index => by rw [hiff]; simp
    | arr xs =>
        obtain ⟨hown, hordered, hexact⟩ := textsFrom_problems 0 xs
        exact ⟨hown, hordered, fun index => by rw [originList, hexact, hiff]; simp⟩
    | _ => exact reports_one fun index => by rw [hiff]; simp

theorem originList_ok {depth : Nat} {text : Option String} {found : Option Json}
    (h : json? depth text = .ok found) (hnil : (originList found).problems = []) :
    ∃ texts, originList found = .ok texts ∧ Lists text texts := by
  obtain ⟨rfl, rfl⟩ | ⟨s, x, rfl, hread, rfl⟩ := json?_split h
  · exact ⟨[], rfl, .default⟩
  · cases x with
    | null => exact ⟨[], rfl, .null hread⟩
    | arr xs =>
        obtain ⟨texts, htexts, hall⟩ := textsFrom_ok hnil
        exact ⟨texts, htexts, .elements hread hall⟩
    | _ => cases hnil

end Checks

end Noticeboard.Settings
