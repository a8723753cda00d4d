import Noticeboard.Proofs.Json.Soundness
import Noticeboard.Proofs.Notice.RoundTrip

/-!
Malformed documents. A source is refused as no JSON, and for nothing else, exactly if it is not one
text of the grammar as a whole. Every other source stands for one value, and that value alone
decides what is read, or what is wrong with it.
-/

namespace Noticeboard.Document

open Json.Grammar

/-- What is wrong with a source that is no JSON at all. -/
def Problem.malformed : Problem := { location := [], kind := .notJson }

/-- Whether a source is one text for a value, with nothing but white space around it. Where it holds
bytes they are the text in UTF-8. -/
def Source.Denotes (source : Source) (x : Json) : Prop :=
  ∃ w body w', Blank w ∧ Blank w' ∧ Value dialect 200 x body ∧ source.Holds (w ++ (body ++ w'))

namespace Source

variable {source : Source} {x : Json} {cs : List Char}

theorem holds_iff : source.Holds cs ↔ source.chars? = some cs := by
  refine ⟨Holds.chars, fun h => ?_⟩
  cases source with
  | text s | textFile f => exact Option.some.inj h
  | bytes bs | buffer bs | byteFile f => exact Text.Utf8.decode?_eq_some_iff.mp h

theorem json?_eq_some_iff : source.json? = some x ↔ source.Denotes x := by
  rw [json?, Option.bind_eq_some_iff]
  constructor
  · rintro ⟨cs, hcs, hx⟩
    obtain ⟨w, body, w', hw, hw', rfl, hbody⟩ := (Json.read_eq_some_iff rfl).mp hx
    exact ⟨w, body, w', hw, hw', hbody, holds_iff.mpr hcs⟩
  · rintro ⟨w, body, w', hw, hw', hbody, hsource⟩
    exact ⟨_, holds_iff.mp hsource,
      (Json.read_eq_some_iff rfl).mpr ⟨w, body, w', hw, hw', rfl, hbody⟩⟩

theorem json?_eq_none_iff : source.json? = none ↔ ¬ ∃ x, source.Denotes x := by
  simp only [← json?_eq_some_iff, ← Option.isSome_iff_exists, Option.not_isSome_iff_eq_none]

theorem denotes_unique {y : Json} (hx : source.Denotes x) (hy : source.Denotes y) : y = x :=
  Option.some.inj ((json?_eq_some_iff.mpr hy).symm.trans (json?_eq_some_iff.mpr hx))

end Source

/-! ## Problems with a value -/

theorem kind_of_fault? {shape : Shape} {x : Json} {kind : Problem.Kind}
    (h : shape.fault? x = some kind) : kind ≠ .notJson := by
  rintro rfl
  rw [Shape.fault?.eq_def] at h
  repeat' split at h
  all_goals cases h

theorem kind_of_notice {x : Json} {problems : List Problem} (h : notice x = .error problems) :
    ∀ p ∈ problems, p.kind ≠ .notJson := by
  rw [notice.eq_def] at h
  split at h
  · next ms =>
      split at h
      · cases h
      · cases h
        intro p hp
        obtain ⟨field, -, hproblem⟩ := List.mem_filterMap.mp hp
        obtain ⟨kind, hfault, rfl⟩ := Option.map_eq_some_iff.mp hproblem
        exact kind_of_fault? hfault
  · cases h
    simp

theorem kind_of_noticesFrom {i : Nat} {xs : List Json} {problems : List Problem}
    (h : noticesFrom i xs = .error problems) : ∀ p ∈ problems, p.kind ≠ .notJson := by
  -- A problem with an element keeps its kind among the problems of the list.
  have within {i : Nat} {problems : List Problem} (h : ∀ p ∈ problems, p.kind ≠ .notJson) :
      ∀ p ∈ problems.map (Problem.within i), p.kind ≠ .notJson :=
    List.forall_mem_map.mpr h
  induction xs generalizing i problems with
  | nil => cases h
  | cons x xs ih =>
      rw [noticesFrom] at h
      split at h
      · cases h
      · next hlater =>
          cases h
          exact ih hlater
      · next hhere _ =>
          cases h
          exact within (kind_of_notice hhere)
      · next hhere hlater =>
          cases h
          exact List.forall_mem_append.mpr ⟨within (kind_of_notice hhere), ih hlater⟩

theorem kind_of_notices {x : Json} {problems : List Problem} (h : notices x = .error problems) :
    ∀ p ∈ problems, p.kind ≠ .notJson := by
  rw [notices.eq_def] at h
  split at h
  · exact kind_of_noticesFrom h
  · cases h
    simp

/-! ## Problems with a source -/

variable {α : Type} {f : Json → Except (List Problem) α} {source : Source} {x : Json}

theorem readWith_of_denotes (h : source.Denotes x) : readWith f source = f x := by
  rw [readWith, Source.json?_eq_some_iff.mpr h]

theorem readWith_of_not_denotes (h : ¬ ∃ x, source.Denotes x) :
    readWith f source = .error [.malformed] := by
  rw [readWith, Source.json?_eq_none_iff.mpr h]
  rfl

/-- A reader whose own problems are of other kinds refuses a source as no JSON exactly if it is
none, and then for nothing else. -/
theorem malformed_iff
    (hf : ∀ x problems, f x = .error problems → ∀ p ∈ problems, p.kind ≠ .notJson) :
    (readWith f source = .error [.malformed] ↔ ¬ ∃ x, source.Denotes x) ∧
      ∀ problems, readWith f source = .error problems → ∀ p ∈ problems, p.kind = .notJson →
        problems = [.malformed] := by
  by_cases h : ∃ x, source.Denotes x
  · obtain ⟨x, hx⟩ := h
    rw [readWith_of_denotes hx]
    refine ⟨⟨fun h => ?_, fun h => absurd ⟨x, hx⟩ h⟩, ?_⟩
    · exact absurd rfl (hf x _ h .malformed List.mem_cons_self)
    · exact fun problems h p hp hkind => absurd hkind (hf x problems h p hp)
  · rw [readWith_of_not_denotes h]
    exact ⟨iff_of_true rfl h, fun problems hproblems _ _ _ => (Except.error.inj hproblems).symm⟩

/-- A source that is not one JSON text as a whole is refused as no JSON, and nothing else is said of
it; no other source is refused so. Any other source denotes one value, and what is read of it
depends on that value alone. -/
theorem malformed_never_half_read (source : Source) :
    ((read source = .error [.malformed] ↔ ¬ ∃ x, source.Denotes x) ∧
        ∀ problems, read source = .error problems → ∀ p ∈ problems, p.kind = .notJson →
          problems = [.malformed]) ∧
      ((readList source = .error [.malformed] ↔ ¬ ∃ x, source.Denotes x) ∧
        ∀ problems, readList source = .error problems → ∀ p ∈ problems, p.kind = .notJson →
          problems = [.malformed]) ∧
      ∀ x, source.Denotes x →
        (∀ y, source.Denotes y → y = x) ∧ read source = notice x ∧ readList source = notices x := by
  refine ⟨malformed_iff fun _ _ => kind_of_notice, malformed_iff fun _ _ => kind_of_notices, ?_⟩
  intro x hx
  exact ⟨fun y hy => Source.denotes_unique hx hy, readWith_of_denotes hx, readWith_of_denotes hx⟩

/-- Half of a surrogate pair under a name that is not looked at. -/
def halvedPair : Source := .text "\x7b\"message\":\"hi\",\"note\":\"\\ud83d\"\x7d"

/-- A document in UTF-8 with a number that is none under such a name. -/
def oddNote : Source := .bytes (Text.Utf8.encode "\x7b\"note\" : [NaN],\"message\":\"hé\"\x7d\n")

theorem denotes_oddNote :
    oddNote.Denotes (.obj [("note", .arr [.real .nan]), ("message", .str "hé")]) := by
  have space : Blank [' '] := by simp [Blank, IsBlank]
  have line : Blank ['\n'] := by simp [Blank, IsBlank]
  have name {s : String} (h : s.toList.all isPlain) := quoted_plain h
  have number : Value dialect 198 (.real .nan) ['N', 'a', 'N'] :=
    .word (by simp [Json.Reader.words])
  have hmembers :=
    Members.more (@name "note" (by decide)) space space
      (.elements blank_nil (.last number blank_nil)) blank_nil blank_nil <|
    .last (@name "message" (by decide)) blank_nil blank_nil (.string (@name "hé" (by decide)))
      blank_nil
  exact ⟨[], _, ['\n'], blank_nil, line, .members blank_nil hmembers,
    show Text.Utf8.encode _ = Text.Utf8.encodeChars _ by decide +kernel⟩

theorem halved_pair_refused :
    (read halvedPair = .error [.malformed] ∧ ¬ ∃ x, halvedPair.Denotes x) ∧
      oddNote.Denotes (.obj [("note", .arr [.real .nan]), ("message", .str "hé")]) ∧
      read oddNote = .ok ⟨"", "", "hé", "", 0, false, "", "", ""⟩ ∧
      readList oddNote = .error [⟨[], .notList⟩] := by
  have hrefused : read halvedPair = .error [.malformed] := by decide +kernel
  obtain ⟨-, hread, hlist⟩ := (malformed_never_half_read oddNote).2.2 _ denotes_oddNote
  exact ⟨⟨hrefused, (malformed_never_half_read halvedPair).1.1.mp hrefused⟩, denotes_oddNote,
    hread.trans (by decide +kernel), hlist⟩

end Noticeboard.Document
