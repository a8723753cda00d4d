import Noticeboard.Proofs.Json.Written
import Noticeboard.Proofs.Settings.Checks
import Noticeboard.Proofs.Settings.Sources

/-!
Loading settings. Each is looked up in the environment and then in the file, and takes its default
where it is in neither. Settings that are all acceptable are loaded, and for others all that is
wrong with them is reported, once for each setting and in their order. Where the origins cannot be
read, nothing else is told.
-/

namespace Noticeboard.Settings

open Lines (Plain)
open Whole (Counts)

section Loading

variable {given : Field → Option String}

/-- The problems of settings, one after another in their order, are all that is wrong if they are so
for each. -/
theorem listed_flatMap {parts : List (Field × List Problem)}
    (hparts : ∀ part ∈ parts, Reports given part.1 part.2)
    (hordered : parts.Pairwise fun a b => a.1.place < b.1.place)
    (hall : ∀ field index, Offends given field index → ∃ part ∈ parts, part.1 = field) :
    Listed given (parts.flatMap (·.2)) where
  ordered := by
    refine List.pairwise_flatMap.mpr ⟨fun part hpart => (hparts part hpart).ordered, ?_⟩
    refine hordered.imp_of_mem fun {a b} ha hb hab p hp q hq => .inl ?_
    rw [(hparts a ha).own p hp, (hparts b hb).own q hq]
    exact hab
  exact field index := by
    constructor
    · rintro ⟨p, hp, rfl, rfl⟩
      obtain ⟨part, hpart, hmem⟩ := List.mem_flatMap.mp hp
      rw [(hparts part hpart).own p hmem]
      exact ((hparts part hpart).exact _).mp ⟨p, hmem, rfl⟩
    · intro h
      obtain ⟨part, hpart, rfl⟩ := hall field index h
      obtain ⟨p, hp, hindex⟩ := ((hparts part hpart).exact index).mpr h
      exact ⟨p, List.mem_flatMap.mpr ⟨part, hpart, hp⟩, (hparts part hpart).own p hp, hindex⟩

theorem originList_preferred (found : Option Json) :
    originList (preferred found none) = originList found := by
  match found with
  | none | some .null => rfl
  | some (.bool _) | some (.int _) | some (.real _) | some (.str _) | some (.garbled _)
  | some (.arr _) | some (.obj _) => rfl

/-! ### All checks -/

/-- The settings that are checked, in order. -/
def checked : List Field :=
  [.databaseURL, .secretKey, .tokenMinutes, .pageSize, .markAllLimit, .origins]

section Parts

variable (given : Field → Option String) (found : Option Json)
  (tokenMinutes pageSize markAllLimit : Count)

/-- The problems of each setting that is checked, in order. The counts are the defaults. -/
def parts : List (Field × List Problem) :=
  [(.databaseURL, (filledText .databaseURL (given .databaseURL)
      (some "sqlite:///./boardnotify.db")).problems),
    (.secretKey, (filledText .secretKey (given .secretKey) none).problems),
    (.tokenMinutes, (count .tokenMinutes (given .tokenMinutes) tokenMinutes).problems),
    (.pageSize, (count .pageSize (given .pageSize) pageSize).problems),
    (.markAllLimit, (count .markAllLimit (given .markAllLimit) markAllLimit).problems),
    (.origins, (originList found).problems)]

theorem map_parts :
    (parts given found tokenMinutes pageSize markAllLimit).map Prod.fst = checked := rfl

variable {given found} {depth : Nat} (h : json? depth (given .origins) = .ok found)

include h

theorem reports_parts : ∀ part ∈ parts given found tokenMinutes pageSize markAllLimit,
    Reports given part.1 part.2 := by
  simp only [parts, List.forall_mem_cons]
  exact ⟨reports_filledText (by decide) (by decide), reports_filledText (by decide) (by decide),
    reports_count (by decide) _, reports_count (by decide) _, reports_count (by decide) _,
    reports_originList h, List.forall_mem_nil _⟩

theorem listed_parts :
    Listed given ((parts given found tokenMinutes pageSize markAllLimit).flatMap (·.2)) := by
  have hfields := map_parts given found tokenMinutes pageSize markAllLimit
  refine listed_flatMap (reports_parts _ _ _ h) ?_ fun field index hoffends => ?_
  · have hordered : checked.Pairwise fun a b => a.place < b.place := by decide
    rw [← hfields] at hordered
    exact (List.pairwise_map (f := Prod.fst)).mp hordered
  · have hmem : field ∈ checked := by
      cases hoffends with
      | missing | notList | notText => decide
      | empty hfield | notCount hfield => revert hfield; cases field <;> decide
    rw [← hfields] at hmem
    exact List.mem_map.mp hmem

end Parts

variable {sources : Sources} {depth : Nat} {first second found : Option Json}
  (hgiven : json? depth (sources.text? .origins) = .ok found)
  (hfirst : json? sources.depth.environment (sources.inEnvironment? .origins) = .ok first)
  (hsecond : json? sources.depth.file (sources.inFile? .origins) = .ok second)
  (horigins : originList (preferred first second) = originList found)

include hgiven hfirst hsecond horigins

theorem load_of_acceptable (h : Acceptable sources.text?) :
    ∃ s, load sources = .ok s ∧ Loads sources.text? s := by
  have hreports :=
    reports_parts ⟨60, by decide⟩ ⟨50, by decide⟩ ⟨1000, by decide⟩ hgiven
  simp only [parts, List.forall_mem_cons] at hreports
  obtain ⟨hdatabaseURL, hsecretKey, htokenMinutes, hpageSize, hmarkAllLimit, hlist, -⟩ := hreports
  have hnone := acceptable_iff.mp h
  obtain ⟨databaseURL, hdatabaseURL, hurl⟩ := filledText_ok (hdatabaseURL.eq_nil (hnone _))
  obtain ⟨secretKey, hsecretKey, hkey⟩ := filledText_ok (hsecretKey.eq_nil (hnone _))
  obtain ⟨tokenMinutes, htokenMinutes, hminutes⟩ := count_ok (htokenMinutes.eq_nil (hnone _))
  obtain ⟨pageSize, hpageSize, hsize⟩ := count_ok (hpageSize.eq_nil (hnone _))
  obtain ⟨markAllLimit, hmarkAllLimit, hlimit⟩ := count_ok (hmarkAllLimit.eq_nil (hnone _))
  obtain ⟨origins, hlist, htexts⟩ := originList_ok hgiven (hlist.eq_nil (hnone _))
  refine ⟨{ databaseURL, secretKey, tokenMinutes, pageSize, markAllLimit, origins
            timeZone := (sources.text? .timeZone).getD "UTC"
            tablePrefix := (sources.text? .tablePrefix).getD ""
            logLevel := (sources.text? .logLevel).getD "INFO" }, ?_, ?_⟩
  · rw [load, hfirst, hsecond]
    dsimp only
    rw [horigins, hdatabaseURL, hsecretKey, htokenMinutes, hpageSize, hmarkAllLimit, hlist]
  · exact {
      databaseURL := (Option.some.inj (Option.or_some.symm.trans hurl)).symm
      secretKey := Option.or_none.symm.trans hkey
      tokenMinutes := hminutes, timeZone := rfl, tablePrefix := rfl, pageSize := hsize
      markAllLimit := hlimit, logLevel := rfl, origins := htexts }

theorem load_of_not_acceptable (h : ¬ Acceptable sources.text?) :
    ∃ ps, load sources = .error (.problems ps) ∧ Listed sources.text? ps := by
  have hlisted := listed_parts ⟨60, by decide⟩ ⟨50, by decide⟩ ⟨1000, by decide⟩ hgiven
  rw [load, hfirst, hsecond]
  dsimp only
  rw [horigins]
  split
  · next hdatabaseURL hsecretKey htokenMinutes hpageSize hmarkAllLimit hlist =>
      rw [parts, hdatabaseURL, hsecretKey, htokenMinutes, hpageSize, hmarkAllLimit, hlist] at hlisted
      refine absurd (acceptable_iff.mpr fun field index hoffends => ?_) h
      obtain ⟨p, hp, -⟩ := (hlisted.exact _ _).mpr hoffends
      cases hp
  · refine ⟨_, rfl, ?_⟩
    simpa only [parts, List.flatMap_cons, List.flatMap_nil, List.append_nil, List.append_assoc]
      using hlisted

end Loading

/-- Settings that are loaded have the counts that are given, or the defaults, wherever they come
from. -/
theorem means_of_load {sources : Sources} {s : Settings} (h : load sources = .ok s) :
    Means 50 (sources.text? .pageSize) s.pageSize.val ∧
      Means 1000 (sources.text? .markAllLimit) s.markAllLimit.val := by
  have hmeans {field : Field} {default n : Count}
      (h : count field (sources.text? field) default = .ok n) :
      Means default.val (sources.text? field) n.val := by
    obtain ⟨m, hm, hmeans⟩ := count_ok (congrArg Checked.problems h)
    cases h.symm.trans hm
    exact hmeans
  rw [load] at h
  split at h
  · cases h
  · cases h
  · dsimp only at h
    split at h
    · next hpageSize hmarkAllLimit _ =>
        cases h
        exact ⟨hmeans hpageSize, hmeans hmarkAllLimit⟩
    · cases h

/-- How deep the origins are read: as deep as the source in which they stand. -/
def Depth.forOrigins (depth : Depth) (environment : List (String × String)) : Nat :=
  if environment.any (sameName ·.1 Field.origins.name) then depth.environment else depth.file

section Origins

variable {environment lines : List (String × String)} {text : String}
  (hplain : Plain text.toList lines)
  (hnames : ∀ v ∈ lines, ∀ w ∈ lines, sameName v.1 w.1 = true → v.1 = w.1)
  (horigins : (∀ v ∈ environment, ¬ Names .origins v) ∨ ∀ v ∈ lines, ¬ Names .origins v)

include hplain hnames horigins

/-- What loading comes to depends on the one source in which the origins stand. -/
theorem load_ofText (depth : Depth) :
    let sources := Sources.ofText depth environment text
    let found := json? (depth.forOrigins environment) (sources.text? .origins)
    (∀ failure, found = .error failure → load sources = .error failure) ∧
      ∀ x, found = .ok x → ∃ first second,
        json? depth.environment (sources.inEnvironment? .origins) = .ok first ∧
          json? depth.file (sources.inFile? .origins) = .ok second ∧
          originList (preferred first second) = originList x := by
  intro sources found
  by_cases henvironment : ∃ v ∈ environment, Names .origins v
  · have hdepth : depth.forOrigins environment = depth.environment :=
      if_pos (List.any_eq_true.mpr henvironment)
    have habsent : ∀ v ∈ lines, ¬ Names .origins v := by
      refine horigins.resolve_left fun h => ?_
      obtain ⟨v, hv, hname⟩ := henvironment
      exact h v hv hname
    have hnone : sources.inFile? .origins = none := by
      rw [inFile?_ofText hplain hnames, Option.map_eq_none_iff, List.find?_eq_none]
      exact fun v hv => habsent v (List.mem_reverse.mp hv)
    have hfound : found = json? depth.environment (sources.inEnvironment? .origins) := by
      rw [← hdepth, ← text?_of_inFile? hnone]
    refine ⟨fun failure h => ?_, fun x h => ⟨x, none, hfound.symm.trans h, congrArg _ hnone,
      originList_preferred x⟩⟩
    have hfirst : json? sources.depth.environment (sources.inEnvironment? .origins) =
        .error failure := hfound.symm.trans h
    rw [load, hfirst]
  · have habsent : ∀ v ∈ environment, ¬ Names .origins v := fun v hv h => henvironment ⟨v, hv, h⟩
    have hdepth : depth.forOrigins environment = depth.file :=
      if_neg fun h => henvironment (List.any_eq_true.mp h)
    have hnone : sources.inEnvironment? .origins = none := inEnvironment?_eq_none _ habsent
    have hfound : found = json? depth.file (sources.inFile? .origins) := by
      rw [← hdepth, ← text?_of_inEnvironment? hnone]
    refine ⟨fun failure h => ?_, fun x h => ⟨none, x, congrArg _ hnone, hfound.symm.trans h, rfl⟩⟩
    have hsecond : json? sources.depth.file (sources.inFile? .origins) = .error failure :=
      hfound.symm.trans h
    rw [load, hnone, hsecond]
    rfl

end Origins

/-- Whether the origins, if they are given, are JSON for a reader that goes so deep and reads whole
numbers of at most 4300 digits. -/
def Readable (depth : Nat) (given : Field → Option String) : Prop :=
  ∀ s, given .origins = some s → ∃ x, Json.attempt (.lenient depth) s.toList = .ok x

/-- Settings from plain lines are loaded if all that is given is acceptable, and otherwise what is
wrong is reported. A name must not stand twice in the environment, nor be written in two ways in the
file, and the origins stand in one of the two at most. Where they are not JSON, or hold a whole
number that is too long, nothing is said of anything else, and neither where they are nested too
deep. -/
theorem settings_checked (depth : Depth) (environment : List (String × String))
    {lines : List (String × String)} {text : String}
    (hunique : ∀ v ∈ environment, ∀ w ∈ environment, sameName v.1 w.1 = true → v = w)
    (hplain : Plain text.toList lines)
    (hnames : ∀ v ∈ lines, ∀ w ∈ lines, sameName v.1 w.1 = true → v.1 = w.1)
    (horigins : (∀ v ∈ environment, ¬ Names .origins v) ∨ ∀ v ∈ lines, ¬ Names .origins v) :
    ∃ given : Field → Option String,
      (∀ field found, Given environment lines field found ↔ found = given field) ∧
      (Readable (depth.forOrigins environment) given →
        (Acceptable given →
          ∃ s, load (.ofText depth environment text) = .ok s ∧ Loads given s) ∧
        (¬ Acceptable given →
          ∃ ps, load (.ofText depth environment text) = .error (.problems ps) ∧
            Listed given ps)) ∧
      ∀ s, given .origins = some s →
        (Json.attempt (.lenient (depth.forOrigins environment)) s.toList = .error .malformed →
          load (.ofText depth environment text) = .error .originsNotJson) ∧
        (Json.attempt (.lenient (depth.forOrigins environment)) s.toList = .error .tooDeep →
          load (.ofText depth environment text) = .error .originsTooDeep) := by
  have hgiven {field : Field} {found : Option String} (h : Given environment lines field found) :
      (Sources.ofText depth environment text).text? field = found :=
    text?_of_given hunique hplain hnames h
  have hiff (field : Field) (found : Option String) : Given environment lines field found ↔
      found = (Sources.ofText depth environment text).text? field := by
    refine ⟨fun h => (hgiven h).symm, fun h => ?_⟩
    obtain ⟨found', hfound⟩ := exists_given environment lines field
    rwa [h, hgiven hfound]
  obtain ⟨hfailure, hfound⟩ := load_ofText hplain hnames horigins depth
  refine ⟨(Sources.ofText depth environment text).text?, hiff, fun hread => ?_, fun s hs => ?_⟩
  · obtain ⟨x, hx⟩ : ∃ x, json? (depth.forOrigins environment)
        ((Sources.ofText depth environment text).text? .origins) = .ok x := by
      cases htext : (Sources.ofText depth environment text).text? .origins with
      | none => exact ⟨none, rfl⟩
      | some s =>
          obtain ⟨x, hx⟩ := hread s htext
          exact ⟨some x, by simp only [json?, hx]⟩
    obtain ⟨first, second, hfirst, hsecond, hpreferred⟩ := hfound x hx
    exact ⟨load_of_acceptable hx hfirst hsecond hpreferred,
      load_of_not_acceptable hx hfirst hsecond hpreferred⟩
  · refine ⟨fun h => hfailure _ ?_, fun h => hfailure _ ?_⟩
    all_goals
      rw [hs]
      simp only [json?, h]

/-! ## Limits -/

section Limits

variable {sources : Sources} {s : String} (hs : sources.inEnvironment? .origins = some s)

include hs

/-- A list of one number that is too long is taken for no JSON at all. -/
theorem load_of_long {ds : List Nat} {cs : List Char} (h : Json.Grammar.Leading ds cs)
    (hlong : Text.maxDigits < ds.length) (htext : s.toList = '[' :: (cs ++ [']']))
    (hdepth : 0 < sources.depth.environment) : load sources = .error .originsNotJson := by
  obtain ⟨depth, heq⟩ := Nat.exists_eq_add_one_of_ne_zero (Nat.ne_of_gt hdepth)
  have hfirst : json? sources.depth.environment (some s) = .error .originsNotJson := by
    simp only [json?, htext, heq, Json.attempt_of_long h hlong]
  rw [load, hs, hfirst]

theorem load_of_brackets {count : Nat} {cs : List Char} (h : sources.depth.environment < count)
    (htext : s.toList = List.replicate count '[' ++ cs) : load sources = .error .originsTooDeep := by
  have hfirst : json? sources.depth.environment (some s) = .error .originsTooDeep := by
    simp only [json?, htext, Json.attempt_of_brackets h]
  rw [load, hs, hfirst]

end Limits

/-- A text of ones only. -/
def ones (count : Nat) : List Char := List.replicate count '1'

theorem leading_ones {count : Nat} (h : 0 < count) :
    Json.Grammar.Leading (List.replicate count 1) (ones count) := by
  obtain ⟨count, rfl⟩ := Nat.exists_eq_add_one_of_ne_zero (Nat.ne_of_gt h)
  refine ⟨⟨by simp [List.replicate_succ], fun d hd => ?_, ?_⟩, fun hzero => ?_⟩
  · rw [List.eq_of_mem_replicate hd]
    decide
  · rw [List.map_replicate]
    rfl
  · rw [List.replicate_succ] at hzero
    cases hzero

/-- A number that is spelled in more digits than are read is reported, although it is above zero. In
the origins it makes a list be taken for no JSON at all, and a list in more lists than are read
is not read either. -/
theorem many_digits_refused :
    (Whole.Spells (String.ofList (ones 4301)).toList (ones 4301) ∧
      0 < Nat.ofDigitChars 10 (ones 4301) 0 ∧
      ∃ ps, load (.ofText ⟨900, 900⟩ [("NOTIFICATIONS_PAGE_SIZE", String.ofList (ones 4301))] "") =
          .error (.problems ps) ∧
        ∃ p ∈ ps, p.field = .pageSize ∧ p.index = none) ∧
    load (.ofText ⟨900, 900⟩ [("CORS_ORIGINS", String.ofList ('[' :: (ones 4301 ++ [']'])))] "") =
      .error .originsNotJson ∧
    load (.ofText ⟨900, 900⟩ [("CORS_ORIGINS",
      String.ofList (List.replicate 901 '[' ++ List.replicate 901 ']'))] "") =
        .error .originsTooDeep := by
  have hgiven (s : String) :
      (Sources.ofText ⟨900, 900⟩ [("CORS_ORIGINS", s)] "").inEnvironment? .origins = some s :=
    inEnvironment?_eq_some (by simp) _ List.mem_cons_self
      (by decide : sameName "CORS_ORIGINS" Field.origins.name = true)
  refine ⟨?_, load_of_long (hgiven _) (leading_ones (by decide))
    (by rw [List.length_replicate]; decide) String.toList_ofList (by decide),
    load_of_brackets (hgiven _) (by decide) String.toList_ofList⟩
  have hdigits : Text.Numeral.Digits (ones 4301) := by
    refine ⟨by rw [ones, List.replicate_succ]; exact List.cons_ne_nil _ _, fun c hc => ?_⟩
    rw [List.eq_of_mem_replicate hc]
    decide
  have hfirst : (ones 4301).head? ≠ some '0' := by
    rw [ones, List.replicate_succ]
    exact nofun
  have hspells := Whole.spells_digits hdigits hfirst
  rw [String.toList_ofList]
  refine ⟨hspells, Whole.ofDigitChars_pos hdigits hfirst, ?_⟩
  generalize htext : String.ofList (ones 4301) = text
  have hones : text.toList = ones 4301 := by rw [← htext, String.toList_ofList]
  have hfile : Plain "".toList [] := .nil
  have hname : Names .pageSize ("NOTIFICATIONS_PAGE_SIZE", text) :=
    (by decide : sameName "NOTIFICATIONS_PAGE_SIZE" Field.pageSize.name = true)
  have habsent : ∀ v ∈ [("NOTIFICATIONS_PAGE_SIZE", text)], ¬ Names .origins v :=
    List.forall_mem_singleton.mpr
      (by decide : ¬ sameName "NOTIFICATIONS_PAGE_SIZE" Field.origins.name = true)
  have hunique : ∀ v ∈ [("NOTIFICATIONS_PAGE_SIZE", text)],
      ∀ w ∈ [("NOTIFICATIONS_PAGE_SIZE", text)], sameName v.1 w.1 = true → v = w := by
    intro v hv w hw _
    rw [List.mem_singleton.mp hv, List.mem_singleton.mp hw]
  generalize hsources :
    Sources.ofText ⟨900, 900⟩ [("NOTIFICATIONS_PAGE_SIZE", text)] "" = sources
  have hsize : sources.text? .pageSize = some text := by
    rw [← hsources]
    exact text?_of_given hunique hfile (List.forall_mem_nil _)
      (.environment List.mem_cons_self hname)
  have horigins : sources.text? .origins = none := by
    rw [← hsources]
    exact text?_of_given hunique hfile (List.forall_mem_nil _)
      (.default habsent (List.forall_mem_nil _))
  have hfirst : sources.inEnvironment? .origins = none := by
    rw [← hsources]
    exact inEnvironment?_eq_none _ habsent
  have hsecond := (text?_of_inEnvironment? hfirst).symm.trans horigins
  have hnone : ¬ ∃ n, Counts text.toList n := by
    rintro ⟨n, h, hlength⟩
    rw [hones] at h
    rw [h.unique hspells, ones, List.length_replicate] at hlength
    exact absurd hlength (by decide)
  have hoffends : Offends sources.text? .pageSize none := .notCount (by decide) hsize hnone
  obtain ⟨ps, hload, hlisted⟩ := load_of_not_acceptable (congrArg (json? 900) horigins)
    (congrArg (json? sources.depth.environment) hfirst)
    (congrArg (json? sources.depth.file) hsecond) rfl
    fun h => acceptable_iff.mp h _ _ hoffends
  exact ⟨ps, hload, (hlisted.exact _ _).mpr hoffends⟩

/-- An empty key in the environment hides the one of the file, and what is wrong with an element of
the origins is reported as well. -/
theorem empty_key_reported :
    Plain "SECRET_KEY=key\r\nDATABASE_URL=".toList [("SECRET_KEY", "key"), ("DATABASE_URL", "")] ∧
    Json.attempt (.lenient 1) "[\"a\",7]".toList = .ok (.arr [.str "a", .int 7]) ∧
    ∃ ps, load (.ofText ⟨1, 0⟩ [("Secret_Key", ""), ("CORS_ORIGINS", "[\"a\",7]")]
        "SECRET_KEY=key\r\nDATABASE_URL=") = .error (.problems ps) ∧
      (∃ p ∈ ps, p.field = .secretKey ∧ p.index = none) ∧
      ∃ p ∈ ps, p.field = .origins ∧ p.index = some 1 := by
  have hplain : Plain "SECRET_KEY=key\r\nDATABASE_URL=".toList
      [("SECRET_KEY", "key"), ("DATABASE_URL", "")] := by
    have htext : "SECRET_KEY=key\r\nDATABASE_URL=".toList = "SECRET_KEY".toList ++ '=' ::
        ("key".toList ++ (['\r', '\n'] ++ ("DATABASE_URL".toList ++ '=' :: "".toList))) := by decide
    rw [htext]
    refine .line (Lines.plainName_of_clear (by decide) (by decide))
      (Lines.plainValue_of_clear (by decide)) (.returned _) ?_
    exact .last (Lines.plainName_of_clear (by decide) (by decide))
      (Lines.plainValue_of_clear (by decide))
  have hread : Json.attempt (.lenient 1) "[\"a\",7]".toList = .ok (.arr [.str "a", .int 7]) := by
    have hwritten : Json.Printer.value (.arr [.str "a", .int 7]) = "[\"a\",7]".toList := by
      decide +kernel
    have hportable : Json.Portable 1 (.arr [.str "a", .int 7]) :=
      .arr (List.forall_mem_cons.mpr ⟨.str "a", List.forall_mem_singleton.mpr (.int (by decide))⟩)
    exact hwritten ▸ Json.attempt_written hportable
  have horigins : Names .origins ("CORS_ORIGINS", "[\"a\",7]") := by
    rw [Names]
    decide
  have hkey : Names .secretKey ("Secret_Key", "") := by
    rw [Names]
    decide
  obtain ⟨given, hgiven, hchecked, -⟩ := settings_checked ⟨1, 0⟩
    [("Secret_Key", ""), ("CORS_ORIGINS", "[\"a\",7]")] (by decide) hplain (by decide)
    (.inr (by simp only [Names]; decide))
  have hempty : given .secretKey = some "" := ((hgiven _ _).mp (.environment (by decide) hkey)).symm
  have hlist : given .origins = some "[\"a\",7]" :=
    ((hgiven _ _).mp (.environment (by decide) horigins)).symm
  have hnot : ¬ Acceptable given := fun h => by
    obtain ⟨s, hs, hne⟩ := h.secretKey
    cases hempty.symm.trans hs
    exact hne rfl
  have hreadable : Readable (Depth.forOrigins ⟨1, 0⟩
      [("Secret_Key", ""), ("CORS_ORIGINS", "[\"a\",7]")]) given := by
    intro s hs
    cases hlist.symm.trans hs
    exact ⟨_, hread⟩
  obtain ⟨ps, hload, hlisted⟩ := (hchecked hreadable).2 hnot
  refine ⟨hplain, hread, ps, hload, (hlisted.exact _ _).mpr (.empty (by decide) hempty),
    (hlisted.exact _ _).mpr (.notText hlist ⟨1, hread⟩ rfl ?_)⟩
  rintro ⟨s, ⟨⟩⟩

end Noticeboard.Settings
