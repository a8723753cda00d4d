import Mathlib.Data.List.Induction
import Mathlib.Data.List.TakeDrop
import Noticeboard.Settings.Basic

/-!
Files of plain lines, `NAME=value` and nothing else: no blanks around the name or the value, no
quotes, no comments and no references. Such a file is read as its lines are written, and where a
name is written in one way only, its last line is the one that counts.
-/

namespace Noticeboard.Settings

open Text (isBlank)

namespace Lines

/-! ## Grammar -/

/-- Whether there is a reference in a text: a dollar sign, and anything in braces after it. -/
def Refers (cs : List Char) : Prop :=
  ∃ front body rest, cs = front ++ '$' :: '{' :: (body ++ '}' :: rest)

structure PlainName (cs : List Char) : Prop where
  nonempty : cs ≠ []
  unquoted : cs.head? ≠ some '\''
  unmarked : cs.head? ≠ some '\ufeff'
  visible : ∀ c ∈ cs, c ≠ '=' ∧ c ≠ '#' ∧ isBlank c = false

structure PlainValue (cs : List Char) : Prop where
  oneLine : ∀ c ∈ cs, c ≠ '\n' ∧ c ≠ '\r'
  unquoted : cs.head? ≠ some '\'' ∧ cs.head? ≠ some '"'
  begins : ∀ c ∈ cs.head?, isBlank c = false
  ends : ∀ c ∈ cs.getLast?, isBlank c = false
  uncommented : ∀ front c back, cs = front ++ c :: '#' :: back → isBlank c = false
  unreferring : ¬ Refers cs

/-- Whether a line is ended by some characters in front of a text. -/
inductive Feed : List Char → List Char → Prop
  | feed (rest : List Char) : Feed ['\n'] rest
  | returned (rest : List Char) : Feed ['\r', '\n'] rest
  | carriage {rest : List Char} (h : rest.head? ≠ some '\n') : Feed ['\r'] rest

/-- Whether a text consists of plain lines, and the names and values on them. There may be empty
lines as well, and the last line need not be ended. -/
inductive Plain : List Char → List (String × String) → Prop
  | nil : Plain [] []
  | last {name value : String} (hname : PlainName name.toList) (hvalue : PlainValue value.toList) :
      Plain (name.toList ++ '=' :: value.toList) [(name, value)]
  | line {name value : String} {feed rest : List Char} {lines : List (String × String)}
      (hname : PlainName name.toList) (hvalue : PlainValue value.toList)
      (hfeed : Feed feed rest) (hrest : Plain rest lines) :
      Plain (name.toList ++ '=' :: (value.toList ++ (feed ++ rest))) ((name, value) :: lines)
  | empty {feed rest : List Char} {lines : List (String × String)} (hfeed : Feed feed rest)
      (hrest : Plain rest lines) : Plain (feed ++ rest) lines

/-! ## Names and values -/

section Clear

variable {cs marks : List Char}

/-- Whether no character of a text is blank or one of some marks. -/
def clear (marks cs : List Char) : Bool := cs.all fun c => !isBlank c && c ∉ marks

theorem isBlank_of_clear (h : clear marks cs = true) {c : Char} (hc : c ∈ cs) :
    isBlank c = false := by
  have := List.all_eq_true.mp h c hc
  rw [Bool.and_eq_true, Bool.not_eq_true'] at this
  exact this.1

theorem not_mem_of_clear (h : clear marks cs = true) {c : Char} (hmark : c ∈ marks) : c ∉ cs := by
  intro hc
  have := List.all_eq_true.mp h c hc
  rw [Bool.and_eq_true, decide_eq_true_eq] at this
  exact this.2 hmark

theorem plainName_of_clear (hne : cs ≠ []) (h : clear ['\'', '\ufeff', '=', '#'] cs = true) :
    PlainName cs where
  nonempty := hne
  unquoted hhead := not_mem_of_clear h (by decide) (List.mem_of_head? hhead)
  unmarked hhead := not_mem_of_clear h (by decide) (List.mem_of_head? hhead)
  visible c hc := by
    refine ⟨?_, ?_, isBlank_of_clear h hc⟩ <;> rintro rfl <;>
      exact not_mem_of_clear h (by decide) hc

theorem plainValue_of_clear (h : clear ['\'', '"', '#', '$'] cs = true) : PlainValue cs where
  oneLine c hc := by
    constructor <;> rintro rfl <;> cases isBlank_of_clear h hc
  unquoted := by
    constructor <;> exact fun hhead => not_mem_of_clear h (by decide) (List.mem_of_head? hhead)
  begins c hc := isBlank_of_clear h (List.mem_of_head? hc)
  ends c hc := isBlank_of_clear h (List.mem_of_getLast? hc)
  uncommented front c back heq := isBlank_of_clear h (heq ▸ by simp)
  unreferring := by
    rintro ⟨front, body, rest, rfl⟩
    exact not_mem_of_clear h (c := '$') (by decide) (by simp)

end Clear

theorem isGap_of_not_blank {c : Char} (h : isBlank c = false) : isGap c = false := by
  rw [isGap, h, Bool.false_and]

section Line

variable {name value ending rest : List Char}

theorem name?_plain (hname : PlainName name) (rest : List Char) :
    name? (name ++ '=' :: rest) = some (name, '=' :: rest) := by
  have hspan : (name ++ '=' :: rest).span (fun c => c ≠ '=' && c ≠ '#' && !isBlank c) =
      (name, '=' :: rest) := by
    have hfront : ∀ c ∈ name, (decide (c ≠ '=') && decide (c ≠ '#') && !isBlank c) = true := by
      intro c hc
      obtain ⟨heq, hmark, hblank⟩ := hname.visible c hc
      rw [hblank, decide_eq_true heq, decide_eq_true hmark]
      rfl
    rw [List.span_eq_takeWhile_dropWhile, List.takeWhile_append_of_pos hfront,
      List.dropWhile_append_of_pos hfront, List.takeWhile_cons_of_neg (by decide),
      List.dropWhile_cons_of_neg (by decide), List.append_nil]
  obtain ⟨c, cs, rfl⟩ := List.exists_cons_of_ne_nil hname.nonempty
  rw [List.cons_append] at hspan ⊢
  rw [name?]
  · rw [hspan]
  · rintro body ⟨⟩
    exact hname.unquoted rfl

/-- No blank stands in front of the equals sign, so that the line does not begin with a word of its
own. -/
theorem skipExport_plain (hname : PlainName name) (rest : List Char) :
    skipExport (name ++ '=' :: rest) = name ++ '=' :: rest := by
  rw [skipExport.eq_def]
  split
  · next c cs heq =>
      have hword : name ++ '=' :: rest = ['e', 'x', 'p', 'o', 'r', 't'] ++ c :: cs := heq
      have hc : isBlank c = false := by
        rcases List.append_eq_append_iff.mp hword with ⟨mid, hfront, hback⟩ | ⟨mid, hfront, hback⟩
        · cases mid with
          | nil =>
              cases hback
              decide
          | cons d mid =>
              cases hback
              have hmem : '=' ∈ ['e', 'x', 'p', 'o', 'r', 't'] := hfront ▸ by simp
              exact absurd hmem (by decide)
        · cases mid with
          | nil =>
              cases hback
              decide
          | cons d mid =>
              cases hback
              exact (hname.visible c (hfront ▸ by simp)).2.2
      rw [isGap_of_not_blank hc, heq]
      rfl
  · rfl

theorem beforeComment_plain
    (h : ∀ front c back, value = front ++ c :: '#' :: back → isBlank c = false) :
    beforeComment value = value := by
  induction value with
  | nil => rfl
  | cons c cs ih =>
      rw [beforeComment, if_neg, ih fun front d back heq => h (c :: front) d back (heq ▸ rfl)]
      intro hcond
      simp only [Bool.and_eq_true, decide_eq_true_eq] at hcond
      obtain ⟨back, hback⟩ := List.head?_eq_some_iff.mp hcond.2
      -- the last of the blanks up to the number sign stands right in front of it
      have hne : c :: cs.takeWhile isBlank ≠ [] := List.cons_ne_nil _ _
      have hall : ∀ d ∈ c :: cs.takeWhile isBlank, isBlank d = true :=
        List.forall_mem_cons.mpr ⟨hcond.1, List.all_eq_true.mp List.all_takeWhile⟩
      have hsplit : c :: cs =
          (c :: cs.takeWhile isBlank).dropLast ++
            (c :: cs.takeWhile isBlank).getLast hne :: '#' :: back := by
        rw [List.append_cons, List.dropLast_concat_getLast, List.cons_append, ← hback,
          List.takeWhile_append_dropWhile]
      exact Bool.false_ne_true ((h _ _ _ hsplit).symm.trans (hall _ (List.getLast_mem hne)))

theorem head_value_ending {c : Char} (hvalue : value.head? ≠ some c)
    (hending : ∀ c ∈ ending.head?, c = '\n') (hc : c ≠ '\n') : (value ++ ending).head? ≠ some c := by
  cases value with
  | nil => exact fun h => hc (hending c h)
  | cons d value => exact hvalue

theorem value?_plain (hvalue : PlainValue value) (hending : ∀ c ∈ ending.head?, c = '\n') :
    value? (value ++ ending) = some (value, ending) := by
  have hskip : (value ++ ending).dropWhile isGap = value ++ ending := by
    refine Text.dropWhile_of_head fun c hc => ?_
    cases value with
    | nil =>
        rw [hending c hc]
        decide
    | cons d value => exact isGap_of_not_blank (hvalue.begins c hc)
  have hfront : ∀ c ∈ value, decide (c ≠ '\n') = true := fun c hc =>
    decide_eq_true (hvalue.oneLine c hc).1
  have hspan : (value ++ ending).span (· ≠ '\n') = (value, ending) := by
    rw [List.span_eq_takeWhile_dropWhile, List.takeWhile_append_of_pos hfront,
      List.dropWhile_append_of_pos hfront]
    cases ending with
    | nil => rw [List.takeWhile_nil, List.append_nil, List.dropWhile_nil]
    | cons c ending =>
        rw [hending c rfl, List.takeWhile_cons_of_neg (by decide),
          List.dropWhile_cons_of_neg (by decide), List.append_nil]
  have htrim : Text.trim isBlank value = value := by
    have h := @Text.trim_append isBlank [] value [] nofun nofun hvalue.begins hvalue.ends
    rwa [List.nil_append, List.append_nil] at h
  rw [value?, hskip]
  split
  · next body heq =>
      exact absurd (congrArg List.head? heq)
        (head_value_ending hvalue.unquoted.1 hending (by decide))
  · next body heq =>
      exact absurd (congrArg List.head? heq)
        (head_value_ending hvalue.unquoted.2 hending (by decide))
  · rw [hspan]
    dsimp only
    rw [beforeComment_plain hvalue.uncommented, htrim]

/-- A plain line is read as it is written. -/
theorem binding_plain (hname : PlainName name) (hvalue : PlainValue value)
    (hending : lineEnd? ending = some rest) (hfeed : ∀ c ∈ ending.head?, c = '\n') :
    binding (name ++ '=' :: (value ++ ending)) =
      (some (String.ofList name, some (String.ofList value)), rest) := by
  have hmark : (name ++ '=' :: (value ++ ending)).head? ≠ some '#' := by
    obtain ⟨c, cs, rfl⟩ := List.exists_cons_of_ne_nil hname.nonempty
    exact fun h => (hname.visible c List.mem_cons_self).2.1 (Option.some.inj h)
  have hequals : ('=' :: (value ++ ending)).dropWhile isGap = '=' :: (value ++ ending) :=
    List.dropWhile_cons_of_neg (by decide)
  rw [binding, if_neg hmark, skipExport_plain hname, if_neg hmark, name?_plain hname]
  simp only [hequals, value?_plain hvalue hfeed, hending]

end Line

/-! ## Files -/

theorem bindings_nil (fuel : Nat) : bindings fuel [] = [] := by
  cases fuel <;> rfl

theorem bindings_blank {c : Char} (hc : isBlank c = true) (fuel : Nat) (cs : List Char) :
    bindings fuel (c :: cs) = bindings fuel cs := by
  rw [bindings.eq_def, bindings.eq_def fuel cs, List.dropWhile_cons_of_pos hc]

/-- The variable of a plain line. -/
def bound (line : String × String) : Binding := (line.1, some line.2)

theorem bindings_plain {name value : String} {ending rest : List Char}
    (hname : PlainName name.toList) (hvalue : PlainValue value.toList)
    (hending : lineEnd? ending = some rest) (hfeed : ∀ c ∈ ending.head?, c = '\n') (fuel : Nat) :
    bindings (fuel + 1) (name.toList ++ '=' :: (value.toList ++ ending)) =
      bound (name, value) :: bindings fuel rest := by
  have hbinding := binding_plain hname hvalue hending hfeed
  rw [String.ofList_toList, String.ofList_toList] at hbinding
  obtain ⟨c, cs, hcs⟩ := List.exists_cons_of_ne_nil hname.nonempty
  have hskip : (name.toList ++ '=' :: (value.toList ++ ending)).dropWhile isBlank =
      name.toList ++ '=' :: (value.toList ++ ending) := by
    refine Text.dropWhile_of_head fun d hd => (hname.visible d ?_).2.2
    rw [hcs] at hd ⊢
    cases hd
    exact List.mem_cons_self
  rw [hcs, List.cons_append] at hskip hbinding ⊢
  rw [bindings.eq_def, hskip]
  dsimp only
  rw [hbinding]
  rfl

theorem unified_append {front : List Char} (h : ∀ c ∈ front, c ≠ '\r') (rest : List Char) :
    unified (front ++ rest) = front ++ unified rest := by
  induction front with
  | nil => rfl
  | cons c front ih =>
      rw [List.forall_mem_cons] at h
      rw [List.cons_append, unified, ih h.2, if_neg h.1]
      · rfl
      · rintro cs rfl
        exact absurd rfl h.1

theorem unified_feed {feed rest : List Char} (h : Feed feed rest) :
    unified (feed ++ rest) = '\n' :: unified rest := by
  cases h with
  | feed | returned => rfl
  | carriage h =>
      rw [List.singleton_append, unified]
      · rfl
      · rintro cs _ rfl
        exact h rfl

theorem unified_line {name value : List Char} (hname : PlainName name) (hvalue : PlainValue value)
    (rest : List Char) :
    unified (name ++ '=' :: (value ++ rest)) = name ++ '=' :: (value ++ unified rest) := by
  have hfront : ∀ c ∈ name ++ '=' :: value, c ≠ '\r' := by
    refine List.forall_mem_append.mpr ⟨?_, List.forall_mem_cons.mpr ⟨by decide, ?_⟩⟩
    · rintro c hc rfl
      cases (hname.visible _ hc).2.2
    · exact fun c hc => (hvalue.oneLine c hc).2
  have h := unified_append hfront rest
  rwa [List.append_assoc, List.append_assoc, List.cons_append] at h

theorem ne_of_line {fuel : Nat} {name rest : List Char} (h : (name ++ '=' :: rest).length ≤ fuel) :
    fuel ≠ 0 := by
  rintro rfl
  rw [List.length_append, List.length_cons] at h
  omega

theorem Plain.bindings {text : List Char} {lines : List (String × String)} (h : Plain text lines)
    (fuel : Nat) (hfuel : (unified text).length ≤ fuel) :
    bindings fuel (unified text) = lines.map bound := by
  induction h generalizing fuel with
  | nil => exact bindings_nil fuel
  | @last name value hname hvalue =>
      rw [← List.append_nil value.toList, unified_line hname hvalue] at hfuel ⊢
      obtain ⟨fuel, rfl⟩ := Nat.exists_eq_add_one_of_ne_zero (ne_of_line hfuel)
      rw [bindings_plain hname hvalue rfl (by rintro _ ⟨⟩), bindings_nil]
      rfl
  | @line name value feed rest lines hname hvalue hfeed hrest ih =>
      rw [unified_line hname hvalue, unified_feed hfeed] at hfuel ⊢
      obtain ⟨fuel, rfl⟩ := Nat.exists_eq_add_one_of_ne_zero (ne_of_line hfuel)
      rw [bindings_plain hname hvalue rfl (by rintro _ ⟨⟩; rfl), ih fuel]
      · rfl
      · simp only [List.length_append, List.length_cons] at hfuel
        omega
  | empty hfeed hrest ih =>
      rw [unified_feed hfeed] at hfuel ⊢
      rw [bindings_blank (by decide)]
      exact ih fuel (Nat.le_of_succ_le hfuel)

theorem Plain.unmarked {text : List Char} {lines : List (String × String)} (h : Plain text lines) :
    unmarked text = text := by
  have hcons {c : Char} {cs : List Char} (hc : c ≠ '\ufeff') :
      Lines.unmarked (c :: cs) = c :: cs := if_neg hc
  have hline {name rest : List Char} (hname : PlainName name) :
      Lines.unmarked (name ++ rest) = name ++ rest := by
    obtain ⟨c, cs, rfl⟩ := List.exists_cons_of_ne_nil hname.nonempty
    exact hcons fun heq => hname.unmarked (congrArg some heq)
  cases h with
  | nil => rfl
  | last hname => exact hline hname
  | line hname => exact hline hname
  | empty hfeed => cases hfeed <;> exact hcons (by decide)

theorem Plain.values {text : List Char} {lines : List (String × String)} (h : Plain text lines) :
    ∀ line ∈ lines, PlainValue line.2.toList := by
  induction h with
  | nil => exact fun _ h => absurd h List.not_mem_nil
  | last _ hvalue => exact List.forall_mem_singleton.mpr hvalue
  | line _ hvalue _ _ ih => exact List.forall_mem_cons.mpr ⟨hvalue, ih⟩
  | empty _ _ ih => exact ih

end Lines

open Lines

theorem ofFile_plain {text : String} {lines : List (String × String)}
    (h : Plain text.toList lines) : Binding.ofFile text = lines.map bound := by
  rw [Binding.ofFile, h.unmarked]
  exact h.bindings _ (Nat.le_refl _)

/-! ## References -/

namespace Reference

theorem span_split {p : Char → Bool} {cs front back : List Char} (h : cs.span p = (front, back)) :
    cs = front ++ back ∧ ∀ c ∈ back.head?, p c = false := by
  rw [List.span_eq_takeWhile_dropWhile] at h
  obtain ⟨rfl, rfl⟩ := Prod.mk.inj h
  refine ⟨List.takeWhile_append_dropWhile.symm, fun c hc => ?_⟩
  have hnot := List.head?_dropWhile_not p cs
  rwa [Option.mem_def.mp hc] at hnot

/-- What refers to a variable has a closing brace. -/
theorem parts?_split {cs : List Char} {found : List Char × List Char × List Char}
    (h : parts? cs = some found) : ∃ body rest, cs = body ++ '}' :: rest := by
  rw [parts?] at h
  split at h
  · next name rest heq => exact ⟨name, rest, (span_split heq).1⟩
  · next name more heq =>
      split at h
      · next instead c rest hmore =>
          obtain ⟨rfl, hc⟩ := span_split hmore
          have hbrace : c = '}' := Decidable.not_not.mp (of_decide_eq_false (hc c rfl))
          refine ⟨name ++ ':' :: '-' :: instead, rest, ?_⟩
          rw [(span_split heq).1, hbrace, List.append_assoc]
          rfl
      · cases h
  · cases h

/-- A text without references stays as it is. -/
theorem expand_plain (valueOf : String → Option String) (fuel : Nat) {cs : List Char}
    (h : ¬ Refers cs) : expand valueOf fuel cs = cs := by
  induction fuel generalizing cs with
  | zero => rfl
  | succ fuel ih =>
      cases cs with
      | nil => rfl
      | cons c cs =>
          have htail : ¬ Refers cs := fun ⟨front, body, rest, heq⟩ =>
            h ⟨c :: front, body, rest, congrArg (c :: ·) heq⟩
          rw [expand.eq_def]
          dsimp only
          split
          · next body =>
              split
              · next hparts =>
                  obtain ⟨name, rest, rfl⟩ := parts?_split hparts
                  exact absurd ⟨[], name, rest, rfl⟩ h
              · rw [ih htail]
          · rw [ih htail]

end Reference

theorem foldl_bound {step : List Binding → Binding → List Binding} {lines : List (String × String)}
    (h : ∀ line ∈ lines, ∀ done, step done (bound line) = done ++ [bound line])
    (done : List Binding) : (lines.map bound).foldl step done = done ++ lines.map bound := by
  induction lines generalizing done with
  | nil => exact (List.append_nil done).symm
  | cons line lines ih =>
      rw [List.forall_mem_cons] at h
      rw [List.map_cons, List.foldl_cons, h.1, ih h.2, List.append_assoc, List.singleton_append]

theorem resolved_plain (environment lines : List (String × String))
    (h : ∀ line ∈ lines, ¬ Refers line.2.toList) :
    Binding.resolved environment (lines.map bound) = lines.map bound := by
  refine foldl_bound (fun line hline done => ?_) []
  simp only [bound, Option.map_some, Reference.resolve, Reference.expand_plain _ _ (h line hline),
    String.ofList_toList]

/-! ## The line that counts -/

theorem mem_put {b c : Binding} {bs : List Binding} (h : c ∈ put b bs) : c = b ∨ c ∈ bs := by
  induction bs with
  | nil => exact .inl (List.mem_singleton.mp h)
  | cons old bs ih =>
      rw [put] at h
      split at h
      · exact (List.mem_cons.mp h).imp_right (List.mem_cons_of_mem old)
      · rcases List.mem_cons.mp h with rfl | h
        · exact .inr List.mem_cons_self
        · exact (ih h).imp_right (List.mem_cons_of_mem old)

section Last

variable {p : Binding → Bool} (hp : ∀ {b c : Binding}, b.1 = c.1 → p b = p c)

include hp

/-- A variable under a name that is not looked for leaves those that are. -/
theorem filter_put_other {b : Binding} (hb : p b = false) (bs : List Binding) :
    (put b bs).filter p = bs.filter p := by
  induction bs with
  | nil => exact List.filter_cons_of_neg (Bool.eq_false_iff.mp hb)
  | cons old bs ih =>
      rw [put]
      split
      · next heq =>
          rw [List.filter_cons_of_neg (Bool.eq_false_iff.mp hb),
            List.filter_cons_of_neg (Bool.eq_false_iff.mp ((hp heq).trans hb))]
      · rw [List.filter_cons, List.filter_cons, ih]

/-- A variable takes the place of the one under its name. -/
theorem filter_put_same {b : Binding} (hb : p b = true) {bs : List Binding}
    (hname : ∀ old ∈ bs, p old = true → old.1 = b.1) (honce : (bs.filter p).length ≤ 1) :
    (put b bs).filter p = [b] := by
  induction bs with
  | nil => exact List.filter_cons_of_pos hb
  | cons old bs ih =>
      rw [List.forall_mem_cons] at hname
      rw [put]
      split
      · next heq =>
          rw [List.filter_cons_of_pos ((hp heq).trans hb)] at honce
          rw [List.filter_cons_of_pos hb,
            List.eq_nil_of_length_eq_zero (Nat.le_zero.mp (Nat.le_of_succ_le_succ honce))]
      · next hne =>
          have hold : ¬ p old = true := fun h => hne (hname.1 h)
          rw [List.filter_cons_of_neg hold] at honce ⊢
          exact ih hname.2 honce

/-- Where all names that are looked for are written in one way, a file has the last line with that
name, and no other with it. The induction is on the lines from the last one back. -/
theorem filter_file (bs : List Binding)
    (hname : ∀ b ∈ bs, ∀ c ∈ bs, p b = true → p c = true → b.1 = c.1) :
    (bs.foldl (fun done b => put b done) []).filter p = (bs.reverse.find? p).toList ∧
      ∀ b ∈ bs.foldl (fun done b => put b done) [], b ∈ bs := by
  induction bs using List.reverseRecOn with
  | nil => exact ⟨rfl, fun _ h => h⟩
  | append_singleton bs b ih =>
      obtain ⟨hfilter, hmem⟩ := ih fun c hc d hd =>
        hname c (List.mem_append_left _ hc) d (List.mem_append_left _ hd)
      rw [List.foldl_append, List.reverse_append]
      refine ⟨?_, fun c hc => ?_⟩
      · cases hb : p b with
        | false =>
            exact (filter_put_other hp hb _).trans
              (hfilter.trans (by rw [List.reverse_singleton, List.singleton_append,
                List.find?_cons_of_neg (Bool.eq_false_iff.mp hb)]))
        | true =>
            refine (filter_put_same hp hb (fun old hold h => ?_) ?_).trans
              (by rw [List.reverse_singleton, List.singleton_append, List.find?_cons_of_pos hb]; rfl)
            · exact hname old (List.mem_append_left _ (hmem old hold)) b
                (List.mem_append_right _ (List.mem_singleton_self b)) h hb
            · rw [hfilter]
              exact Option.length_toList_le
      · rcases mem_put hc with rfl | hc
        · exact List.mem_append_right _ (List.mem_singleton_self c)
        · exact List.mem_append_left _ (hmem c hc)

theorem find?_file {bs : List Binding}
    (hname : ∀ b ∈ bs, ∀ c ∈ bs, p b = true → p c = true → b.1 = c.1) :
    (bs.foldl (fun done b => put b done) []).reverse.find? p = bs.reverse.find? p := by
  rw [← List.head?_filter, List.filter_reverse, (filter_file hp bs hname).1]
  cases bs.reverse.find? p <;> rfl

end Last

end Noticeboard.Settings
