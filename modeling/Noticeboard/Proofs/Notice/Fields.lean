import Noticeboard.Proofs.Notice.Malformed

/-!
The fields of a notice. Each is given by the last value under its own name, or under its alternative
name where its own does not occur. A notice is read where every value is admitted, and otherwise
every value that is not is reported, at the name under which it was found. Nothing else about an
object counts.
-/

namespace Noticeboard

/-- What a notice holds for a field. -/
def Notice.content (n : Notice) : Field → Json
  | .id => .str n.id
  | .recipient => .str n.recipient
  | .message => .str n.message
  | .sender => .str n.sender
  | .createdAt => .int n.createdAt
  | .read => .bool n.read
  | .link => .str n.link
  | .board => .str n.board
  | .card => .str n.card

namespace Document

/-! ## Values of a shape -/

/-- Whether a value may stand for a field of some shape. -/
inductive Shape.Admits : Shape → Json → Prop
  | null (shape : Shape) : Admits shape .null
  | text (s : String) : Admits .text (.str s)
  | whole {n : Int} (hleast : -9223372036854775808 ≤ n) (hgreatest : n ≤ 9223372036854775807) :
      Admits .whole (.int n)
  | flag (b : Bool) : Admits .flag (.bool b)

/-- Whether a value may not stand for a field of some shape, and what is wrong with it. -/
inductive Shape.Rejects : Shape → Json → Problem.Kind → Prop
  | text {x : Json} (h : ¬ Admits .text x) : Rejects .text x .notText
  | flag {x : Json} (h : ¬ Admits .flag x) : Rejects .flag x .notFlag
  | whole {x : Json} (hnull : x ≠ .null) (h : ∀ n, x ≠ .int n) : Rejects .whole x .notWhole
  | below {n : Int} (h : n < -9223372036854775808) : Rejects .whole (.int n) .belowRange
  | above {n : Int} (h : 9223372036854775807 < n) : Rejects .whole (.int n) .aboveRange

def Shape.empty : Shape → Json
  | .text => .str ""
  | .whole => .int 0
  | .flag => .bool false

/-- What a field of some shape holds for a value. -/
def Shape.held (shape : Shape) : Json → Json
  | .null => shape.empty
  | x => x

/-- A value is either admitted and has no fault, or rejected for the fault that it has. -/
theorem Shape.fault?_spec (shape : Shape) (x : Json) :
    shape.fault? x = none ∧ shape.Admits x ∨
      ∃ kind, shape.fault? x = some kind ∧ ¬ shape.Admits x ∧ shape.Rejects x kind := by
  cases shape with
  | text =>
      cases x with
      | null => exact .inl ⟨rfl, .null _⟩
      | str s => exact .inl ⟨rfl, .text s⟩
      | _ => exact .inr ⟨_, rfl, nofun, .text nofun⟩
  | flag =>
      cases x with
      | null => exact .inl ⟨rfl, .null _⟩
      | bool b => exact .inl ⟨rfl, .flag b⟩
      | _ => exact .inr ⟨_, rfl, nofun, .flag nofun⟩
  | whole =>
      cases x with
      | null => exact .inl ⟨rfl, .null _⟩
      | int n =>
          by_cases hleast : n < -9223372036854775808
          · refine .inr ⟨_, if_pos hleast, fun h => ?_, .below hleast⟩
            cases h
            omega
          · by_cases hgreatest : 9223372036854775807 < n
            · refine .inr ⟨_, (if_neg hleast).trans (if_pos hgreatest), fun h => ?_,
                .above hgreatest⟩
              cases h
              omega
            · exact .inl ⟨(if_neg hleast).trans (if_neg hgreatest),
                .whole (Int.not_lt.mp hleast) (Int.not_lt.mp hgreatest)⟩
      | _ => exact .inr ⟨_, rfl, nofun, .whole nofun nofun⟩

theorem Shape.fault?_eq_none_iff {shape : Shape} {x : Json} :
    shape.fault? x = none ↔ shape.Admits x := by
  obtain ⟨hnone, h⟩ | ⟨kind, hsome, h, -⟩ := shape.fault?_spec x
  · exact iff_of_true hnone h
  · exact iff_of_false (by simp [hsome]) h

/-! ## Values of a field -/

/-- Whether an object gives a value for a field, and under which name: the last one under the
field's own name, else the last one under its alternative name, else null. -/
inductive Given (ms : Json.Members) (field : Field) : String → Json → Prop
  | own {x : Json} (h : ms.IsLast field.name x) : Given ms field field.name x
  | alternative {x : Json} (hown : field.name ∉ ms.map Prod.fst)
      (h : ms.IsLast field.alternative x) : Given ms field field.alternative x
  | absent (hown : field.name ∉ ms.map Prod.fst) (h : field.alternative ∉ ms.map Prod.fst) :
      Given ms field field.name .null

section Objects

variable {ms : Json.Members} {field : Field} {name : String} {x : Json}

open Json.Members in
theorem pick_eq_iff : pick ms field = (name, x) ↔ Given ms field name x := by
  constructor
  · intro h
    rw [pick] at h
    split at h
    · next hown =>
        cases h
        exact .own (last?_eq_some_iff_isLast.mp hown)
    · next hown =>
        have hown := last?_eq_none_iff.mp hown
        split at h
        · next halternative =>
            cases h
            exact .alternative hown (last?_eq_some_iff_isLast.mp halternative)
        · next halternative =>
            cases h
            exact .absent hown (last?_eq_none_iff.mp halternative)
  · intro h
    cases h with
    | own h => rw [pick, last?_eq_some_iff_isLast.mpr h]
    | alternative hown h =>
        rw [pick, last?_eq_none_iff.mpr hown, last?_eq_some_iff_isLast.mpr h]
    | absent hown h => rw [pick, last?_eq_none_iff.mpr hown, last?_eq_none_iff.mpr h]

theorem given_pick (ms : Json.Members) (field : Field) :
    Given ms field (pick ms field).1 (pick ms field).2 :=
  pick_eq_iff.mp rfl

/-- An object gives one value for each field, under one name. -/
theorem existsUnique_given (ms : Json.Members) (field : Field) :
    ∃! given : String × Json, Given ms field given.1 given.2 :=
  ⟨pick ms field, given_pick ms field, fun _ h => (pick_eq_iff.mpr h).symm⟩

/-! ## Problems -/

/-- Whether problems are what is wrong with the values of some fields, in the order of the fields:
one for each value that is not admitted, at the name under which it is given. -/
inductive Reports (ms : Json.Members) : List Field → List Problem → Prop
  | nil : Reports ms [] []
  | sound {field : Field} {fields : List Field} {name : String} {x : Json} {problems : List Problem}
      (hgiven : Given ms field name x) (h : (shape field).Admits x)
      (hrest : Reports ms fields problems) : Reports ms (field :: fields) problems
  | wrong {field : Field} {fields : List Field} {name : String} {x : Json} {kind : Problem.Kind}
      {problems : List Problem} (hgiven : Given ms field name x) (h : ¬ (shape field).Admits x)
      (hkind : (shape field).Rejects x kind) (hrest : Reports ms fields problems) :
      Reports ms (field :: fields) (⟨[.member name], kind⟩ :: problems)

theorem problem?_eq_none_iff :
    problem? ms field = none ↔ (shape field).Admits (pick ms field).2 :=
  Option.map_eq_none_iff.trans Shape.fault?_eq_none_iff

theorem reports_filterMap (ms : Json.Members) (fields : List Field) :
    Reports ms fields (fields.filterMap (problem? ms)) := by
  induction fields with
  | nil => exact .nil
  | cons field fields ih =>
      obtain ⟨hnone, h⟩ | ⟨kind, hsome, h, hkind⟩ := (shape field).fault?_spec (pick ms field).2
      · rw [List.filterMap_cons_none (problem?_eq_none_iff.mpr h)]
        exact .sound (given_pick ms field) h ih
      · have hproblem : problem? ms field = some ⟨[.member (pick ms field).1], kind⟩ :=
          congrArg (Option.map _) hsome
        rw [List.filterMap_cons_some hproblem]
        exact .wrong (given_pick ms field) h hkind ih

theorem mem_all (field : Field) : field ∈ Field.all := by
  cases field <;> decide

/-- There is nothing to report where every value is admitted. -/
theorem filterMap_problem?_eq_nil_iff :
    Field.all.filterMap (problem? ms) = [] ↔ ∀ field, (shape field).Admits (pick ms field).2 := by
  simp only [List.filterMap_eq_nil_iff, problem?_eq_none_iff, mem_all, true_implies]

/-! ## Notices -/

theorem str_textOf (h : Shape.text.Admits (pick ms field).2) :
    .str (textOf ms field) = Shape.text.held (pick ms field).2 := by
  rw [textOf]
  generalize (pick ms field).2 = x at h ⊢
  cases h <;> rfl

theorem int_wholeOf (h : Shape.whole.Admits (pick ms field).2) :
    .int (wholeOf ms field) = Shape.whole.held (pick ms field).2 := by
  rw [wholeOf]
  generalize (pick ms field).2 = x at h ⊢
  cases h <;> rfl

theorem bool_flagOf (h : Shape.flag.Admits (pick ms field).2) :
    .bool (flagOf ms field) = Shape.flag.held (pick ms field).2 := by
  rw [flagOf]
  generalize (pick ms field).2 = x at h ⊢
  cases h <;> rfl

theorem content_assemble (h : (shape field).Admits (pick ms field).2) :
    (assemble ms).content field = (shape field).held (pick ms field).2 := by
  cases field with
  | id | recipient | message | sender | link | board | card => exact str_textOf h
  | createdAt => exact int_wholeOf h
  | read => exact bool_flagOf h

/-- What is read of an object: a notice that holds the values of its fields, if all of them are
admitted, and otherwise what is wrong with the others. -/
structure ReadsFields (ms : Json.Members) (result : Except (List Problem) Notice) : Prop where
  given : ∀ field, ∃! given : String × Json, Given ms field given.1 given.2
  accepted : (∃ n, result = .ok n) ↔
    ∀ field name x, Given ms field name x → (shape field).Admits x
  held : ∀ n, result = .ok n →
    ∀ field name x, Given ms field name x → n.content field = (shape field).held x
  refused : ∀ problems, result = .error problems → problems ≠ [] ∧ Reports ms Field.all problems

theorem readsFields_notice (ms : Json.Members) : ReadsFields ms (notice (.obj ms)) := by
  have admitted : (∀ field name x, Given ms field name x → (shape field).Admits x) ↔
      Field.all.filterMap (problem? ms) = [] := by
    rw [filterMap_problem?_eq_nil_iff]
    refine ⟨fun h field => h field _ _ (given_pick ms field), fun h field name x hgiven => ?_⟩
    have hadmits := h field
    rwa [pick_eq_iff.mpr hgiven] at hadmits
  cases hproblems : Field.all.filterMap (problem? ms) with
  | nil =>
      have hnotice : notice (.obj ms) = .ok (assemble ms) := by rw [notice, hproblems]
      have hadmits := filterMap_problem?_eq_nil_iff.mp hproblems
      rw [hnotice]
      refine ⟨existsUnique_given ms, iff_of_true ⟨_, rfl⟩ (admitted.mpr hproblems), ?held, ?refused⟩
      case held =>
        intro n hn field name x hgiven
        cases hn
        rw [content_assemble (hadmits field), pick_eq_iff.mpr hgiven]
      case refused =>
        intro problems h
        cases h
  | cons p problems =>
      have hnotice : notice (.obj ms) = .error (p :: problems) := by rw [notice, hproblems]
      rw [hnotice]
      refine ⟨existsUnique_given ms, iff_of_false ?none fun h => ?wrong, ?held, ?refused⟩
      case none =>
        rintro ⟨n, hn⟩
        cases hn
      case wrong => cases (admitted.mp h).symm.trans hproblems
      case held =>
        intro n hn
        cases hn
      case refused =>
        intro problems h
        cases h
        exact ⟨List.cons_ne_nil _ _, hproblems ▸ reports_filterMap ms Field.all⟩

end Objects

/-! ## What does not count -/

/-- Whether two objects differ only in the order of members with different names, and in members
under names of no field. -/
inductive Rearranged : Json.Members → Json.Members → Prop
  | refl (ms : Json.Members) : Rearranged ms ms
  | symm {ms ms' : Json.Members} (h : Rearranged ms ms') : Rearranged ms' ms
  | trans {ms ms' ms'' : Json.Members} (h : Rearranged ms ms') (h' : Rearranged ms' ms'') :
      Rearranged ms ms''
  | cons {ms ms' : Json.Members} (m : String × Json) (h : Rearranged ms ms') :
      Rearranged (m :: ms) (m :: ms')
  | swap {m m' : String × Json} (h : m.1 ≠ m'.1) (ms : Json.Members) :
      Rearranged (m :: m' :: ms) (m' :: m :: ms)
  | unknown {m : String × Json} (h : ∀ field : Field, m.1 ≠ field.name ∧ m.1 ≠ field.alternative)
      (ms : Json.Members) : Rearranged (m :: ms) ms

namespace Rearranged

variable {ms ms' : Json.Members} {name : String}

open Json.Members in
theorem last?_eq (h : Rearranged ms ms') (field : Field)
    (hname : name = field.name ∨ name = field.alternative) : last? name ms = last? name ms' := by
  induction h with
  | refl ms => rfl
  | symm _ ih => exact ih.symm
  | trans _ _ ih ih' => exact ih.trans ih'
  | cons m _ ih => rw [last?, last?, ih]
  | @swap m m' h ms =>
      simp only [last?]
      cases last? name ms with
      | some x => rfl
      | none =>
          by_cases hm : m.1 = name
          · have hm' : m'.1 ≠ name := hm ▸ Ne.symm h
            simp [hm, hm']
          · by_cases hm' : m'.1 = name <;> simp [hm, hm']
  | @unknown m h ms =>
      -- The name looked for is one of a field, and so it is not that of the member.
      have hm : m.1 ≠ name := by
        rintro rfl
        exact hname.elim (h field).1 (h field).2
      rw [last?, if_neg hm]
      cases last? name ms <;> rfl

theorem pick_eq (h : Rearranged ms ms') (field : Field) : pick ms field = pick ms' field := by
  rw [pick, pick, h.last?_eq field (.inl rfl), h.last?_eq field (.inr rfl)]

/-- What is read of an object depends on nothing but the values of its fields. -/
theorem notice_eq (h : Rearranged ms ms') : notice (.obj ms) = notice (.obj ms') := by
  have hproblem : problem? ms = problem? ms' := funext fun field => by
    simp only [problem?, h.pick_eq]
  have hassemble : assemble ms = assemble ms' := by
    simp only [assemble, textOf, wholeOf, flagOf, h.pick_eq]
  rw [notice, notice, hproblem, hassemble]

end Rearranged

/-- An object is read by the values of its fields: as the notice that holds them, if every one of
them is of the type of its field, and otherwise every one that is not is reported. The order of
members with different names does not count, and neither do members under names of no field. -/
theorem fields_read {source : Source} {ms : Json.Members} (h : source.Denotes (.obj ms)) :
    ReadsFields ms (read source) ∧
      ∀ (source' : Source) (ms' : Json.Members), source'.Denotes (.obj ms') → Rearranged ms ms' →
        read source' = read source := by
  have hread : read source = notice (.obj ms) := readWith_of_denotes h
  refine ⟨hread ▸ readsFields_notice ms, fun source' ms' h' hrearranged => ?_⟩
  have hread' : read source' = notice (.obj ms') := readWith_of_denotes h'
  rw [hread, hread', hrearranged.notice_eq]

/-- A document with null before a text for one field, an integer out of range and a name given
twice. -/
def hiddenName : Source := .text <|
  "\x7b\"userID\":null,\"user_id\":\"ann\",\"createAt\":9223372036854775808," ++
    "\"read\":0,\"read\":true\x7d"

/-- The same with two members in the other order and another one in front of them. -/
def shuffledName : Source := .text <|
  "\x7b\"note\":0,\"user_id\":\"ann\",\"userID\":null,\"createAt\":9223372036854775808," ++
    "\"read\":0,\"read\":true\x7d"

/-- The members that are in the same place in both. -/
def sharedMembers : Json.Members :=
  [("createAt", .int 9223372036854775808), ("read", .int 0), ("read", .bool true)]

open Json.Grammar in
theorem denotes_hiddenName :
    hiddenName.Denotes (.obj (("userID", .null) :: ("user_id", .str "ann") :: sharedMembers)) ∧
      shuffledName.Denotes
        (.obj (("note", .int 0) :: ("user_id", .str "ann") :: ("userID", .null) ::
          sharedMembers)) := by
  have name {s : String} (h : s.toList.all isPlain) := quoted_plain h
  have missing : Value dialect 199 .null "null".toList := .word (by simp [Json.Reader.words])
  have yes : Value dialect 199 (.bool true) "true".toList := .word (by simp [Json.Reader.words])
  have zero : Value dialect 199 (.int 0) ['0'] :=
    .number (@Number.whole dialect false [0] ['0'] ⟨⟨by decide, by decide, rfl⟩, by decide⟩
      (by decide))
  have moment : Number dialect (.int 9223372036854775808) "9223372036854775808".toList :=
    @Number.whole dialect false [9, 2, 2, 3, 3, 7, 2, 0, 3, 6, 8, 5, 4, 7, 7, 5, 8, 0, 8] _
      ⟨⟨by decide, by decide, rfl⟩, by decide⟩ (by decide)
  have shared :=
    Members.more (@name "createAt" (by decide)) blank_nil blank_nil (.number moment) blank_nil
      blank_nil <|
    .more (@name "read" (by decide)) blank_nil blank_nil zero blank_nil blank_nil <|
    .last (@name "read" (by decide)) blank_nil blank_nil yes blank_nil
  have hidden :=
    Members.more (@name "userID" (by decide)) blank_nil blank_nil missing blank_nil blank_nil <|
    .more (@name "user_id" (by decide)) blank_nil blank_nil (.string (@name "ann" (by decide)))
      blank_nil blank_nil shared
  have shuffled :=
    Members.more (@name "note" (by decide)) blank_nil blank_nil zero blank_nil blank_nil <|
    .more (@name "user_id" (by decide)) blank_nil blank_nil (.string (@name "ann" (by decide)))
      blank_nil blank_nil <|
    .more (@name "userID" (by decide)) blank_nil blank_nil missing blank_nil blank_nil shared
  exact ⟨⟨[], _, [], blank_nil, blank_nil, .members blank_nil hidden,
      show String.toList _ = _ by decide +kernel⟩,
    ⟨[], _, [], blank_nil, blank_nil, .members blank_nil shuffled,
      show String.toList _ = _ by decide +kernel⟩⟩

theorem hidden_name_read :
    let ms : Json.Members := ("userID", .null) :: ("user_id", .str "ann") :: sharedMembers
    let ms' : Json.Members :=
      ("note", .int 0) :: ("user_id", .str "ann") :: ("userID", .null) :: sharedMembers
    hiddenName.Denotes (.obj ms) ∧ shuffledName.Denotes (.obj ms') ∧ Rearranged ms ms' ∧
      ReadsFields ms (read hiddenName) ∧ read shuffledName = read hiddenName ∧
      read hiddenName = .error [⟨[.member "createAt"], .aboveRange⟩] := by
  intro ms ms'
  obtain ⟨hdenotes, hdenotes'⟩ := denotes_hiddenName
  have known : ∀ field : Field, "note" ≠ field.name ∧ "note" ≠ field.alternative := by
    intro field
    cases field <;> decide
  have hrearranged : Rearranged ms ms' :=
    .trans (.swap (by decide) _) (.symm (.unknown known _))
  obtain ⟨hreads, hsame⟩ := fields_read hdenotes
  exact ⟨hdenotes, hdenotes', hrearranged, hreads, hsame _ _ hdenotes' hrearranged,
    by decide +kernel⟩

end Document
end Noticeboard
