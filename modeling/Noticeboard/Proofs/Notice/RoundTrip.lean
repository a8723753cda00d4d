import Noticeboard.Notice.Document
import Noticeboard.Proofs.Json.Members
import Noticeboard.Proofs.Json.Plain
import Noticeboard.Proofs.Text.Utf8

/-!
Notices come back from their documents. Whatever the order of the members, however the text is
spelled and wherever it comes from, reading a text of the document of a notice gives that notice.
-/

namespace Noticeboard

namespace Notice

/-- What the document of a notice holds for a field, or null if it leaves the field out. -/
def value (n : Notice) : Field → Json
  | .id => .str n.id
  | .recipient => .str n.recipient
  | .message => .str n.message
  | .sender => .str n.sender
  | .createdAt => .int n.createdAt
  | .read => .bool n.read
  | .link => if n.link = "" then .null else .str n.link
  | .board => if n.board = "" then .null else .str n.board
  | .card => if n.card = "" then .null else .str n.card

/-- The members of the document of a notice. -/
def members (n : Notice) : Json.Members :=
  [(Field.id.name, .str n.id), (Field.recipient.name, .str n.recipient),
    (Field.message.name, .str n.message), (Field.sender.name, .str n.sender),
    (Field.createdAt.name, .int n.createdAt), (Field.read.name, .bool n.read)] ++
  Json.Members.ofFilled .link n.link ++ Json.Members.ofFilled .board n.board ++
  Json.Members.ofFilled .card n.card

theorem document_eq (n : Notice) : n.document = .obj n.members := rfl

theorem nodup_members (n : Notice) : (n.members.map Prod.fst).Nodup := by
  by_cases hlink : n.link = "" <;> by_cases hboard : n.board = "" <;> by_cases hcard : n.card = "" <;>
    simp [members, Json.Members.ofFilled, filled?, hlink, hboard, hcard, Field.name]

theorem plain_members {n : Notice} (h : Int64.fits n.createdAt) :
    ∀ m ∈ n.members, Json.Plain m.2 := by
  have filled (field : Field) (s : String) :
      ∀ m ∈ Json.Members.ofFilled field s, Json.Plain m.2 := by
    by_cases hs : s = ""
    · simp [Json.Members.ofFilled, filled?, hs]
    · simp [Json.Members.ofFilled, filled?, hs, Json.Plain.str]
  intro m hm
  simp only [members, List.mem_append] at hm
  rcases hm with ((hm | hm) | hm) | hm
  · simp only [List.mem_cons, List.not_mem_nil, or_false] at hm
    rcases hm with rfl | rfl | rfl | rfl | rfl | rfl
    · exact .str _
    · exact .str _
    · exact .str _
    · exact .str _
    · exact .int h
    · exact .bool _
  · exact filled .link _ m hm
  · exact filled .board _ m hm
  · exact filled .card _ m hm

/-- Whether a text is one of the document of a notice, with its members in some order. -/
def Written (n : Notice) (cs : List Char) : Prop :=
  ∃ ms ms', n.document = .obj ms ∧ ms'.Perm ms ∧ Json.Grammar.Spells (.obj ms') cs

end Notice

namespace Document

/-! ## Reading members -/

theorem pick_perm {ms ms' : Json.Members} (hperm : ms.Perm ms') (h : (ms.map Prod.fst).Nodup)
    (field : Field) : pick ms field = pick ms' field := by
  simp only [pick, Json.Members.last?_perm hperm h]

theorem pick_members (n : Notice) (field : Field) :
    pick n.members field = (field.name, n.value field) := by
  -- Which members there are depends on which of the three last texts are empty.
  by_cases hlink : n.link = "" <;> by_cases hboard : n.board = "" <;> by_cases hcard : n.card = "" <;>
    cases field <;>
      simp [pick, Notice.members, Notice.value, Json.Members.ofFilled, filled?, hlink, hboard, hcard,
        Field.name, Field.alternative, Json.Members.last?]

theorem fault?_value {n : Notice} (h : Int64.fits n.createdAt) (field : Field) :
    (shape field).fault? (n.value field) = none := by
  simp only [Int64.fits, Bool.and_eq_true, decide_eq_true_eq] at h
  cases field with
  | id | recipient | message | sender | read => rfl
  | createdAt => simp [shape, Shape.fault?, Notice.value, Int.not_lt.mpr h.1, Int.not_lt.mpr h.2]
  | link | board | card =>
      simp only [Notice.value]
      split <;> rfl

/-- The members of the document of a notice, in any order, make up the notice. -/
theorem notice_of_perm {n : Notice} {ms : Json.Members} (h : Int64.fits n.createdAt)
    (hperm : ms.Perm n.members) : notice (.obj ms) = .ok n := by
  have hpick (field : Field) : pick ms field = (field.name, n.value field) := by
    rw [← pick_members]
    exact (pick_perm hperm.symm n.nodup_members field).symm
  have hproblems : Field.all.filterMap (problem? ms) = [] := by
    rw [List.filterMap_eq_nil_iff]
    intro field _
    simp only [problem?, hpick, fault?_value h, Option.map_none]
  have htext (field : Field) {s : String}
      (hvalue : n.value field = if s = "" then .null else .str s) : textOf ms field = s := by
    rw [textOf, hpick, hvalue]
    by_cases hs : s = "" <;> simp [hs]
  have hassembled : assemble ms = n := by
    simp only [assemble, htext .link rfl, htext .board rfl, htext .card rfl]
    simp only [textOf, wholeOf, flagOf, hpick, Notice.value]
  rw [notice, hproblems, hassembled]

/-- A notice that has been read has a creation time of 64 bits. -/
theorem fits_of_notice {x : Json} {n : Notice} (h : notice x = .ok n) : Int64.fits n.createdAt := by
  obtain ⟨ms, hproblem, hmoment⟩ : ∃ ms : Json.Members,
      problem? ms .createdAt = none ∧ n.createdAt = wholeOf ms .createdAt := by
    cases x with
    | obj ms =>
        rw [notice] at h
        split at h
        · next hproblems =>
            cases h
            exact ⟨ms, List.filterMap_eq_nil_iff.mp hproblems .createdAt (by decide), rfl⟩
        · cases h
    | _ => cases h
  rw [hmoment, wholeOf]
  simp only [problem?, Option.map_eq_none_iff, shape] at hproblem
  cases hvalue : (pick ms .createdAt).2 with
  | int m =>
      rw [hvalue] at hproblem
      by_cases hleast : m < Int64.least
      · simp [Shape.fault?, hleast] at hproblem
      · by_cases hgreatest : Int64.greatest < m
        · simp [Shape.fault?, hleast, hgreatest] at hproblem
        · simpa [Int64.fits] using ⟨Int.not_lt.mp hleast, Int.not_lt.mp hgreatest⟩
  | _ => exact (by decide : Int64.fits 0 = true)

/-! ## Sources -/

/-- Whether a source holds a text. A file holds what has not been read of it. -/
def Source.Holds : Source → List Char → Prop
  | .text s, cs => s.toList = cs
  | .bytes bs, cs => bs = Text.Utf8.encodeChars cs
  | .buffer bs, cs => bs.data.toList = Text.Utf8.encodeChars cs
  | .textFile f, cs => f.unread = cs
  | .byteFile f, cs => f.unread = Text.Utf8.encodeChars cs

theorem Source.Holds.chars {source : Source} {cs : List Char} (h : source.Holds cs) :
    source.chars? = some cs := by
  cases source with
  | text s | textFile f => exact congrArg some h
  | bytes bs | buffer bs | byteFile f =>
      exact (congrArg Text.Utf8.decode? h).trans (Text.Utf8.decode?_encodeChars cs)

theorem read_written {n : Notice} {source : Source} {cs : List Char} (h : Int64.fits n.createdAt)
    (hwritten : n.Written cs) (hsource : source.Holds cs) : read source = .ok n := by
  obtain ⟨ms, ms', hdocument, hperm, hspells⟩ := hwritten
  obtain rfl : n.members = ms := Json.obj.inj (n.document_eq.symm.trans hdocument)
  have hplain : ∀ m ∈ ms', Json.Plain m.2 := fun m hm => n.plain_members h m (hperm.mem_iff.mp hm)
  have hjson : source.json? = some (.obj ms') := by
    rw [Source.json?, hsource.chars, Option.bind_some]
    exact Json.read_of_spells hplain hspells (by decide) (Nat.succ_pos 199)
  rw [read, readWith, hjson]
  exact notice_of_perm h hperm

/-- Every text of the document of a notice is read as that notice, wherever it comes from, and so
is every text of the document of a notice that has been read before. -/
theorem documents_round_trip :
    (∀ {n : Notice} {source : Source} {cs : List Char}, Int64.fits n.createdAt → n.Written cs →
        source.Holds cs → read source = .ok n) ∧
      ∀ {n : Notice} {source accepted : Source} {cs : List Char}, read accepted = .ok n →
        n.Written cs → source.Holds cs → read source = .ok n := by
  refine ⟨read_written, ?_⟩
  intro n source accepted cs haccepted
  have hfits : Int64.fits n.createdAt := by
    rw [read, readWith] at haccepted
    split at haccepted
    · exact fits_of_notice haccepted
    · cases haccepted
  exact read_written hfits

/-- A notice with the least creation time and a message outside the basic plane. -/
def smilingNotice : Notice :=
  ⟨"1", "ann", "😀", "bob", -9223372036854775808, true, "", "", "c"⟩

/-- The document of that notice in reverse order, with escapes and white space. -/
def smilingText : String :=
  "\x7b \"cardID\":\"c\",\"read\" : true,\"createAt\":-9223372036854775808,\"from\":\"bob\"," ++
    "\"message\":\"\\uD83d\\uDE00\",\"userID\":\"ann\",\n\"\\u0069d\":\"1\"\x7d"

open Json.Grammar in
theorem written_smiling : smilingNotice.Written smilingText.toList := by
  have empty : Blank [] := by simp [Blank]
  have space : Blank [' '] := by simp [Blank, IsBlank]
  have line : Blank ['\n'] := by simp [Blank, IsBlank]
  have plain (s : String) (h : s.toList.all isPlain) :
      Value dialect 0 (.str s) ('"' :: (s.toList ++ ['"'])) :=
    .string (quoted_plain h)
  have yes : Value dialect 0 (.bool true) "true".toList := .word (by simp [Json.Reader.words])
  have moment : Number dialect (.int (-9223372036854775808)) "-9223372036854775808".toList :=
    @Number.whole dialect true [9, 2, 2, 3, 3, 7, 2, 0, 3, 6, 8, 5, 4, 7, 7, 5, 8, 0, 8] _
      ⟨⟨by decide, by decide, rfl⟩, by decide⟩ (by decide)
  have high : CodeUnit 0xd83d ['\\', 'u', 'D', '8', '3', 'd'] :=
    @CodeUnit.mk 13 8 3 13 _ _ _ _ (.upper (by decide)) (.decimal (by decide))
      (.decimal (by decide)) (.lower (by decide))
  have low : CodeUnit 0xde00 ['\\', 'u', 'D', 'E', '0', '0'] :=
    @CodeUnit.mk 13 14 0 0 _ _ _ _ (.upper (by decide)) (.upper (by decide))
      (.decimal (by decide)) (.decimal (by decide))
  have letter : CodeUnit 0x69 ['\\', 'u', '0', '0', '6', '9'] :=
    @CodeUnit.mk 0 0 6 9 _ _ _ _ (.decimal (by decide)) (.decimal (by decide))
      (.decimal (by decide)) (.decimal (by decide))
  have smile : Quoted "😀" "\"\\uD83d\\uDE00\"".toList :=
    @Quoted.mk "😀" _ (@Characters.cons '😀' [] _ _ (.pair (by decide) high low) .nil)
  have id : Quoted "id" "\"\\u0069d\"".toList :=
    @Quoted.mk "id" _ (@Characters.cons 'i' ['d'] _ _ (.unit letter)
      (.cons (.raw (by decide) (by decide) (by decide)) .nil))
  have name {s : String} (h : s.toList.all isPlain) := quoted_plain h
  have hmembers :=
    Members.more (@name "cardID" (by decide)) empty empty (plain "c" (by decide)) empty empty <|
    .more (@name "read" (by decide)) space space yes empty empty <|
    .more (@name "createAt" (by decide)) empty empty (.number moment) empty empty <|
    .more (@name "from" (by decide)) empty empty (plain "bob" (by decide)) empty empty <|
    .more (@name "message" (by decide)) empty empty (.string smile) empty empty <|
    .more (@name "userID" (by decide)) empty empty (plain "ann" (by decide)) empty line <|
    .last id empty empty (plain "1" (by decide)) empty
  have hperm := List.reverse_perm smilingNotice.members
  refine ⟨_, _, rfl, hperm, dialect, 1, [], _, [], empty, empty, .members space hmembers, ?_⟩
  decide +kernel

theorem holds_byteFile (s : String) :
    (Source.byteFile ⟨Text.Utf8.encode s, 0⟩).Holds s.toList :=
  rfl

theorem smiling_read_back :
    Int64.fits smilingNotice.createdAt ∧ smilingNotice.Written smilingText.toList ∧
    read (.byteFile ⟨Text.Utf8.encode smilingText, 0⟩) = .ok smilingNotice ∧
    read (.text smilingText) = .ok smilingNotice := by
  have hfile : read (.byteFile ⟨Text.Utf8.encode smilingText, 0⟩) = .ok smilingNotice :=
    documents_round_trip.1 (by decide) written_smiling (holds_byteFile smilingText)
  exact ⟨by decide, written_smiling, hfile, documents_round_trip.2 hfile written_smiling rfl⟩

end Document
end Noticeboard
