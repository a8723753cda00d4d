import Noticeboard.Proofs.Http.Counting
import Noticeboard.Proofs.Http.Entrance
import Noticeboard.Proofs.Service.Creation
import Noticeboard.Proofs.Service.Permanence

/-!
Where links come from. A notice is created with the link that is supplied for it, or else with the
page of its board if that board has been created before, and afterwards neither its link nor its
board ever changes. Boards are never removed, so a page that a link leads to is there for good.
-/

namespace Noticeboard

open Plan

/-! ## Drafts and calls -/

/-- Whether the row of a draft, if it has one, has the link that a store gives to it. -/
def Draft.Linked (s : Store) (supplied : String) (d : Draft) : Prop :=
  ∀ n, Store.row? d = some n → n.link = s.linkOf supplied n.board n.card

/-- Whether an answer about a board is what the boards of a store say. -/
def Call.Finds (s : Store) : (c : Call) → c.Answer → Prop
  | .findBoard (some id), .ok found => found = s.boards.bind (·.find? id)
  | _, _ => True

def Call.Links (s : Store) (supplied : String) : Call → Prop
  | .insert d => d.Linked s supplied
  | .insertBoard _ _ => False
  | _ => True

namespace Store

def boardAt (s : Store) (id : String) : Option Board := s.boards.bind (·.find? id)

theorem boards_of_boardsFor {s : Store} {access : Access} {t : BoardTable}
    (h : s.boardsFor access = some t) : s.boards = some t := by
  rw [boardsFor] at h
  split at h
  · cases h
  · exact h

/-- Whether every row that is new in a store has the link that the store before gave to it, while
the boards are as they were. -/
structure Links (s : Store) (supplied : String) (s' : Store) : Prop where
  boards : s'.boards = s.boards
  rows : ∀ {id n}, s'.noticeAt id = some n → s.noticeAt id = none →
    n.link = s.linkOf supplied n.board n.card

theorem links_refl (s : Store) (supplied : String) : s.Links supplied s :=
  ⟨rfl, fun h hnone => by rw [h] at hnone; cases hnone⟩

theorem boards_of_effect {s₀ s s' : Store} {supplied : String} {c : Call} (h : Effect s c s')
    (hc : c.Links s₀ supplied) : s'.boards = s.boards := by
  cases h with
  | none => rfl
  | inserted hinsert =>
      obtain ⟨_, _, _, _, rfl⟩ := insert_eq_ok_iff.mp hinsert
      rfl
  | flagged hflag =>
      obtain ⟨_, _, rfl⟩ := setRead_ok hflag
      rfl
  | deleted hdelete | deletedFor hdelete =>
      obtain ⟨_, _, rfl⟩ := removeWhere_ok hdelete
      rfl
  | boarded => exact hc.elim

theorem links_of_effect {s₀ s s' : Store} {supplied : String} {c : Call} (h : Effect s c s')
    (hc : c.Links s₀ supplied) (hs : s₀.Links supplied s) : s₀.Links supplied s' := by
  refine ⟨(boards_of_effect h hc).trans hs.boards, fun {id m} hm hnone => ?_⟩
  cases h with
  | none => exact hs.rows hm hnone
  | @inserted d n _ hinsert =>
      obtain ⟨_, _, hrow, _⟩ := insert_eq_ok_iff.mp hinsert
      have hlink := hc n hrow
      rw [noticeAt_insert hinsert] at hm
      split at hm
      · cases hm
        exact hlink
      · exact hs.rows hm hnone
  | @flagged k read _ hflag =>
      rw [noticeAt_setRead hflag] at hm
      obtain ⟨n, hn, rfl⟩ := Option.map_eq_some_iff.mp hm
      have hlink := hs.rows hn hnone
      rw [marked_eq]
      exact hlink
  | deleted hdelete | deletedFor hdelete =>
      rw [noticeAt_removeWhere hdelete] at hm
      exact hs.rows (Option.filter_eq_some_iff.mp hm).1 hnone
  | boarded => exact hc.elim

end Store

variable {s : Store} {supplied : String}

theorem Call.links_of_reads (c : Call) (h : c.Reads) : c.Links s supplied := by
  cases c with
  | insert _ | insertBoard _ _ => exact h.elim
  | _ => trivial

theorem Call.links_of_silent (c : Call) (h : c.Silent) : c.Links s supplied :=
  c.links_of_reads (c.reads_of_silent h)

/-- Whether an action, which may rely on the boards of a store, inserts only rows with the link that
the store gives to them, and gives what `Q` holds of, if it succeeds. -/
abbrev Linking {α ε : Type} (s : Store) (supplied : String) (Q : α → Prop) (a : ExceptT ε Plan α) :
    Prop :=
  (ExceptT.run a).Ensures (Call.Finds s) (Call.Links s supplied) (Gives Q)

/-! ## Creating notices -/

namespace Service

theorem linking_findBoard (id : String) :
    Linking s supplied (· = s.boards.bind (·.find? id)) (Action.findBoard (some id)) := by
  refine ensures_bind (ensures_ask trivial) fun answer hanswer => ?_
  cases answer with
  | ok found => exact hanswer
  | error _ => trivial

theorem linking_resolveLink (board card : Option String) :
    Linking s supplied (· = s.linkOf "" (board.getD "") (card.getD ""))
      (resolveLink board card) := by
  have hnone : "" = s.linkOf "" "" (card.getD "") := by simp [Store.linkOf]
  cases board with
  | none => exact hnone
  | some b =>
      by_cases hb : b = ""
      · simp only [resolveLink, filled?, hb, ↓reduceIte]
        exact hnone
      · simp only [resolveLink, filled?, hb, ↓reduceIte]
        refine ensures_exceptBind (linking_findBoard b) fun found hfound => ?_
        cases found with
        | none => exact show "" = s.linkOf "" b (card.getD "") by simp [Store.linkOf, ← hfound]
        | some board =>
            exact show boardLink b (card.getD "") = s.linkOf "" b (card.getD "") by
              simp [Store.linkOf, ← hfound, hb]

theorem linking_linkFor (link board card : Option String) :
    Linking s supplied (· = s.linkOf (link.getD "") (board.getD "") (card.getD ""))
      (linkFor link board card) := by
  cases link with
  | none => exact linking_resolveLink board card
  | some l =>
      by_cases hl : l = ""
      · subst hl
        exact linking_resolveLink board card
      · simp only [linkFor, filled?, hl, ↓reduceIte]
        exact show l = s.linkOf l (board.getD "") (card.getD "") by simp [Store.linkOf, hl]

/-- A draft that was given the link of the store for its board and card has it in its row. -/
theorem linked_of_link {supplied link : String} {board card : Option String}
    (h : link = s.linkOf supplied (board.getD "") (card.getD "")) (id recipient message sender :
    Option String) (createdAt : Option Int) (read : Option Bool) :
    Draft.Linked s supplied
      { id, recipient, message, sender, createdAt, read, link := some link, board, card } := by
  intro n hn
  have hdraft := Store.draft_of_row hn
  simp only [Notice.draft, Draft.mk.injEq, Option.some_inj] at hdraft
  obtain ⟨-, -, -, -, -, -, hlink, hboard, hcard⟩ := hdraft
  rw [hboard, hcard, ← h, hlink]
  rfl

theorem linking_completed (draft : Draft) :
    Linking s (draft.link.getD "") (Draft.Linked s (draft.link.getD "")) (completed draft) := by
  refine ensures_exceptBind (ensures_calls (makes_required _ _)) fun recipient _ => ?_
  refine ensures_exceptBind (ensures_calls (makes_required _ _)) fun message _ => ?_
  refine ensures_exceptBind (ensures_calls (makes_required _ _)) fun sender _ => ?_
  refine ensures_exceptBind (ensures_calls (makes_momentOf draft)) fun moment _ => ?_
  refine ensures_exceptBind (ensures_calls (makes_identify Call.links_of_silent _)) fun id _ => ?_
  have htimed (createdAt : Int) :
      Linking s (draft.link.getD "") (Draft.Linked s (draft.link.getD ""))
        (linkFor draft.link draft.board draft.card >>= fun link =>
          (pure { draft with id, recipient, message, sender, createdAt, link } : Action Draft)) :=
    ensures_exceptBind (linking_linkFor _ _ _) fun link hlink =>
      linked_of_link hlink _ _ _ _ _ _
  dsimp only
  split
  · exact htimed moment
  · exact ensures_exceptBind (ensures_calls (makes_now Call.links_of_silent))
      fun createdAt _ => htimed createdAt

theorem linking_createNew (recipient message sender board card : Option String) :
    Linking s "" (fun _ => True) (createNew recipient message sender board card) := by
  refine ensures_exceptBind (ensures_calls (makes_required _ _)) fun recipient _ => ?_
  refine ensures_exceptBind (ensures_calls (makes_required _ _)) fun message _ => ?_
  refine ensures_exceptBind (ensures_calls (makes_required _ _)) fun sender _ => ?_
  refine ensures_exceptBind (ensures_calls (makes_newId Call.links_of_silent)) fun id _ => ?_
  refine ensures_exceptBind (ensures_calls (makes_now Call.links_of_silent)) fun createdAt _ => ?_
  refine ensures_exceptBind (linking_resolveLink _ _) fun link hlink => ?_
  exact ensures_insert (linked_of_link hlink _ _ _ _ _ _)

/-! ## Runs -/

/-- Every operation but the creation of a board inserts only rows with the link that the store at
its beginning gives to them. -/
theorem linking_operation {o : Operation} (h : ∀ id title, o ≠ .insertBoard id title) :
    o.plan.Ensures (Call.Finds s) (Call.Links s o.link) fun _ => True := by
  refine Operation.ensures Call.links_of_reads (fun _ => trivial) (fun _ => trivial)
    (fun _ => trivial) (fun id title ho => absurd ho (h id title)) (fun draft hlink => ?_)
    fun hnone => ?_
  · rw [← hlink]
    exact linking_completed draft
  · rw [hnone]
    exact linking_createNew

theorem finds_perform {c : Call} {d : Desk} (hc : c.Links s supplied)
    (hd : d.store.boards = s.boards) :
    c.Finds s (d.perform c).1 ∧ (d.perform c).2.store.boards = s.boards := by
  refine ⟨?_, (Store.boards_of_effect (d.effect_perform c) hc).trans hd⟩
  cases c with
  | findBoard id =>
      cases id with
      | none => trivial
      | some id =>
          rw [Desk.perform, Desk.answer_reading, Store.findBoard]
          cases hboards : d.store.boardsFor .findBoard with
          | none => trivial
          | some t =>
              have ht := Store.boards_of_boardsFor hboards
              rw [hd] at ht
              exact show t.find? id = s.boards.bind (·.find? id) by rw [ht]; rfl
  | _ => trivial

theorem links_operation {o : Operation} (h : ∀ id title, o ≠ .insertBoard id title) (d : Desk) :
    d.store.Links o.link (o.plan.run d).2.store :=
  (kept_of_ensures (H := fun d' => d'.store.boards = d.store.boards)
    (fun _ _ hc hd => finds_perform hc hd)
    (fun d' c hc => Store.links_of_effect (d'.effect_perform c) hc) (linking_operation h) rfl
    (d.store.links_refl _)).2

/-- The board that an operation creates, by its answer. -/
def Operation.board? : (o : Operation) → o.Answer → Option String
  | insertBoard _ _, .ok board => some board.id
  | _, _ => none

theorem boardAt_insertBoard {s s' : Store} {id title : Option String} {b : Board}
    (h : s.insertBoard id title = .ok (b, s')) (k : String) :
    s'.boardAt k = if b.id = k then some b else s.boardAt k := by
  simp only [Store.insertBoard] at h
  split at h
  · next hboards =>
      split at h
      · cases h
        simp [Store.boardAt, Store.boards_of_boardsFor hboards, Table.find?_insert]
      · cases h
  · cases h

/-- A board is there after an operation if it was there before, or if the operation created it,
which it says it did wherever the board can be read back. -/
theorem boardAt_operation (o : Operation) {d : Desk} (hreads : d.store.ReadsBack) (id : String) :
    ((o.plan.run d).2.store.boardAt id).isSome ↔
      (d.store.boardAt id).isSome ∨ o.board? (o.plan.run d).1 = some id := by
  by_cases h : ∃ k title, o = .insertBoard k title
  · obtain ⟨k, title, rfl⟩ := h
    have hrun : (Operation.insertBoard k title).plan.run d =
        ((d.perform (.insertBoard k title)).1.mapError .storage,
          (d.perform (.insertBoard k title)).2) :=
      Action.run_ofStore (.ask (.insertBoard k title)) d
    rw [hrun]
    dsimp only
    rw [Desk.perform, Desk.answer_saving, Desk.store_saving]
    cases hinsert : d.store.insertBoard k title with
    | error _ => simp [Store.saveBoard_refused hinsert, Except.mapError, Operation.board?]
    | ok result =>
        obtain ⟨b, s'⟩ := result
        rw [Store.saveBoard_stored hinsert, hreads.boards]
        simp only [Bool.false_eq_true, ↓reduceIte, Except.mapError, Operation.board?,
          boardAt_insertBoard hinsert, Option.some_inj]
        by_cases hb : b.id = id <;> simp [hb]
  · have hother : ∀ k title, o ≠ .insertBoard k title := fun k title heq => h ⟨k, title, heq⟩
    have hnone : o.board? (o.plan.run d).1 = none := by
      cases o with
      | insertBoard k title => exact absurd rfl (hother k title)
      | _ => rfl
    rw [Store.boardAt, (links_operation hother d).boards, hnone]
    simp [Store.boardAt]

/-- The boards that are created in a run, one after the other. -/
def boardsCreated : List Turn → Store → List String
  | [], _ => []
  | t :: rest, s => (t.operation.board? (t.answer s)).toList ++ boardsCreated rest (t.after s)

theorem boardAt_final {turns : List Turn} (hreads : ∀ t ∈ turns, t.ReadsBack) (s : Store)
    (id : String) :
    ((final turns s).boardAt id).isSome ↔
      (s.boardAt id).isSome ∨ id ∈ boardsCreated turns s := by
  induction turns generalizing s with
  | nil => simp [final, boardsCreated]
  | cons t rest ih =>
      have hturn := boardAt_operation t.operation (hreads t List.mem_cons_self s) id
      rw [boardsCreated, List.mem_append, Option.mem_toList, ← or_assoc]
      exact (ih (fun t' ht' => hreads t' (List.mem_cons_of_mem t ht')) (t.after s)).trans
        (or_congr_left hturn)

theorem boardsCreated_append (turns later : List Turn) (s : Store) :
    boardsCreated (turns ++ later) s =
      boardsCreated turns s ++ boardsCreated later (final turns s) := by
  induction turns generalizing s with
  | nil => rfl
  | cons t turns ih =>
      rw [List.cons_append, boardsCreated, boardsCreated, ih, List.append_assoc]
      rfl

/-! ## Creation -/

/-- A row that is new after a turn has the link that the store before the turn gives to it. -/
theorem link_of_new {t : Turn} {s : Store} {id : String} {n : Notice}
    (hn : (t.after s).noticeAt id = some n) (hnone : s.noticeAt id = none) :
    n.link = s.linkOf t.operation.link n.board n.card := by
  by_cases h : ∃ k title, t.operation = .insertBoard k title
  · obtain ⟨k, title, h⟩ := h
    have hstore : (t.after s) = ((t.desk s).perform (.insertBoard k title)).2.store := by
      rw [Turn.after, h]
      exact congrArg (·.2.store) (Action.run_ofStore (.ask (.insertBoard k title)) (t.desk s))
    have heffect := (t.desk s).effect_perform (.insertBoard k title)
    rw [← hstore] at heffect
    generalize t.after s = s' at heffect hn
    cases heffect with
    | none | boarded =>
        have hold : s.noticeAt id = some n := hn
        rw [hnone] at hold
        cases hold
  · have hlinks := links_operation (fun k title heq => h ⟨k, title, heq⟩) (t.desk s)
    exact hlinks.rows hn hnone

/-- Whether the row of a notice is there all through a run, and by and by became the notice. -/
def Stands (turns : List Turn) (s : Store) (n : Notice) : Prop :=
  ∀ past future, turns = past ++ future →
    ∃ m, (final past s).noticeAt n.id = some m ∧ m.Becomes n

/-- A row that is there at the end has been there all along, or since some turn of the run. -/
theorem creation_of_row (turns : List Turn) (s : Store) {n : Notice}
    (h : (final turns s).noticeAt n.id = some n) :
    Stands turns s n ∨ ∃ past t rest, turns = past ++ t :: rest ∧
      (final past s).noticeAt n.id = none ∧ Stands rest (t.after (final past s)) n := by
  induction turns generalizing s with
  | nil =>
      refine .inl fun past future heq => ?_
      obtain ⟨rfl, rfl⟩ := List.nil_eq_append_iff.mp heq
      exact ⟨n, h, n.becomes_refl⟩
  | cons t turns ih =>
      rcases ih (t.after s) h with hstands | ⟨past, t', rest, rfl, habsent, hstands⟩
      · cases hs : s.noticeAt n.id with
        | none => exact .inr ⟨[], t, turns, rfl, hs, hstands⟩
        | some k =>
            refine .inl fun past future heq => ?_
            cases past with
            | nil =>
                obtain ⟨m, hm, hbecomes⟩ := hstands [] turns rfl
                have hlasts := (turn_lasts t s).2 ⟨s, true⟩ List.mem_cons_self
                exact ⟨k, hs, Notice.becomes_trans (hlasts _ k m hs hm) hbecomes⟩
            | cons t' past =>
                cases heq
                exact hstands past future rfl
      · exact .inr ⟨t :: past, t', rest, rfl, habsent, hstands⟩

/-- What the link of a notice is, by what was supplied for it and by the boards that had been
created when the notice was. -/
structure LinkedBy (created : List String) (supplied : String) (n : Notice) : Prop where
  own : supplied ≠ "" → n.link = supplied
  nowhere : supplied = "" → n.board = "" ∨ n.board ∉ created → n.link = ""
  page : supplied = "" → n.board ≠ "" → n.board ∈ created →
    n.link = "/boards/" ++ n.board ++ (if n.card = "" then "" else "/" ++ n.card)

theorem linkedBy_of_linkOf {s : Store} {created : List String} {supplied : String} {n : Notice}
    (h : n.link = s.linkOf supplied n.board n.card)
    (hcreated : (s.boardAt n.board).isSome ↔ n.board ∈ created) :
    LinkedBy created supplied n := by
  rw [Store.linkOf, ← Store.boardAt] at h
  refine ⟨fun hown => ?_, fun hnone hnowhere => ?_, fun hnone hboard hmem => ?_⟩
  · rw [h, if_pos hown]
  · have hno : ¬ (n.board ≠ "" ∧ (s.boardAt n.board).isSome) := by
      rintro ⟨hboard, hthere⟩
      rcases hnowhere with hempty | habsent
      · exact hboard hempty
      · exact habsent (hcreated.mp hthere)
    rw [h, if_neg (not_not_intro hnone), if_neg hno]
  · rw [h, if_neg (not_not_intro hnone), if_pos ⟨hboard, hcreated.mpr hmem⟩,
      boardLink]
    split
    · rw [String.append_empty]
    · rw [String.append_assoc, String.append_assoc]

/-- Every notice at the end of a run, in which what is stored can be read back, has come in with one of
its turns, and since then it has been there. Its link is the one that was supplied then, or else the page of its board if that had been
created before, and that board is still there. -/
theorem links_derived {turns : List Turn} (hreads : ∀ t ∈ turns, t.ReadsBack) {n : Notice}
    (h : (final turns .empty).noticeAt n.id = some n) :
    ∃ past t rest, turns = past ++ t :: rest ∧ (final past .empty).noticeAt n.id = none ∧
      Stands rest (t.after (final past .empty)) n ∧
      LinkedBy (boardsCreated past .empty) t.operation.link n ∧
      (t.operation.link = "" → n.link ≠ "" →
        ((final turns .empty).boardAt n.board).isSome) := by
  rcases creation_of_row turns .empty h with hstands | ⟨past, t, rest, rfl, habsent, hstands⟩
  · obtain ⟨m, hm, -⟩ := hstands [] turns rfl
    cases hm
  obtain ⟨m, hm, hbecomes, -⟩ := hstands [] rest rfl
  have hlink : n.link = (final past .empty).linkOf t.operation.link n.board n.card := by
    have hm := link_of_new hm habsent
    rw [hbecomes]
    exact hm
  have hcreated : ((final past .empty).boardAt n.board).isSome ↔
      n.board ∈ boardsCreated past .empty := by
    rw [boardAt_final fun t ht => hreads t (List.mem_append_left _ ht)]
    exact or_iff_right Bool.false_ne_true
  have hlaw := linkedBy_of_linkOf hlink hcreated
  refine ⟨past, t, rest, rfl, habsent, hstands, hlaw, fun hsupplied hderived => ?_⟩
  -- A link that is not supplied is that of a board created before, and no board is ever removed.
  have hboard : n.board ∈ boardsCreated past .empty := by
    by_contra hnone
    exact hderived (hlaw.nowhere hsupplied (.inr hnone))
  rw [boardAt_final hreads, boardsCreated_append]
  exact .inr (List.mem_append_left _ hboard)

/-- A row on a board, and a run that leaves it: one notice comes in before the board is created, one
after it, and one with a link of its own, and then the second is read. -/
def cardRow : Notice := ⟨"n2", "ann", "hi", "bob", 7, true, "/boards/b/c", "b", "c"⟩

def boardTurns : List Turn :=
  let draft := { cardRow with read := false, link := "" }.draft
  [plainTurn (.create { draft with id := "n1" }), plainTurn (.insertBoard "b" "Plans"),
    plainTurn (.create draft), plainTurn (.create { draft with id := "n3", link := "/else" }),
    plainTurn (.insertBoard "c" none), plainTurn (.markRead "n2")]

theorem card_linked_after_board :
    ((final boardTurns .empty).noticeAt "n1").map Notice.link = some "" ∧
    ((final boardTurns .empty).noticeAt "n3").map Notice.link = some "/else" ∧
    (∀ t ∈ boardTurns, t.ReadsBack) ∧
    (final boardTurns .empty).noticeAt cardRow.id = some cardRow ∧
    ∃ past t rest, boardTurns = past ++ t :: rest ∧
      (final past .empty).noticeAt cardRow.id = none ∧
      Stands rest (t.after (final past .empty)) cardRow ∧
      LinkedBy (boardsCreated past .empty) t.operation.link cardRow ∧
      (t.operation.link = "" → cardRow.link ≠ "" →
        ((final boardTurns .empty).boardAt cardRow.board).isSome) := by
  have hreads : ∀ t ∈ boardTurns, t.ReadsBack := by
    intro t ht s
    simp only [boardTurns, List.mem_cons, List.not_mem_nil, or_false] at ht
    rcases ht with rfl | rfl | rfl | rfl | rfl | rfl <;> exact ⟨rfl, rfl⟩
  have hrow : (final boardTurns .empty).noticeAt cardRow.id = some cardRow := by cbv
  exact ⟨by cbv, by cbv, hreads, hrow, links_derived hreads hrow⟩

end Service
end Noticeboard
