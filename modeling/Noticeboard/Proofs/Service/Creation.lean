import Noticeboard.Proofs.Service.Along
import Noticeboard.Proofs.Service.Run

/-!
Notices that are created. On a store that is intact, a draft that says what it must is completed
with a drawn identifier and the link of its board, and its row goes in under that identifier.
-/

namespace Noticeboard

/-! ## Stores that are intact -/

namespace Store

/-- Whether a store has its tables, and nothing is wrong with them. -/
structure Intact (s : Store) : Prop where
  notices : s.notices.isSome
  boards : s.boards.isSome
  flaws : s.flaws = []

theorem Intact.broken {s : Store} (h : s.Intact) (access : Access) : s.broken access = false := by
  rw [Store.broken, h.flaws]
  rfl

theorem Intact.readsBack {s : Store} (h : s.Intact) : s.ReadsBack := ⟨h.broken _, h.broken _⟩

theorem Intact.noticesFor {s : Store} (h : s.Intact) (access : Access) :
    s.noticesFor access = s.notices := by
  rw [Store.noticesFor, h.broken]
  rfl

theorem Intact.boardsFor {s : Store} (h : s.Intact) (access : Access) :
    s.boardsFor access = s.boards := by
  rw [Store.boardsFor, h.broken]
  rfl

theorem Intact.withNotices {s : Store} (h : s.Intact) (t : NoticeTable) : (s.withNotices t).Intact :=
  ⟨rfl, h.boards, h.flaws⟩

theorem intact_empty : (empty : Store).Intact := ⟨rfl, rfl, rfl⟩

theorem Intact.insertBoard {s s' : Store} (h : s.Intact) {id title : Option String} {b : Board}
    (hs' : s.insertBoard id title = .ok (b, s')) : s'.Intact := by
  simp only [Store.insertBoard] at hs'
  split at hs'
  · split at hs'
    · cases hs'
      exact ⟨h.notices, rfl, h.flaws⟩
    · cases hs'
  · cases hs'

theorem Intact.free_of_noticeAt {s : Store} (h : s.Intact) {id : String}
    (hfree : s.noticeAt id = none) : ∃ t, s.notices = some t ∧ t.has id = false := by
  obtain ⟨t, ht⟩ := Option.isSome_iff_exists.mp h.notices
  refine ⟨t, ht, ?_⟩
  rw [Table.has_eq_isSome, Option.isSome_eq_false_iff]
  simpa [noticeAt, ht] using hfree

theorem Intact.find {s : Store} (h : s.Intact) (id : String) :
    s.find (some id) = .ok (s.noticeAt id) := by
  obtain ⟨t, ht⟩ := Option.isSome_iff_exists.mp h.notices
  rw [Store.find, h.noticesFor, noticeAt, ht]
  rfl

/-- A notice goes into an intact store as it is, under an identifier that is free. -/
theorem Intact.insert_draft {s : Store} (h : s.Intact) {t : NoticeTable} (ht : s.notices = some t)
    {n : Notice} (hfits : Int64.fits n.createdAt) (free : t.has n.id = false) :
    s.insert n.draft = .ok (n, s.withNotices (t.insert n free)) := by
  have hrow : row? n.draft = some n := by simp [row?, Notice.draft, hfits]
  exact insert_eq_ok_iff.mpr ⟨t, (h.noticesFor _).trans ht, hrow, free, rfl⟩

/-- The link of a notice that brings along the given ones: its own, or that of its board if the
board exists. -/
def linkOf (s : Store) (link board card : String) : String :=
  if link ≠ "" then link
  else if board ≠ "" ∧ (s.boards.bind (·.find? board)).isSome then boardLink board card
  else ""

end Store

theorem Desk.intact_perform {d : Desk} (h : d.store.Intact) (c : Call) :
    (d.perform c).2.store.Intact := by
  have heffect := d.effect_perform c
  generalize hstore : (d.perform c).2.store = s' at heffect ⊢
  cases heffect with
  | none => exact h
  | inserted hs' =>
      obtain ⟨t, _, _, free, rfl⟩ := Store.insert_eq_ok_iff.mp hs'
      exact h.withNotices _
  | flagged hs' =>
      obtain ⟨t, _, rfl⟩ := Store.setRead_ok hs'
      exact h.withNotices _
  | deleted hs' | deletedFor hs' =>
      obtain ⟨t, _, rfl⟩ := Store.removeWhere_ok hs'
      exact h.withNotices _
  | boarded id title boards =>
      rw [← hstore, perform, store_saving, store_saveBoard]
      cases hb : d.store.insertBoard id title with
      | error _ => exact h
      | ok r => exact h.insertBoard hb

/-- Whatever is done to a store that is intact, it stays intact. -/
theorem Plan.intact_run {α : Type} (p : Plan α) {d : Desk} (h : d.store.Intact) :
    (p.run d).2.store.Intact := by
  induction p generalizing d with
  | done _ => exact h
  | call c next ih => exact ih _ (d.intact_perform h c)

/-- The stores that come of an empty one by carrying out plans. -/
inductive Reachable : Store → Prop
  | empty : Reachable .empty
  | run {α : Type} (p : Plan α) {d : Desk} (h : Reachable d.store) : Reachable (p.run d).2.store

theorem Reachable.intact {s : Store} (h : Reachable s) : s.Intact := by
  induction h with
  | empty => exact Store.intact_empty
  | run p _ ih => exact p.intact_run ih

theorem Plan.run_ask (c : Call) (d : Desk) : (Plan.ask c).run d = d.perform c := rfl

namespace Action

theorem run_ofExcept_ok {α ε : Type} {f : ε → Failure} {p : Plan (Except ε α)} {x : α}
    {d d' : Desk} (h : p.run d = (.ok x, d')) : (ExceptT.run (ofExcept f p)).run d = (.ok x, d') := by
  change (p >>= _).run d = _
  rw [Plan.run_bind, h]
  rfl

theorem run_ofExcept_error {α ε : Type} {f : ε → Failure} {p : Plan (Except ε α)} {e : ε}
    {d d' : Desk} (h : p.run d = (.error e, d')) :
    (ExceptT.run (ofExcept f p)).run d = (.error (f e), d') := by
  change (p >>= _).run d = _
  rw [Plan.run_bind, h]
  rfl

end Action

namespace Service

variable {d : Desk}

theorem run_required {need : Need} {s : String} (hs : s ≠ "") (d : Desk) :
    (ExceptT.run (required need (some s))).run d = (.ok s, d) := by
  rw [required_filled hs]
  rfl

theorem run_momentOf {draft : Draft} {n : Int} (h : draft.createdAt = some n)
    (hfits : Int64.fits n) (d : Desk) : (ExceptT.run (momentOf draft)).run d = (.ok n, d) := by
  simp only [momentOf, h, hfits, ↓reduceIte]
  rfl

theorem run_identify (d : Desk) :
    (ExceptT.run (identify (some ""))).run d =
      (.ok (Id.ofDraw Id.noticeTag (d.supply d.drawn)), { d with drawn := d.drawn + 1 }) :=
  rfl

theorem run_findBoard (h : d.store.Intact) (board : String) :
    (ExceptT.run (Action.findBoard (some board))).run d =
      (.ok (d.store.boards.bind (·.find? board)), d) := by
  obtain ⟨t, ht⟩ := Option.isSome_iff_exists.mp h.boards
  have hfind : d.store.findBoard (some board) = .ok (t.find? board) := by
    rw [Store.findBoard, h.boardsFor, ht]
    rfl
  rw [ht]
  apply Action.run_ofExcept_ok
  rw [Plan.run_ask, Desk.perform, hfind]
  rfl

theorem run_linkFor (h : d.store.Intact) (link board card : String) :
    (ExceptT.run (linkFor (some link) (some board) (some card))).run d =
      (.ok (d.store.linkOf link board card), d) := by
  by_cases hlink : link = ""
  · by_cases hboard : board = ""
    · simp only [linkFor, resolveLink, filled?, Store.linkOf, hlink, hboard, ↓reduceIte, ne_eq,
        not_true_eq_false, false_and]
      rfl
    · simp only [linkFor, resolveLink, filled?, Store.linkOf, hlink, hboard, ↓reduceIte, ne_eq,
        not_true_eq_false, not_false_eq_true, true_and]
      rw [Plan.run_exceptBind, run_findBoard h]
      cases d.store.boards.bind (·.find? board) <;> rfl
  · simp only [linkFor, filled?, Store.linkOf, hlink, ↓reduceIte, ne_eq, not_false_eq_true]
    rfl

/-- The draft of a notice that says what it must, but for its identifier, is completed by what is
drawn and by its link. -/
theorem run_completed (h : d.store.Intact) {n : Notice} (hid : n.id = "")
    (hrecipient : n.recipient ≠ "") (hmessage : n.message ≠ "") (hsender : n.sender ≠ "")
    (hmoment : 0 < n.createdAt) (hfits : Int64.fits n.createdAt) :
    (ExceptT.run (completed n.draft)).run d =
      (.ok ({ n with
          id := Id.ofDraw Id.noticeTag (d.supply d.drawn)
          link := d.store.linkOf n.link n.board n.card } : Notice).draft,
        { d with drawn := d.drawn + 1 }) := by
  have hgiven : n.draft = ⟨some "", some n.recipient, some n.message, some n.sender,
      some n.createdAt, some n.read, some n.link, some n.board, some n.card⟩ := by
    rw [← hid]
    rfl
  -- The draft gives all but the identifier and the link, so each step returns what is given.
  rw [hgiven, completed, Plan.run_exceptBind_ok (run_required hrecipient d),
    Plan.run_exceptBind_ok (run_required hmessage d),
    Plan.run_exceptBind_ok (run_required hsender d),
    Plan.run_exceptBind_ok (run_momentOf rfl hfits d), Plan.run_exceptBind_ok (run_identify d)]
  simp only [hmoment, ↓reduceIte]
  rw [Plan.run_exceptBind_ok (x := n.createdAt) rfl, Plan.run_exceptBind_ok
    (run_linkFor (d := { d with drawn := d.drawn + 1 }) h n.link n.board n.card)]
  rfl

end Service
end Noticeboard
