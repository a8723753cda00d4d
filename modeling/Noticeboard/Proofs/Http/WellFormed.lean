import Noticeboard.Proofs.Http.Entrance
import Noticeboard.Proofs.Http.Posting

/-!
Every row is well formed. However a notice comes in, what it must say is there, its identifier is
filled in if it brings none along, and its creation time is either later than the epoch or else
taken from the clock. No operation that fails leaves a row behind that lacks any of this.
-/

namespace Noticeboard

open Plan

/-- Whether a notice says all that it must. Its link, board and card may be empty, but like the
flag they are always there. -/
structure Notice.WellFormed (n : Notice) : Prop where
  id : n.id ≠ ""
  recipient : n.recipient ≠ ""
  message : n.message ≠ ""
  sender : n.sender ≠ ""
  createdAt : 0 < n.createdAt ∧ n.createdAt ≤ Int64.greatest

/-- Whether a store has its notices, each of them well formed and no two of them under the same
identifier. -/
def Store.WellFormed (s : Store) : Prop :=
  ∃ t, s.notices = some t ∧ (∀ n ∈ t.rows, n.WellFormed) ∧ (t.rows.map Notice.id).Nodup

/-! ## Drafts and calls -/

/-- Whether the row of a draft, if it has one, is well formed. -/
def Draft.Proper (d : Draft) : Prop := ∀ n, Store.row? d = some n → n.WellFormed

def Call.Proper : Call → Prop
  | .insert d => d.Proper
  | _ => True

/-- Whether an answer may be given where the clock shows times that a notice may have. -/
def Call.Timed : (c : Call) → c.Answer → Prop
  | .now, time => 0 < time ∧ time ≤ Int64.greatest
  | _, _ => True

theorem Call.proper_of_reads (c : Call) (h : c.Reads) : c.Proper := by
  cases c with
  | insert _ => exact h.elim
  | _ => trivial

theorem Call.proper_of_silent (c : Call) (h : c.Silent) : c.Proper :=
  c.proper_of_reads (c.reads_of_silent h)

theorem Notice.WellFormed.marked {n : Notice} (h : n.WellFormed) (id : String) (read : Bool) :
    (Store.marked id read n).WellFormed := by
  rw [Store.marked_eq]
  exact ⟨h.id, h.recipient, h.message, h.sender, h.createdAt⟩

/-- The upper bound on the creation time need not be asked for, since no row goes beyond it. -/
theorem Draft.proper_of_filled {id recipient message sender : String} {createdAt : Int}
    (hid : id ≠ "") (hrecipient : recipient ≠ "") (hmessage : message ≠ "") (hsender : sender ≠ "")
    (hcreatedAt : 0 < createdAt) (read : Option Bool) (link board card : Option String) :
    Draft.Proper { id, recipient, message, sender, createdAt, read, link, board, card } := by
  intro n hn
  simp only [Store.row?, Int64.fits, Bool.and_eq_true, decide_eq_true_eq] at hn
  split at hn
  · next hfits =>
      cases hn
      exact ⟨hid, hrecipient, hmessage, hsender, hcreatedAt, hfits.2⟩
  · cases hn

namespace Store

theorem wellFormed_withNotices {s : Store} {t : NoticeTable} (h : ∀ n ∈ t.rows, n.WellFormed) :
    (s.withNotices t).WellFormed :=
  ⟨t, rfl, h, t.keyed⟩

theorem wellFormed_of_effect {s s' : Store} {c : Call} (h : Effect s c s') (hc : c.Proper)
    (hs : s.WellFormed) : s'.WellFormed := by
  obtain ⟨t, ht, hrows, hdistinct⟩ := hs
  cases h with
  | none | boarded => exact ⟨t, ht, hrows, hdistinct⟩
  | @inserted d n _ hinsert =>
      obtain ⟨t', ht', hrow, free, rfl⟩ := insert_eq_ok_iff.mp hinsert
      obtain rfl : t' = t := Option.some.inj ((noticesFor_eq_some_iff.mp ht').2.symm.trans ht)
      exact wellFormed_withNotices (List.forall_mem_cons.mpr ⟨hc n hrow, hrows⟩)
  | @flagged id read _ hflag =>
      obtain ⟨t', ht', rfl⟩ := setRead_ok hflag
      obtain rfl : t' = t := Option.some.inj (ht'.symm.trans ht)
      exact wellFormed_withNotices (List.forall_mem_map.mpr fun n hn => (hrows n hn).marked id read)
  | deleted hdelete | deletedFor hdelete =>
      obtain ⟨t', ht', rfl⟩ := removeWhere_ok hdelete
      obtain rfl : t' = t := Option.some.inj (ht'.symm.trans ht)
      exact wellFormed_withNotices fun n hn => hrows n (List.mem_of_mem_filter hn)

end Store

/-- Whether an action, which may rely on the clock, makes only proper calls and gives what `Q` holds
of, if it succeeds. -/
def Properly {α ε : Type} (Q : α → Prop) (a : ExceptT ε Plan α) : Prop :=
  (ExceptT.run a).Ensures Call.Timed Call.Proper (Gives Q)

theorem properly_bind {α β ε : Type} {Q : α → Prop} {R : β → Prop} {a : ExceptT ε Plan α}
    {f : α → ExceptT ε Plan β} (ha : Properly Q a) (hf : ∀ x, Q x → Properly R (f x)) :
    Properly R (a >>= f) :=
  ensures_exceptBind ha hf

theorem properly_of_makes {α ε : Type} {a : ExceptT ε Plan α}
    (h : (ExceptT.run a).Makes Call.Proper) : Properly (fun _ => True) a :=
  ensures_of_makes h fun result => by cases result <;> trivial

theorem properly_pure {α ε : Type} {Q : α → Prop} {x : α} (h : Q x) :
    Properly Q (pure x : ExceptT ε Plan α) := h

theorem properly_throw {α ε : Type} (Q : α → Prop) (e : ε) :
    Properly Q (throw e : ExceptT ε Plan α) := trivial

/-! ## Creating notices -/

namespace Service

theorem properly_required (need : Need) (value : Option String) :
    Properly (· ≠ "") (required need value) := by
  rcases required_cases need value with ⟨s, _, hs, h⟩ | h
  · rw [h]
    exact properly_pure hs
  · rw [h]
    exact properly_throw _ _

theorem properly_newId : Properly (· ≠ "") newId :=
  properly_bind (ensures_lift (ensures_ask trivial)) fun draw _ =>
    properly_pure (Http.addressable_ofDraw draw).filled

theorem properly_identify (id : Option String) : Properly (· ≠ "") (identify id) := by
  cases id with
  | none => exact properly_newId
  | some s =>
      by_cases hs : s = ""
      · simp only [identify, filled?, hs, ↓reduceIte]
        exact properly_newId
      · simp only [identify, filled?, hs, ↓reduceIte]
        exact properly_pure hs

theorem properly_now : Properly (0 < ·) Action.now :=
  ensures_lift (ensures_bind (ensures_ask trivial) fun _ h => h.1)

theorem properly_completed (draft : Draft) : Properly Draft.Proper (completed draft) := by
  refine properly_bind (properly_required _ _) fun recipient hrecipient => ?_
  refine properly_bind (properly_required _ _) fun message hmessage => ?_
  refine properly_bind (properly_required _ _) fun sender hsender => ?_
  refine properly_bind (properly_of_makes (makes_momentOf draft)) fun moment _ => ?_
  refine properly_bind (properly_identify _) fun id hid => ?_
  -- A time that is given is kept only if it is later than the epoch.
  have htimed (createdAt : Int) (h : 0 < createdAt) :
      Properly Draft.Proper (linkFor draft.link draft.board draft.card >>= fun link =>
        (pure { draft with id, recipient, message, sender, createdAt, link } : Action Draft)) :=
    properly_bind (properly_of_makes (makes_linkFor Call.proper_of_silent _ _ _)) fun link _ =>
      properly_pure (Draft.proper_of_filled hid hrecipient hmessage hsender h _ _ _ _)
  dsimp only
  split
  · next hmoment => exact htimed moment hmoment
  · exact properly_bind properly_now htimed

theorem properly_insert {draft : Draft} (h : draft.Proper) :
    Properly (fun _ => True) (Action.insert draft) :=
  properly_of_makes (makes_ofExcept (makes_ask h))

theorem properly_createNew (recipient message sender board card : Option String) :
    Properly (fun _ => True) (createNew recipient message sender board card) := by
  refine properly_bind (properly_required _ _) fun recipient hrecipient => ?_
  refine properly_bind (properly_required _ _) fun message hmessage => ?_
  refine properly_bind (properly_required _ _) fun sender hsender => ?_
  refine properly_bind properly_newId fun id hid => ?_
  refine properly_bind properly_now fun createdAt hcreatedAt => ?_
  refine properly_bind (properly_of_makes (makes_resolveLink Call.proper_of_silent _ _))
    fun link _ => ?_
  exact properly_insert
    (Draft.proper_of_filled hid hrecipient hmessage hsender hcreatedAt _ _ _ _)

/-! ## Runs -/

/-- No operation inserts a row that is not well formed, if the clock shows times that a notice may
have. -/
theorem ensures_operation (o : Operation) :
    o.plan.Ensures Call.Timed Call.Proper fun _ => True :=
  Operation.ensures Call.proper_of_reads (fun _ => trivial) (fun _ => trivial) (fun _ => trivial)
    (fun _ _ _ => trivial) (fun draft _ => properly_completed draft) fun _ => properly_createNew

theorem wellFormed_turn {t : Turn} (hclock : 0 < t.clock ∧ t.clock ≤ Int64.greatest) {s : Store}
    (hs : s.WellFormed) :
    (∀ x ∈ t.moments s, x.store.WellFormed) ∧ (t.after s).WellFormed := by
  have hanswer (d : Desk) (c : Call) (hd : d.clock = t.clock) :
      c.Timed (d.perform c).1 ∧ (d.perform c).2.clock = t.clock := by
    refine ⟨?_, (d.clock_perform c).trans hd⟩
    rw [← hd] at hclock
    cases c with
    | now => exact hclock
    | _ => trivial
  obtain ⟨hstores, hlast⟩ := kept_of_ensures (fun d c _ => hanswer d c)
    (fun d c => Store.wellFormed_of_effect (d.effect_perform c)) (ensures_operation t.operation)
    (d := t.desk s) rfl hs
  exact ⟨List.forall_mem_map.mpr hstores, hlast⟩

/-- At every moment of a run from an empty store, under a clock that shows times which a notice may
have, every row is well formed. -/
theorem rows_well_formed (turns : List Turn)
    (hclock : ∀ t ∈ turns, 0 < t.clock ∧ t.clock ≤ Int64.greatest) :
    ∀ x ∈ moments turns .empty, x.store.WellFormed := by
  have hempty : (Store.empty).WellFormed :=
    ⟨.empty, rfl, fun _ hn => absurd hn List.not_mem_nil, List.nodup_nil⟩
  generalize Store.empty = s at hempty
  induction turns generalizing s with
  | nil => exact List.forall_mem_singleton.mpr hempty
  | cons t rest ih =>
      obtain ⟨ht, hrest⟩ := List.forall_mem_cons.mp hclock
      obtain ⟨hmoments, hafter⟩ := wellFormed_turn ht hempty
      exact List.forall_mem_cons.mpr ⟨hempty,
        List.forall_mem_append.mpr ⟨hmoments, ih hrest _ hafter⟩⟩

/-- A board, and notices that come in on every way: one on a board, one whose time does not fit, one
without a sender, one that leaves the board out, two that are told to others, and one that is
posted. -/
def entranceTurns : List Turn :=
  let draft : Draft :=
    { id := none, recipient := "ann", message := "hi", sender := "bob", createdAt := some (-3)
      read := none, link := none, board := "b", card := none }
  let operations : List Operation :=
    [.insertBoard "b" "Plans", .create draft,
      .create { draft with createdAt := some 9223372036854775808 },
      .createNew "ann" "hi" "" "b" "c", .createNew "ann" "hi" "cat" none none,
      .notifyAdded (some ⟨"bob", "Bob"⟩) "ann" "b",
      .notifyCard .commented (some ⟨"cat", "Cat"⟩) "ann" "b" "c" "Tasks",
      .respond Http.plainApp Http.boardVisit.request]
  operations.zipIdx.map fun (operation, k) =>
    { operation
      clock := .ofNat (5 + k)
      supply := fun _ => .ofNat 128 k
      settings := .error .originsNotJson
      flaws := [] }

theorem entering_rows_well_formed :
    (∀ t ∈ entranceTurns, 0 < t.clock ∧ t.clock ≤ Int64.greatest) ∧
    ((moments entranceTurns .empty).getLast?.bind (·.store.notices)).map
        (·.rows.map fun n => (n.sender, n.createdAt, n.link, n.card)) =
      some [("cat", 12, "/boards/b", ""), ("Cat", 11, "/boards/b/c", "c"),
        ("Bob", 10, "/boards/b", ""), ("cat", 9, "", ""), ("bob", 6, "/boards/b", "")] ∧
    ∀ x ∈ moments entranceTurns .empty, x.store.WellFormed := by
  have hclock : ∀ t ∈ entranceTurns, 0 < t.clock ∧ t.clock ≤ Int64.greatest := by decide
  exact ⟨hclock, by decide +kernel, rows_well_formed entranceTurns hclock⟩

end Service
end Noticeboard
