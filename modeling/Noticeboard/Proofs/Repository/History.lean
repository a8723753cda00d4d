import Noticeboard.Proofs.Repository.Operation

/-!
The store of notices told by its past. What is found under an identifier depends on what was
asked of the store before, and on nothing else: on the last save under it, on the flags that
were set since, and on whether it was deleted since.
-/

namespace Noticeboard
namespace Repository

/-! ## The past -/

/-- The last save under an identifier that succeeded, and the events since. -/
structure LastSave (past : List Event) (id : String) (draft : Draft) (n : Notice)
    (since : List Event) : Prop where
  split : ∃ before, past = before ++ saved draft n :: since
  id_eq : n.id = id
  last : ∀ e ∈ since, ¬ e.Saves id

def lastFlag (id : String) (past : List Event) : Option Bool :=
  (past.filterMap (·.operation.flag? id)).getLast?

/-- The draft under its identifier, with what may be absent filled in: an absent flag is down,
and an absent link, board or card is empty. -/
def given (draft : Draft) (id : String) : Draft :=
  { draft with
    id := some id
    read := some (draft.read.getD false)
    link := some (draft.link.getD "")
    board := some (draft.board.getD "")
    card := some (draft.card.getD "") }

/-- Whether a draft brings everything along that a row must have. -/
def Complete (draft : Draft) : Prop :=
  draft.recipient.isSome ∧ draft.message.isSome ∧ draft.sender.isSome ∧
    ∃ moment, draft.createdAt = some moment ∧ Int64.least ≤ moment ∧ moment ≤ Int64.greatest

/-- A desk whose store holds exactly what the past says. -/
structure Keyed (past : List Event) (d : Desk) : Prop where
  /-- Of every identifier the past says one of two things. -/
  known (id : String) :
    (∀ e ∈ past, ¬ e.Saves id) ∨ ∃ draft n since, LastSave past id draft n since
  /-- Nothing is found where nothing was saved. -/
  never (id : String) (h : ∀ e ∈ past, ¬ e.Saves id) :
    (Operation.find (some id)).answer d = .ok none
  /-- Nothing is found where the notice was deleted since it was last saved. -/
  gone {id : String} {draft : Draft} {n : Notice} {since : List Event}
    (h : LastSave past id draft n since) (hgone : ∃ e ∈ since, e.operation.removes n) :
    (Operation.find (some id)).answer d = .ok none
  /-- Otherwise the notice is found with the flag that was last set. -/
  stands {id : String} {draft : Draft} {n : Notice} {since : List Event}
    (h : LastSave past id draft n since) (hstands : ∀ e ∈ since, ¬ e.operation.removes n) :
    (Operation.find (some id)).answer d =
      .ok (some { n with read := (lastFlag id since).getD n.read })
  /-- A saved notice is the draft under its own identifier, or under a new one. -/
  exact {id : String} {draft : Draft} {n : Notice} {since : List Event}
    (h : LastSave past id draft n since) :
    n.draft = given draft id ∧ ∀ own, filled? draft.id = some own → id = own
  /-- A complete draft is saved exactly where its identifier is free. -/
  accepted (draft : Draft) (id : String) (hid : draft.id = some id) (hfilled : id ≠ "")
    (hcomplete : Complete draft) :
    (∃ n, (Operation.save draft).answer d = .ok n) ↔
      (Operation.find (some id)).answer d = .ok none
  /-- A save that fails changes nothing. -/
  refused (draft : Draft) (failure : Failure)
    (h : (Operation.save draft).answer d = .error failure) :
    ((Operation.save draft).next d).store = d.store
  /-- What a save gives back is what is found right after it. -/
  returned (draft : Draft) (n : Notice) (h : (Operation.save draft).answer d = .ok n) :
    (Operation.find (some n.id)).answer ((Operation.save draft).next d) = .ok (some n)

theorem known_of_past (past : List Event) (id : String) :
    (∀ e ∈ past, ¬ e.Saves id) ∨ ∃ draft n since, LastSave past id draft n since := by
  induction past with
  | nil => exact .inl fun _ he => nomatch he
  | cons e rest ih =>
      rcases ih with hnever | ⟨draft, n, since, ⟨before, hsplit⟩, hid, hlast⟩
      · by_cases hsaves : e.Saves id
        · obtain ⟨draft, n, rfl, hid⟩ := hsaves
          exact .inr ⟨draft, n, rest, ⟨[], rfl⟩, hid, hnever⟩
        · refine .inl fun e' he' => ?_
          rcases List.mem_cons.mp he' with rfl | he'
          · exact hsaves
          · exact hnever e' he'
      · exact .inr ⟨draft, n, since, ⟨e :: before, by rw [hsplit]; rfl⟩, hid, hlast⟩

theorem draft_of_insert {s s' : Store} {draft : Draft} {id : String} {n : Notice}
    (h : s.insert { draft with id := some id } = .ok (n, s')) :
    n.id = id ∧ n.draft = given draft id := by
  obtain ⟨_, _, hrow, _, _⟩ := Store.insert_eq_ok_iff.mp h
  have hdraft := Store.draft_of_row hrow
  exact ⟨Option.some.inj (congrArg Draft.id hdraft), hdraft⟩

theorem insert_iff_free {s : Store} (h : s.Sound) {draft : Draft} (hcomplete : Complete draft)
    (id : String) :
    (∃ r, s.insert { draft with id := some id } = .ok r) ↔ s.noticeAt id = none := by
  obtain ⟨⟨t, ht⟩, hflaws⟩ := h.imp_left Option.isSome_iff_exists.mp
  obtain ⟨hrecipient, hmessage, hsender, moment, hmoment, hleast, hgreatest⟩ := hcomplete
  obtain ⟨recipient, hrecipient⟩ := Option.isSome_iff_exists.mp hrecipient
  obtain ⟨message, hmessage⟩ := Option.isSome_iff_exists.mp hmessage
  obtain ⟨sender, hsender⟩ := Option.isSome_iff_exists.mp hsender
  have fits : Int64.fits moment = true := by simp [Int64.fits, hleast, hgreatest]
  cases taken : t.has id <;>
    simp [Store.insert, Store.noticesFor, Store.broken, Store.row?, Store.noticeAt, ht, hflaws,
      hrecipient, hmessage, hsender, hmoment, fits, taken, ← Option.not_isSome_iff_eq_none,
      ← Table.has_eq_isSome]

/-! ## Many operations -/

/-- An event of the past is the answer to one operation, given between the others. -/
theorem events_split {ops : List Operation} {d : Desk} {before since : List Event} {e : Event}
    (h : events ops d = before ++ e :: since) :
    ∃ earlier o later, ops = earlier ++ o :: later ∧
      e = ⟨o, o.answer (after earlier d)⟩ ∧
      since = events later (o.next (after earlier d)) := by
  induction ops generalizing d before with
  | nil => cases before <;> cases h
  | cons o rest ih =>
      cases before with
      | nil =>
          obtain ⟨he, hsince⟩ := List.cons.inj h
          exact ⟨[], o, rest, rfl, he.symm, hsince.symm⟩
      | cons first before =>
          obtain ⟨earlier, o', later, hrest, he, hsince⟩ := ih (List.cons.inj h).2
          exact ⟨o :: earlier, o', later, by rw [hrest]; rfl, he, hsince⟩

theorem noticeAt_after_of_none {d : Desk} (hsound : d.store.Sound) {id : String}
    (hnone : d.store.noticeAt id = none) {ops : List Operation}
    (hunsaved : ∀ e ∈ events ops d, ¬ e.Saves id) : (after ops d).store.noticeAt id = none := by
  induction ops generalizing d with
  | nil => exact hnone
  | cons o rest ih =>
      obtain ⟨hnext, hrow⟩ := next_of_sound hsound o
      apply ih hnext
      · rw [hrow id (hunsaved _ List.mem_cons_self), hnone]
        rfl
      · exact fun e he => hunsaved e (List.mem_cons_of_mem _ he)

theorem removes_flagged (o o' : Operation) (n : Notice) :
    o'.removes (o.flagged n) = o'.removes n := by
  cases o' <;> rfl

theorem lastFlag_cons (id : String) (e : Event) (past : List Event) :
    lastFlag id (e :: past) = (lastFlag id past).or (e.operation.flag? id) := by
  rw [lastFlag, lastFlag, List.filterMap_cons]
  cases e.operation.flag? id with
  | none => simp
  | some read => simp [List.getLast?_cons, Option.or_some]

theorem noticeAt_after_of_removed {d : Desk} (hsound : d.store.Sound) {n : Notice}
    (hrow : d.store.noticeAt n.id = some n) {ops : List Operation}
    (hunsaved : ∀ e ∈ events ops d, ¬ e.Saves n.id)
    (hremoved : ∃ e ∈ events ops d, e.operation.removes n) :
    (after ops d).store.noticeAt n.id = none := by
  induction ops generalizing d n with
  | nil => simp [events] at hremoved
  | cons o rest ih =>
      obtain ⟨hnext, hstep⟩ := next_of_sound hsound o
      have hstep := hstep n.id (hunsaved _ List.mem_cons_self)
      have hrest : ∀ e ∈ events rest (o.next d), ¬ e.Saves n.id :=
        fun e he => hunsaved e (List.mem_cons_of_mem _ he)
      rw [hrow] at hstep
      cases hgone : o.removes n with
      | true =>
          apply noticeAt_after_of_none hnext _ hrest
          simpa [Option.filter, hgone] using hstep
      | false =>
          have hkept : (o.next d).store.noticeAt n.id = some (o.flagged n) := by
            simpa [Option.filter, hgone] using hstep
          apply ih (n := o.flagged n) hnext hkept hrest
          obtain ⟨e, he, hremoves⟩ := hremoved
          rcases List.mem_cons.mp he with rfl | he
          · exact absurd hremoves (by simp [hgone])
          · exact ⟨e, he, (removes_flagged o _ n).trans hremoves⟩

theorem noticeAt_after_of_kept {d : Desk} (hsound : d.store.Sound) {n : Notice}
    (hrow : d.store.noticeAt n.id = some n) {ops : List Operation}
    (hunsaved : ∀ e ∈ events ops d, ¬ e.Saves n.id)
    (hkept : ∀ e ∈ events ops d, ¬ e.operation.removes n) :
    (after ops d).store.noticeAt n.id =
      some { n with read := (lastFlag n.id (events ops d)).getD n.read } := by
  induction ops generalizing d n with
  | nil => exact hrow
  | cons o rest ih =>
      obtain ⟨hnext, hstep⟩ := next_of_sound hsound o
      have hstep := hstep n.id (hunsaved _ List.mem_cons_self)
      have hstays : o.removes n = false := by simpa using hkept _ List.mem_cons_self
      have hflagged : (o.next d).store.noticeAt n.id = some (o.flagged n) := by
        simpa [hrow, Option.filter, hstays] using hstep
      have hrest := ih (n := o.flagged n) hnext hflagged
        (fun e he => hunsaved e (List.mem_cons_of_mem _ he))
        (fun e he => by
          rw [removes_flagged]
          exact hkept e (List.mem_cons_of_mem _ he))
      have hid : (o.flagged n).id = n.id := rfl
      rw [hid] at hrest
      rw [after, hrest, events, lastFlag_cons, Option.getD_or]
      rfl

/-- Right after a save that succeeds the row is there, with every field of the draft. -/
theorem row_of_saved {d : Desk} {draft : Draft} {n : Notice}
    (h : (Operation.save draft).answer d = .ok n) :
    ((Operation.save draft).next d).store.noticeAt n.id = some n ∧ n.draft = given draft n.id ∧
      ∀ own, filled? draft.id = some own → n.id = own := by
  obtain ⟨id, hown, ⟨m, s', hinsert, hanswer, hs'⟩ | ⟨task, _, hanswer, _⟩⟩ := save_cases draft d
  · rw [hanswer] at h
    split at h <;> cases h
    obtain ⟨hid, hdraft⟩ := draft_of_insert hinsert
    subst hid
    exact ⟨by rw [hs', Store.noticeAt_insert hinsert, if_pos rfl], hdraft, hown⟩
  · cases hanswer.symm.trans h

/-- The last save of the past has left its row, and what came after it is known. -/
theorem row_of_lastSave {d : Desk} {ops : List Operation} {id : String} {draft : Draft}
    {n : Notice} {since : List Event} (h : LastSave (events ops d) id draft n since) :
    ∃ earlier later, (Operation.save draft).answer (after earlier d) = .ok n ∧
      since = events later ((Operation.save draft).next (after earlier d)) ∧
      after ops d = after later ((Operation.save draft).next (after earlier d)) := by
  obtain ⟨before, hsplit⟩ := h.split
  obtain ⟨earlier, o, later, rfl, he, hsince⟩ := events_split hsplit
  rw [saved, Event.mk.injEq] at he
  obtain ⟨rfl, hanswer⟩ := he
  exact ⟨earlier, later, (eq_of_heq hanswer).symm, hsince, after_append _ _ _⟩

/-- Whatever is asked of a store that was empty at first, it holds exactly what its past says:
under each identifier the notice that was last saved there, unless it was deleted since, with
the flag that was last set. -/
theorem store_keyed_by_history (d : Desk) (ops : List Operation) :
    Keyed (events ops { d with store := .empty }) (after ops { d with store := .empty }) := by
  have sound₀ : ({ d with store := .empty } : Desk).store.Sound := ⟨rfl, rfl⟩
  generalize hd : ({ d with store := .empty } : Desk) = d₀ at sound₀ ⊢
  have nothing (id : String) : d₀.store.noticeAt id = none := by
    rw [← hd]
    rfl
  have sound := sound_after sound₀ ops
  refine
    { known := known_of_past _, never := fun id h => ?_
      gone := @fun _ draft _ _ h hgone => ?_, stands := @fun _ draft _ _ h hstands => ?_
      exact := fun h => ?_, accepted := fun draft id hid hfilled hcomplete => ?_
      refused := fun draft failure h => ?_, returned := fun draft n h => ?_ }
  · rw [answer_find sound, noticeAt_after_of_none sound₀ (nothing id) h]
  · obtain ⟨earlier, later, hanswer, rfl, hafter⟩ := row_of_lastSave h
    obtain rfl := h.id_eq
    have sound₁ := (next_of_sound (sound_after sound₀ earlier) (.save draft)).1
    rw [answer_find sound, hafter,
      noticeAt_after_of_removed sound₁ (row_of_saved hanswer).1 h.last hgone]
  · obtain ⟨earlier, later, hanswer, rfl, hafter⟩ := row_of_lastSave h
    obtain rfl := h.id_eq
    have sound₁ := (next_of_sound (sound_after sound₀ earlier) (.save draft)).1
    rw [answer_find sound, hafter,
      noticeAt_after_of_kept sound₁ (row_of_saved hanswer).1 h.last hstands]
  · obtain ⟨earlier, later, hanswer, _, _⟩ := row_of_lastSave h
    obtain rfl := h.id_eq
    exact (row_of_saved hanswer).2
  · rw [answer_find sound, Except.ok.injEq, ← insert_iff_free sound hcomplete]
    obtain ⟨id', hown, hcases⟩ := save_of_sound sound draft
    obtain rfl : id' = id := hown id (by simp [filled?, hid, hfilled])
    rcases hcases with ⟨n, s', hinsert, hanswer, _⟩ | ⟨task, hinsert, hanswer, _⟩
    · exact ⟨fun _ => ⟨_, hinsert⟩, fun _ => ⟨n, hanswer⟩⟩
    · simp [hinsert, hanswer]
  · obtain ⟨id, _, ⟨n, _, _, hanswer, _⟩ | ⟨_, _, _, hstore⟩⟩ := save_of_sound sound draft
    · cases hanswer.symm.trans h
    · exact hstore
  · rw [answer_find (next_of_sound sound _).1, (row_of_saved h).1]

end Repository
end Noticeboard
