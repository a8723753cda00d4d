import Noticeboard.Proofs.Service.Creation
import Noticeboard.Proofs.Service.Validation
import Noticeboard.Service.Event

/-!
Telling somebody of an event on a board. Every way to do so ends in the first of the same cases that
applies: something is not given, the recipient did it themselves, the board is not there, the actor
has no name, or else one notice is stored. What is not given is noticed before the store is asked for
anything, but for the name of somebody who adds others to a board: that board is looked for first.
-/

namespace Noticeboard

namespace Store

/-- A draft that may leave out its card has the row of a notice if that fits. -/
theorem row_draft {n : Notice} {card : Option String} (hcard : card.getD "" = n.card) :
    row? { n.draft with card } = if Int64.fits n.createdAt then some n else none := by
  simp [row?, Notice.draft, hcard]

theorem task_of_findBoard {s : Store} {board : Option String} {task : Task}
    (h : s.findBoard board = .error task) : task = .findBoard := by
  rw [findBoard] at h
  split at h
  · cases h
  · exact (Except.error.inj h).symm

end Store

/-- The identifier that a notice gets next. -/
def Desk.nextId (d : Desk) : String := Id.ofDraw Id.noticeTag (d.supply d.drawn)

theorem Action.run_findBoard (board : Option String) (d : Desk) :
    (findBoard board).run d = ((d.store.findBoard board).mapError .storage,
      (d.reading (.boardUndone · board) (d.store.findBoard board)).2) := by
  rw [findBoard, run_ofStore, Plan.run_ask, Desk.perform, Desk.answer_reading]

theorem Action.run_insert_some (draft : Draft) (d : Desk) :
    ((insert draft >>= fun n => pure (some n)).run d).1 =
        ((d.store.save draft).1.map some).mapError .storage ∧
      ((insert draft >>= fun n => pure (some n)).run d).2.store =
        Desk.kept d.store (d.store.insert draft) := by
  rw [← Desk.store_save, run_bind, insert, run_ofStore, Plan.run_ask, Desk.perform]
  rcases d.store.save draft with ⟨_ | _, _⟩ <;> exact ⟨rfl, rfl⟩

namespace Service

/-! ## What there is to tell -/

/-- What happens on a board that somebody may be told of. -/
inductive Occasion
  | added
  | onCard (event : CardEvent) (card : Option String) (title : String)

namespace Occasion

/-- What has to be given. -/
def needs : Occasion → List Need
  | added => [.recipient, .board, .adder]
  | onCard event _ _ => [.recipient, .board, .card, event.actor]

/-- Whether `c` is the card that is given, or empty where none is asked for. -/
def OnCard (c : String) : Occasion → Prop
  | added => c = ""
  | onCard _ card _ => filled? card = some c

/-- What the recipient reads, where the board was found as `found`. -/
def wording (name : String) (found : Option Board) : Occasion → String
  | added => name ++ " added you to the board \"" ++ found.elim "" Board.title ++ "\""
  | onCard event _ title => name ++ event.phrase ++ "\"" ++ title ++ "\""

theorem wording_ne_empty (o : Occasion) (name : String) (found : Option Board) :
    o.wording name found ≠ "" := by
  cases o <;> simp [wording, String.append_eq_empty_iff]

end Occasion

/-- An event on a board, with whom it was done by and who is to be told. -/
structure Telling where
  occasion : Occasion
  actor : Option Person
  recipient : Option String
  board : Option String

namespace Telling

def action (t : Telling) : Action (Option Notice) :=
  match t.occasion with
  | .added => notifyAdded t.actor t.recipient t.board
  | .onCard event card title => notifyCard event t.actor t.recipient t.board card title

/-- Whether everything is given that is needed: the actor, the recipient, the board and the card. -/
structure Given (t : Telling) (a : Person) (r b c : String) : Prop where
  actor : t.actor = some a
  recipient : filled? t.recipient = some r
  board : filled? t.board = some b
  card : t.occasion.OnCard c

/-- The notice that is stored on a desk, where the board was found as `found`. -/
def notice (t : Telling) (d : Desk) (a : Person) (r b c : String) (found : Option Board) :
    Notice where
  id := d.nextId
  recipient := r
  message := t.occasion.wording a.name found
  sender := a.name
  createdAt := d.clock
  read := false
  link := if found.isSome then boardLink b c else ""
  board := b
  card := c

/-- How telling ends on a desk, with which result and which store: in the first case that applies. A
board is looked for before the actor's name is asked for only if somebody is added to it. A notice
that is stored is read back, and only then given back. -/
inductive Outcome (t : Telling) (d : Desk) : Except Failure (Option Notice) → Store → Prop
  | lacking (h : ∀ a r b c, ¬ t.Given a r b c) :
      Outcome t d (.error (.allNeeded t.occasion.needs)) d.store
  | oneself {a : Person} {r b c : String} (h : t.Given a r b c) (self : a.id = r) :
      Outcome t d (.ok none) d.store
  | boardsFail {a : Person} {r b c : String} (h : t.Given a r b c) (other : a.id ≠ r)
      (asked : t.occasion = .added ∨ a.name ≠ "")
      (fails : d.store.findBoard (some b) = .error .findBoard) :
      Outcome t d (.error (.storage .findBoard)) d.store
  | noBoard {a : Person} {r b c : String} (h : t.Given a r b c) (other : a.id ≠ r)
      (added : t.occasion = .added) (absent : d.store.findBoard (some b) = .ok none) :
      Outcome t d (.error (.noSuchBoard b)) d.store
  | nameless {a : Person} {r b c : String} (h : t.Given a r b c) (other : a.id ≠ r)
      (present : t.occasion = .added → ∃ found, d.store.findBoard (some b) = .ok (some found))
      (unnamed : a.name = "") : Outcome t d (.error (.needed .sender)) d.store
  | refused {a : Person} {r b c : String} {found : Option Board} (h : t.Given a r b c)
      (other : a.id ≠ r) (named : a.name ≠ "") (looked : d.store.findBoard (some b) = .ok found)
      (present : t.occasion = .added → found.isSome)
      (refuses : ∀ rows, d.store.noticesFor .insertNotice = some rows → Int64.fits d.clock →
        rows.has (t.notice d a r b c found).id) :
      Outcome t d (.error (.storage .insertNotice)) d.store
  | told {a : Person} {r b c : String} {found : Option Board} {rows : NoticeTable}
      (h : t.Given a r b c) (other : a.id ≠ r) (named : a.name ≠ "")
      (looked : d.store.findBoard (some b) = .ok found)
      (present : t.occasion = .added → found.isSome)
      (hrows : d.store.noticesFor .insertNotice = some rows) (timely : Int64.fits d.clock)
      (free : rows.has (t.notice d a r b c found).id = false)
      (reads : d.store.broken .rereadNotice = false) :
      Outcome t d (.ok (some (t.notice d a r b c found)))
        (d.store.withNotices (rows.insert (t.notice d a r b c found) free))
  | unread {a : Person} {r b c : String} {found : Option Board} {rows : NoticeTable}
      (h : t.Given a r b c) (other : a.id ≠ r) (named : a.name ≠ "")
      (looked : d.store.findBoard (some b) = .ok found)
      (present : t.occasion = .added → found.isSome)
      (hrows : d.store.noticesFor .insertNotice = some rows) (timely : Int64.fits d.clock)
      (free : rows.has (t.notice d a r b c found).id = false)
      (breaks : d.store.broken .rereadNotice = true) :
      Outcome t d (.error (.storage .insertNotice))
        (d.store.withNotices (rows.insert (t.notice d a r b c found) free))

variable {t : Telling} {d : Desk} {a : Person} {r b c : String} {found : Option Board}

theorem eq_of_filled {value : Option String} {s : String} (h : filled? value = some s) :
    value = some s ∧ s ≠ "" := by
  cases value with
  | none => cases h
  | some x =>
      by_cases hx : x = "" <;> simp only [filled?, hx, ↓reduceIte, reduceCtorEq] at h
      cases h
      exact ⟨rfl, hx⟩

theorem Given.card_empty (h : t.Given a r b c) (added : t.occasion = .added) : c = "" := by
  have hcard := h.card
  rwa [added] at hcard

theorem Given.card_filled (h : t.Given a r b c) {event : CardEvent} {card : Option String}
    {title : String} (onCard : t.occasion = .onCard event card title) : filled? card = some c := by
  have hcard := h.card
  rwa [onCard] at hcard

theorem tells_of_ne (other : a.id ≠ r) : tells a r = true := decide_eq_true other

theorem tells_self (self : a.id = r) : tells a r = false := decide_eq_false (not_not.mpr self)

/-! ## Steps -/

/-- What is done once it is settled that the recipient is told. -/
def telling (t : Telling) (a : Person) (r b : String) (card : Option String) (found : Option Board) :
    Action (Option Notice) := do
  return some (← createNew r (t.occasion.wording a.name found) a.name b card)

theorem action_added (h : t.Given a r b c) (other : a.id ≠ r) (added : t.occasion = .added) :
    t.action = Action.findBoard (some b) >>= fun found =>
      found.elim (throw (.noSuchBoard b)) fun board => t.telling a r b none (some board) := by
  simp only [action, added, notifyAdded, h.recipient, h.board, h.actor, tells_of_ne other,
    ↓reduceIte, telling]
  congr 1
  funext found
  cases found with
  | none => rfl
  | some board => simp only [Option.elim_some, Occasion.wording]

theorem action_onCard (h : t.Given a r b c) (other : a.id ≠ r) (onCard : t.occasion ≠ .added)
    (found : Option Board) : t.action = t.telling a r b (some c) found := by
  cases ho : t.occasion with
  | added => exact absurd ho onCard
  | onCard event card title =>
      simp only [action, ho, notifyCard, h.recipient, h.board, h.actor, h.card_filled ho,
        tells_of_ne other, ↓reduceIte, telling, Occasion.wording]

theorem action_oneself (h : t.Given a r b c) (self : a.id = r) : t.action = pure none := by
  cases ho : t.occasion with
  | added =>
      simp only [action, ho, notifyAdded, h.recipient, h.board, h.actor, tells_self self,
        Bool.false_eq_true, ↓reduceIte]
  | onCard event card title =>
      simp only [action, ho, notifyCard, h.recipient, h.board, h.actor, h.card_filled ho,
        tells_self self, Bool.false_eq_true, ↓reduceIte]

theorem action_lacking (h : ∀ a r b c, ¬ t.Given a r b c) :
    t.action = throw (.allNeeded t.occasion.needs) := by
  cases ho : t.occasion with
  | added =>
      simp only [action, ho, notifyAdded]
      split
      · next r b a hr hb ha => exact absurd ⟨ha, hr, hb, by rw [ho]; rfl⟩ (h a r b "")
      · rfl
  | onCard event card title =>
      simp only [action, ho, notifyCard]
      split
      · next r b c a hr hb hc ha => exact absurd ⟨ha, hr, hb, by rw [ho]; exact hc⟩ (h a r b c)
      · rfl

/-! ## Runs -/

theorem createNew_given {m s : String} (hr : r ≠ "") (hm : m ≠ "") (hs : s ≠ "") (hb : b ≠ "")
    (card : Option String) :
    createNew r m s b card = (do
      let id ← newId
      let createdAt ← Action.now
      let found ← Action.findBoard (some b)
      Action.insert ⟨id, r, m, s, createdAt, some false,
        some (if found.isSome then boardLink b (card.getD "") else ""), b, card⟩) := by
  simp only [createNew, required_filled hr, required_filled hm, required_filled hs, pure_bind,
    resolveLink, filled?, hb, ↓reduceIte, bind_assoc]
  congr 1
  funext id
  congr 1
  funext createdAt
  congr 1
  funext found
  cases found <;> rfl

theorem run_telling_nameless (h : t.Given a r b c) (unnamed : a.name = "") (card : Option String)
    (found : Option Board) (d : Desk) :
    (t.telling a r b card found).run d = (.error (.needed .sender), d) := by
  have hnone : required .sender (some "") = throw (.needed .sender) := rfl
  rw [telling, createNew, required_filled (eq_of_filled h.recipient).2,
    required_filled (t.occasion.wording_ne_empty a.name found), unnamed, hnone]
  rfl

/-- A link is looked for after an identifier is drawn. -/
theorem run_telling (h : t.Given a r b c) (named : a.name ≠ "") (card : Option String)
    (found : Option Board) (d : Desk) :
    (t.telling a r b card found).run d =
      (Action.findBoard (some b) >>= fun looked =>
        Action.insert ⟨d.nextId, r, t.occasion.wording a.name found,
          a.name, d.clock, some false,
          some (if looked.isSome then boardLink b (card.getD "") else ""), b, card⟩ >>= fun n =>
        pure (some n)).run { d with drawn := d.drawn + 1 } := by
  rw [telling, createNew_given (eq_of_filled h.recipient).2
    (t.occasion.wording_ne_empty a.name found) named (eq_of_filled h.board).2]
  simp only [bind_assoc]
  rfl

theorem run_telling_unlooked (h : t.Given a r b c) (named : a.name ≠ "") (card : Option String)
    (found : Option Board) (fails : d.store.findBoard (some b) = .error .findBoard) :
    ((t.telling a r b card found).run d).1 = .error (.storage .findBoard) ∧
      ((t.telling a r b card found).run d).2.store = d.store := by
  rw [run_telling h named, Action.run_bind, Action.run_findBoard, fails]
  exact ⟨rfl, rfl⟩

/-- Once the board has been looked for, all depends on whether the notice can be inserted. -/
theorem run_telling_looked (h : t.Given a r b c) (named : a.name ≠ "") {card : Option String}
    (hcard : card.getD "" = c) (looked : d.store.findBoard (some b) = .ok found) :
    ((t.telling a r b card found).run d).1 =
        ((d.store.save { (t.notice d a r b c found).draft with card }).1.map some).mapError
          .storage ∧
      ((t.telling a r b card found).run d).2.store =
        Desk.kept d.store (d.store.insert { (t.notice d a r b c found).draft with card }) := by
  subst hcard
  have hinsert := Action.run_insert_some { (t.notice d a r b (card.getD "") found).draft with card }
    { d with drawn := d.drawn + 1 }
  rw [run_telling h named, Action.run_bind, Action.run_findBoard, looked]
  exact hinsert

theorem run_telling_refused (h : t.Given a r b c) (named : a.name ≠ "") {card : Option String}
    (hcard : card.getD "" = c) (looked : d.store.findBoard (some b) = .ok found)
    (refuses : ∀ rows, d.store.noticesFor .insertNotice = some rows → Int64.fits d.clock →
      rows.has (t.notice d a r b c found).id) :
    ((t.telling a r b card found).run d).1 = .error (.storage .insertNotice) ∧
      ((t.telling a r b card found).run d).2.store = d.store := by
  have hinsert : d.store.insert { (t.notice d a r b c found).draft with card } =
      .error .insertNotice := by
    refine Store.insert_eq_error fun n s' hok => ?_
    obtain ⟨rows, hrows, hrow, free, _⟩ := Store.insert_eq_ok_iff.mp hok
    rw [Store.row_draft hcard] at hrow
    split at hrow
    · cases hrow
      rw [refuses rows hrows ‹_›] at free
      cases free
    · cases hrow
  have hrun := run_telling_looked h named hcard looked
  rw [hinsert, Store.save_refused hinsert] at hrun
  exact hrun

theorem run_telling_stored (h : t.Given a r b c) (named : a.name ≠ "") {card : Option String}
    (hcard : card.getD "" = c) (looked : d.store.findBoard (some b) = .ok found)
    {rows : NoticeTable} (hrows : d.store.noticesFor .insertNotice = some rows)
    (timely : Int64.fits d.clock) (free : rows.has (t.notice d a r b c found).id = false) :
    ((t.telling a r b card found).run d).1 =
        (if d.store.broken .rereadNotice then .error (.storage .insertNotice)
          else .ok (some (t.notice d a r b c found))) ∧
      ((t.telling a r b card found).run d).2.store =
        d.store.withNotices (rows.insert (t.notice d a r b c found) free) := by
  have hrow : Store.row? { (t.notice d a r b c found).draft with card } =
      some (t.notice d a r b c found) := by
    rw [Store.row_draft hcard]
    exact if_pos timely
  have hinsert := Store.insert_eq_ok_iff.mpr ⟨rows, hrows, hrow, free, rfl⟩
  obtain ⟨hanswer, hstore⟩ := run_telling_looked h named hcard looked
  rw [Store.save_stored hinsert] at hanswer
  rw [hinsert] at hstore
  refine ⟨hanswer.trans ?_, hstore⟩
  split <;> rfl

/-- Where the board has been found, if it must be there, the recipient is told. -/
theorem run_action_looked (h : t.Given a r b c) (other : a.id ≠ r)
    (looked : d.store.findBoard (some b) = .ok found) (present : t.occasion = .added → found.isSome) :
    ∃ card : Option String, card.getD "" = c ∧
      t.action.run d = (t.telling a r b card found).run d := by
  by_cases added : t.occasion = .added
  · obtain ⟨board, rfl⟩ := Option.isSome_iff_exists.mp (present added)
    refine ⟨none, (h.card_empty added).symm, ?_⟩
    rw [action_added h other added, Action.run_bind, Action.run_findBoard, looked]
    rfl
  · exact ⟨some c, rfl, by rw [action_onCard h other added found]⟩

theorem run_of_outcome {result : Except Failure (Option Notice)} {s' : Store}
    (h : t.Outcome d result s') :
    (t.action.run d).1 = result ∧ (t.action.run d).2.store = s' := by
  cases h with
  | lacking h =>
      rw [action_lacking h]
      exact ⟨rfl, rfl⟩
  | oneself h self =>
      rw [action_oneself h self]
      exact ⟨rfl, rfl⟩
  | boardsFail h other asked fails =>
      by_cases added : t.occasion = .added
      · rw [action_added h other added, Action.run_bind, Action.run_findBoard, fails]
        exact ⟨rfl, rfl⟩
      · rw [action_onCard h other added none]
        exact run_telling_unlooked h (asked.resolve_left added) _ _ fails
  | noBoard h other added absent =>
      rw [action_added h other added, Action.run_bind, Action.run_findBoard, absent]
      exact ⟨rfl, rfl⟩
  | nameless h other present unnamed =>
      by_cases added : t.occasion = .added
      · obtain ⟨board, looked⟩ := present added
        obtain ⟨card, _, hrun⟩ := run_action_looked h other looked fun _ => rfl
        rw [hrun, run_telling_nameless h unnamed]
        exact ⟨rfl, rfl⟩
      · rw [action_onCard h other added none, run_telling_nameless h unnamed]
        exact ⟨rfl, rfl⟩
  | refused h other named looked present refuses =>
      obtain ⟨card, hcard, hrun⟩ := run_action_looked h other looked present
      rw [hrun]
      exact run_telling_refused h named hcard looked refuses
  | told h other named looked present hrows timely free reads =>
      obtain ⟨card, hcard, hrun⟩ := run_action_looked h other looked present
      obtain ⟨hanswer, hstore⟩ := run_telling_stored h named hcard looked hrows timely free
      rw [hrun, hanswer, reads]
      exact ⟨rfl, hstore⟩
  | unread h other named looked present hrows timely free breaks =>
      obtain ⟨card, hcard, hrun⟩ := run_action_looked h other looked present
      obtain ⟨hanswer, hstore⟩ := run_telling_stored h named hcard looked hrows timely free
      rw [hrun, hanswer, breaks]
      exact ⟨rfl, hstore⟩

/-- There is always a case that applies. -/
theorem exists_outcome (t : Telling) (d : Desk) : ∃ result s', t.Outcome d result s' := by
  by_cases hgiven : ∃ a r b c, t.Given a r b c
  · obtain ⟨a, r, b, c, h⟩ := hgiven
    by_cases self : a.id = r
    · exact ⟨_, _, .oneself h self⟩
    cases looked : d.store.findBoard (some b) with
    | error task =>
        cases Store.task_of_findBoard looked
        by_cases asked : t.occasion = .added ∨ a.name ≠ ""
        · exact ⟨_, _, .boardsFail h self asked looked⟩
        · obtain ⟨notAdded, unnamed⟩ := not_or.mp asked
          exact ⟨_, _, .nameless h self (fun added => absurd added notAdded) (not_not.mp unnamed)⟩
    | ok found =>
        by_cases absent : t.occasion = .added ∧ found = none
        · obtain ⟨added, rfl⟩ := absent
          exact ⟨_, _, .noBoard h self added looked⟩
        have present : t.occasion = .added → found.isSome := fun added =>
          Option.isSome_iff_ne_none.mpr fun hnone => absent ⟨added, hnone⟩
        by_cases unnamed : a.name = ""
        · refine ⟨_, _, .nameless h self (fun added => ?_) unnamed⟩
          obtain ⟨board, rfl⟩ := Option.isSome_iff_exists.mp (present added)
          exact ⟨board, looked⟩
        by_cases free : ∃ rows, d.store.noticesFor .insertNotice = some rows ∧
            Int64.fits d.clock ∧ rows.has (t.notice d a r b c found).id = false
        · obtain ⟨rows, hrows, timely, free⟩ := free
          cases reads : d.store.broken .rereadNotice with
          | false => exact ⟨_, _, .told h self unnamed looked present hrows timely free reads⟩
          | true => exact ⟨_, _, .unread h self unnamed looked present hrows timely free reads⟩
        · refine ⟨_, _, .refused h self unnamed looked present fun rows hrows timely => ?_⟩
          exact Bool.of_not_eq_false fun hfree => free ⟨rows, hrows, timely, hfree⟩
  · exact ⟨_, _, .lacking fun a r b c h => hgiven ⟨a, r, b, c, h⟩⟩

theorem outcome_of_run (t : Telling) (d : Desk) :
    t.Outcome d (t.action.run d).1 (t.action.run d).2.store := by
  obtain ⟨result, s', h⟩ := t.exists_outcome d
  obtain ⟨hresult, hstore⟩ := run_of_outcome h
  rwa [hresult, hstore]

/-- Who is added to a board is led to it. -/
theorem link_of_added (added : t.occasion = .added) {n : Notice}
    (h : (t.action.run d).1 = .ok (some n)) : n.link = "/boards/" ++ n.board := by
  have houtcome := t.outcome_of_run d
  rw [h] at houtcome
  generalize (t.action.run d).2.store = s' at houtcome
  cases houtcome with
  | told hgiven other named looked present hrows timely free reads =>
      simp [notice, present added, boardLink, hgiven.card_empty added]

theorem not_refused (hrows : (d.store.noticesFor .insertNotice).isSome)
    (hreads : (d.store.noticesFor .rereadNotice).isSome)
    (hclock : 1 ≤ d.clock ∧ d.clock ≤ Int64.greatest) (hfresh : d.store.noticeAt d.nextId = none) :
    (t.action.run d).1 ≠ .error (.storage .insertNotice) := by
  intro h
  obtain ⟨rows, hrows⟩ := Option.isSome_iff_exists.mp hrows
  have timely : Int64.fits d.clock := by
    rw [Int64.fits_iff, Int64.least]
    omega
  have houtcome := t.outcome_of_run d
  rw [h] at houtcome
  generalize (t.action.run d).2.store = s' at houtcome
  cases houtcome with
  | refused hgiven other named looked present refuses =>
      obtain ⟨_, hnotices⟩ := Store.noticesFor_eq_some_iff.mp hrows
      have htaken := refuses rows hrows timely
      rw [Table.has_eq_isSome] at htaken
      rw [Store.noticeAt, hnotices, Option.bind_some] at hfresh
      rw [notice, hfresh] at htaken
      cases htaken
  | unread hgiven other named looked present hrows timely free breaks =>
      obtain ⟨_, htable⟩ := Option.isSome_iff_exists.mp hreads
      cases breaks.symm.trans (Store.noticesFor_eq_some_iff.mp htable).1

/-- Telling ends in the first case that applies, and no row changes but in the last two, in which one
notice is stored, and given back if it can be read back. Who is added to a board is led to it. Where
rows can be inserted and read back, the time fits and the identifier is fresh, the store refuses
nothing. -/
theorem telling_ends_in_first_case (t : Telling) (d : Desk) :
    (∀ result s', t.Outcome d result s' ↔
      (t.action.run d).1 = result ∧ (t.action.run d).2.store = s') ∧
    (t.occasion = .added → ∀ n, (t.action.run d).1 = .ok (some n) →
      n.link = "/boards/" ++ n.board) ∧
    ((d.store.noticesFor .insertNotice).isSome → (d.store.noticesFor .rereadNotice).isSome →
      1 ≤ d.clock ∧ d.clock ≤ Int64.greatest →
      d.store.noticeAt d.nextId = none → (t.action.run d).1 ≠ .error (.storage .insertNotice)) := by
  refine ⟨fun result s' => ⟨run_of_outcome, ?_⟩, fun added _ => link_of_added added, not_refused⟩
  rintro ⟨rfl, rfl⟩
  exact t.outcome_of_run d

/-- All that is needed is named, whatever of it is missing. -/
example : (Failure.allNeeded (Occasion.onCard .assigned none "Ship it").needs).message =
    "userID, boardID, cardID, assignedBy are required" := by
  decide

/-! ## What is invalid -/

/-- Whether somebody without a name adds somebody else to a board, which is noticed only once the
board has been found. -/
def Waits (t : Telling) : Prop :=
  t.occasion = .added ∧ ∃ a r b c, t.Given a r b c ∧ a.id ≠ r ∧ a.name = ""

theorem rejects_iff (t : Telling) (d : Desk) (text : String) :
    Rejects (t.action.run d).1 text ↔
      (∀ a r b c, ¬ t.Given a r b c) ∧ (Failure.allNeeded t.occasion.needs).message = text ∨
      (∃ a r b c, t.Given a r b c ∧ a.id ≠ r ∧ a.name = "" ∧
        (t.occasion = .added → ∃ found, d.store.findBoard (some b) = .ok (some found))) ∧
          "from is required" = text := by
  constructor
  · rintro ⟨f, hf, hinvalid, htext⟩
    have houtcome := t.outcome_of_run d
    rw [hf] at houtcome
    generalize (t.action.run d).2.store = s' at houtcome
    cases houtcome with
    | lacking h => exact .inl ⟨h, htext⟩
    | nameless h other present unnamed => exact .inr ⟨⟨_, _, _, _, h, other, unnamed, present⟩, htext⟩
    | boardsFail | noBoard | refused | unread => cases hinvalid
  · rintro (⟨h, htext⟩ | ⟨⟨a, r, b, c, h, other, unnamed, present⟩, htext⟩)
    · exact ⟨_, (run_of_outcome (.lacking h)).1, rfl, htext⟩
    · exact ⟨_, (run_of_outcome (.nameless h other present unnamed)).1, rfl, htext⟩

/-- Whether and how the values are rejected is the same on all desks, but for a nameless actor who adds
somebody to a board: they are rejected where the board is found, and only there. -/
theorem rejected_alike_unless_waiting (t : Telling) (d d' : Desk) (text : String) :
    (¬ t.Waits →
      (Rejects (t.action.run d).1 text ↔ Rejects (t.action.run d').1 text)) ∧
    (t.Waits →
      (Rejects (t.action.run d).1 text ↔
        text = "from is required" ∧ ∃ found, d.store.findBoard t.board = .ok (some found))) := by
  constructor
  · intro hwaits
    -- The board is asked for only where somebody waits for it.
    have hsettled {a : Person} {r b c : String} (h : t.Given a r b c) (other : a.id ≠ r)
        (unnamed : a.name = "") (d : Desk) :
        t.occasion = .added → ∃ found, d.store.findBoard (some b) = .ok (some found) :=
      fun added => absurd ⟨added, a, r, b, c, h, other, unnamed⟩ hwaits
    rw [rejects_iff, rejects_iff]
    refine or_congr_right (and_congr_left fun _ => ⟨?_, ?_⟩) <;>
    · rintro ⟨a, r, b, c, h, other, unnamed, _⟩
      exact ⟨a, r, b, c, h, other, unnamed, hsettled h other unnamed _⟩
  · rintro ⟨added, a, r, b, c, h, other, unnamed⟩
    have hboard : t.board = some b := (eq_of_filled h.board).1
    rw [rejects_iff, hboard]
    constructor
    · rintro (⟨hlacking, _⟩ | ⟨⟨_, _, b', _, h', _, _, present⟩, htext⟩)
      · exact absurd h (hlacking a r b c)
      · obtain rfl : b' = b := Option.some.inj (h'.board.symm.trans h.board)
        exact ⟨htext.symm, present added⟩
    · rintro ⟨htext, present⟩
      exact .inr ⟨⟨a, r, b, c, h, other, unnamed, fun _ => present⟩, htext.symm⟩

/-- A desk with the given boards and no notices. -/
def deskWith (boards : BoardTable) : Desk where
  store := { notices := some .empty, boards := some boards, flaws := [] }
  clock := 5
  supply := fun _ => 0
  drawn := 0
  settings := .error .originsNotJson
  log := []

/-- Somebody without a name adds Bob to a board. -/
def namelessAddition : Telling := ⟨.added, some ⟨"ann", ""⟩, "bob", "b"⟩

/-- Whether the missing name is reported depends on what the store holds. -/
theorem nameless_adder_waits_for_board :
    ¬ ∀ (t : Telling) (d d' : Desk) (text : String),
      Rejects (t.action.run d).1 text ↔ Rejects (t.action.run d').1 text := by
  intro h
  have hfound : Rejects (namelessAddition.action.run (deskWith ⟨[⟨"b", "Roadmap"⟩], by decide⟩)).1
      "from is required" := ⟨.needed .sender, rfl, rfl, rfl⟩
  have habsent : (namelessAddition.action.run (deskWith .empty)).1 = .error (.noSuchBoard "b") := rfl
  obtain ⟨f, hf, hinvalid, _⟩ := (h _ _ (deskWith .empty) _).mp hfound
  rw [habsent] at hf
  cases hf
  cases hinvalid

end Telling

end Service
end Noticeboard
