import Noticeboard.Proofs.Service.Agreement
import Noticeboard.Service.Inbox

/-!
Checks before storage. What has to be given is checked in its order before anything is asked of the
world, and the first thing that is wrong is the failure. After the checks nothing is found invalid
any more, so that whether a caller is told of an invalid value, and of which, is not a matter of the
store, the time or the settings.
-/

namespace Noticeboard

/-- Whether a result is the failure of an invalid value, told in the words `text`. -/
def Rejects {α : Type} (result : Except Failure α) (text : String) : Prop :=
  ∃ f, result = .error f ∧ f.category? = some .invalid ∧ f.message = text

namespace Action

variable {α β : Type} {problems : List Failure}

/-- Whether an action never fails for an invalid value. -/
def Accepts (a : Action α) : Prop := ∀ d f, (a.run d).1 = .error f → f.category? ≠ some .invalid

theorem accepts_pure (x : α) : (pure x : Action α).Accepts := fun _ _ h => nomatch h

theorem accepts_bind {a : Action α} {g : α → Action β} (ha : a.Accepts)
    (hg : ∀ x, (g x).Accepts) : (a >>= g).Accepts := by
  intro d f hf
  have hfails := ha d
  rw [run_bind] at hf
  cases hrun : a.run d with
  | mk result d' =>
      rw [hrun] at hf hfails
      cases result with
      | ok x => exact hg x d' f hf
      | error _ =>
          cases hf
          exact hfails f rfl

/-- Neither the store nor the settings find anything invalid. -/
theorem accepts_ofExcept {ε : Type} {cause : ε → Failure}
    (hcause : ∀ e, (cause e).category? ≠ some .invalid) (p : Plan (Except ε α)) :
    (ofExcept cause p).Accepts := by
  intro d f hf
  have hrun : (ofExcept cause p).run d = ((p.run d).1.mapError cause, (p.run d).2) :=
    Plan.run_bind p _ d
  rw [hrun] at hf
  cases hp : (p.run d).1 with
  | ok x =>
      rw [hp] at hf
      cases hf
  | error e =>
      rw [hp] at hf
      cases hf
      exact hcause e

theorem accepts_ofStore (p : Plan (Except Task α)) : (ofStore p).Accepts :=
  accepts_ofExcept (fun _ h => by cases h) p

theorem accepts_lift (p : Plan α) : Accepts (ExceptT.lift p : Action α) := by
  intro d f hf
  have hrun : Action.run (ExceptT.lift p) d = _ := Plan.run_lift p d
  rw [hrun] at hf
  cases hf

/-- Whether an action fails for the first of the given problems before it does anything, and for no
invalid value where there are none. -/
def Checks : List Failure → Action α → Prop
  | [], a => a.Accepts
  | f :: _, a => ∀ d, a.run d = (.error f, d)

theorem checks_bind {a : Action α} {g : α → Action β} (ha : Checks problems a)
    (hg : ∀ x, (g x).Accepts) : Checks problems (a >>= g) := by
  cases problems with
  | nil => exact accepts_bind ha hg
  | cons f _ =>
      intro d
      rw [run_bind, ha d]

theorem rejects_iff_of_checks {a : Action α} (h : Checks problems a)
    (hinvalid : ∀ f ∈ problems, f.category? = some .invalid) (d : Desk) (text : String) :
    Rejects (a.run d).1 text ↔ problems.head?.map Failure.message = some text := by
  cases problems with
  | nil =>
      simp only [List.head?_nil, Option.map_none, reduceCtorEq, iff_false]
      rintro ⟨f, hf, hcategory, _⟩
      exact h d f hf hcategory
  | cons f rest =>
      rw [h d, List.head?_cons, Option.map_some, Option.some.injEq]
      constructor
      · rintro ⟨_, hf, _, htext⟩
        exact Except.error.inj hf ▸ htext
      · exact fun htext => ⟨f, rfl, hinvalid f List.mem_cons_self, htext⟩

/-- What is rejected has done nothing. -/
theorem run_eq_of_rejects {a : Action α} (h : Checks problems a) {d : Desk} {text : String}
    (hrejects : Rejects (a.run d).1 text) : (a.run d).2 = d := by
  cases problems with
  | nil =>
      obtain ⟨f, hf, hcategory, _⟩ := hrejects
      exact absurd hcategory (h d f hf)
  | cons f _ => rw [h d]

end Action

namespace Service

open Noticeboard.Action

/-! ## What can be wrong -/

/-- The problem with a value that has to be given, which is that it is absent or empty. -/
def missing (need : Need) (value : Option String) : List Failure :=
  if filled? value = none then [.needed need] else []

/-- The problem with a creation time, which is that it does not fit its column. -/
def unfit (moment : Int) : List Failure := if Int64.fits moment then [] else [.momentOutOfRange]

theorem invalid_missing (need : Need) (value : Option String) :
    ∀ f ∈ missing need value, f.category? = some .invalid := by
  rw [missing]
  split
  · exact List.forall_mem_singleton.mpr rfl
  · exact List.forall_mem_nil _

theorem invalid_unfit (moment : Int) : ∀ f ∈ unfit moment, f.category? = some .invalid := by
  rw [unfit]
  split
  · exact List.forall_mem_nil _
  · exact List.forall_mem_singleton.mpr rfl

section Checks

variable {α : Type} {problems : List Failure}

theorem checks_required {need : Need} {value : Option String} {f : String → Action α}
    (h : ∀ s, Checks problems (f s)) :
    Checks (missing need value ++ problems) (required need value >>= f) := by
  rw [missing, required]
  cases filled? value with
  | none => exact fun _ => rfl
  | some s => exact h s

theorem checks_momentOf {draft : Draft} {moment : Int} (h : draft.createdAt = some moment)
    {f : Int → Action α} (hf : ∀ n, (f n).Accepts) :
    Checks (unfit moment) (momentOf draft >>= f) := by
  rw [unfit, momentOf, h]
  dsimp only
  split
  · exact hf moment
  · exact fun _ => rfl

end Checks

/-! ## What the service does after its checks -/

theorem accepts_newId : newId.Accepts := accepts_bind (accepts_lift _) fun _ => accepts_pure _

theorem accepts_identify (id : Option String) : (identify id).Accepts := by
  rw [identify]
  split
  · exact accepts_pure _
  · exact accepts_newId

theorem accepts_resolveLink (board card : Option String) : (resolveLink board card).Accepts := by
  rw [resolveLink]
  split
  · exact accepts_pure _
  · refine accepts_bind (accepts_ofStore _) fun found => ?_
    cases found <;> exact accepts_pure _

theorem accepts_linkFor (link board card : Option String) : (linkFor link board card).Accepts := by
  rw [linkFor]
  split
  · exact accepts_pure _
  · exact accepts_resolveLink board card

theorem accepts_limitOr (limit : Option Int) (setting : Settings → Count) :
    (limitOr limit setting).Accepts := by
  cases limit with
  | some _ => exact accepts_pure _
  | none => exact accepts_bind (accepts_ofExcept (fun _ h => by cases h) _) fun _ => accepts_pure _

/-! ## The uses of the service -/

/-- What callers ask of the service. -/
inductive UseCase
  /-- To store a draft, with its creation time. -/
  | create (draft : Draft) (createdAt : Int)
  | createNew (recipient message sender board card : Option String)
  | list (recipient : Option String) (limit : Option Int) (offset : Int)
  | countUnread (recipient : Option String)
  | find (id : Option String)
  | markRead (id : Option String)
  | markAllRead (recipient : Option String) (limit : Option Int)
  | delete (id : Option String)
  | deleteFor (recipient : Option String)

namespace UseCase

abbrev Answer : UseCase → Type
  | create _ _ | createNew _ _ _ _ _ => Notice
  | list _ _ _ => List Notice
  | countUnread _ => Nat
  | find _ => Option Notice
  | markRead _ | delete _ | deleteFor _ => Unit
  | markAllRead _ _ => Marking

def action : (u : UseCase) → Action u.Answer
  | create draft createdAt => Service.create { draft with createdAt }
  | createNew recipient message sender board card =>
      Service.createNew recipient message sender board card
  | list recipient limit offset => Service.list recipient limit offset
  | countUnread recipient => Service.countUnread recipient
  | find id => Service.find id
  | markRead id => Service.markRead id
  | markAllRead recipient limit => Service.markAllRead recipient limit
  | delete id => Service.delete id
  | deleteFor recipient => Service.deleteFor recipient

def answer (u : UseCase) (d : Desk) : Except Failure u.Answer := (u.action.run d).1

def next (u : UseCase) (d : Desk) : Desk := (u.action.run d).2

/-- All that is wrong with the values that are given, in the order in which it is looked for. -/
def problems : UseCase → List Failure
  | create draft createdAt =>
      missing .recipient draft.recipient ++ (missing .message draft.message ++
        (missing .sender draft.sender ++ unfit createdAt))
  | createNew recipient message sender _ _ =>
      missing .recipient recipient ++ (missing .message message ++ missing .sender sender)
  | list recipient _ _ | countUnread recipient | markAllRead recipient _ | deleteFor recipient =>
      missing .recipient recipient
  | find id | markRead id | delete id => missing .notice id

theorem invalid_problems (u : UseCase) : ∀ f ∈ u.problems, f.category? = some .invalid := by
  cases u with
  | create _ _ =>
      refine List.forall_mem_append.mpr ⟨invalid_missing _ _, ?_⟩
      refine List.forall_mem_append.mpr ⟨invalid_missing _ _, ?_⟩
      exact List.forall_mem_append.mpr ⟨invalid_missing _ _, invalid_unfit _⟩
  | createNew _ _ _ _ _ =>
      refine List.forall_mem_append.mpr ⟨invalid_missing _ _, ?_⟩
      exact List.forall_mem_append.mpr ⟨invalid_missing _ _, invalid_missing _ _⟩
  | list _ _ _ | countUnread _ | find _ | markRead _ | markAllRead _ _ | delete _ | deleteFor _ =>
      exact invalid_missing _ _

end UseCase

section Checks

variable {α : Type}

/-- One value is all that most actions check. -/
theorem checks_required_only {need : Need} {value : Option String} {f : String → Action α}
    (h : ∀ s, (f s).Accepts) : Checks (missing need value) (required need value >>= f) :=
  List.append_nil (missing need value) ▸ checks_required h

theorem checks_completed (draft : Draft) {moment : Int} (h : draft.createdAt = some moment) :
    Checks (missing .recipient draft.recipient ++ (missing .message draft.message ++
      (missing .sender draft.sender ++ unfit moment))) (completed draft) := by
  refine checks_required fun recipient => checks_required fun message =>
    checks_required fun sender => checks_momentOf h fun moment => ?_
  refine accepts_bind (accepts_identify _) fun id => ?_
  dsimp only
  split
  · exact accepts_bind (accepts_pure _) fun _ =>
      accepts_bind (accepts_linkFor _ _ _) fun _ => accepts_pure _
  · exact accepts_bind (accepts_lift _) fun _ =>
      accepts_bind (accepts_linkFor _ _ _) fun _ => accepts_pure _

theorem checks_createNew (recipient message sender board card : Option String) :
    Checks (missing .recipient recipient ++ (missing .message message ++ missing .sender sender))
      (createNew recipient message sender board card) := by
  refine checks_required fun recipient => checks_required fun message =>
    checks_required_only fun sender => ?_
  refine accepts_bind accepts_newId fun id => accepts_bind (accepts_lift _) fun createdAt => ?_
  exact accepts_bind (accepts_resolveLink _ _) fun link => accepts_ofStore _

theorem checks_list (recipient : Option String) (limit : Option Int) (offset : Int) :
    Checks (missing .recipient recipient) (list recipient limit offset) :=
  checks_required_only fun _ => accepts_bind (accepts_limitOr _ _) fun _ => accepts_ofStore _

theorem checks_markAllRead (recipient : Option String) (limit : Option Int) :
    Checks (missing .recipient recipient) (markAllRead recipient limit) := by
  refine checks_required_only fun recipient => ?_
  refine accepts_bind (accepts_limitOr _ _) fun limit => ?_
  refine accepts_bind (accepts_ofStore _) fun notices => ?_
  refine accepts_bind (accepts_lift _) fun failed => ?_
  dsimp only
  split
  · exact accepts_bind (accepts_lift _) fun _ => accepts_pure _
  · exact accepts_pure _

theorem checks_useCase (u : UseCase) : Checks u.problems u.action := by
  cases u with
  | create draft createdAt =>
      exact checks_bind (checks_completed { draft with createdAt } rfl) fun _ => accepts_ofStore _
  | createNew recipient message sender board card => exact checks_createNew _ _ _ _ _
  | list recipient limit offset => exact checks_list _ _ _
  | countUnread recipient => exact checks_required_only fun _ => accepts_ofStore _
  | find id => exact checks_required_only fun _ => accepts_ofStore _
  | markRead id => exact checks_required_only fun _ => accepts_ofStore _
  | markAllRead recipient limit => exact checks_markAllRead _ _
  | delete id => exact checks_required_only fun _ => accepts_ofStore _
  | deleteFor recipient => exact checks_required_only fun _ => accepts_ofStore _

end Checks

/-- The service rejects the first of the values that are wrong, and nothing where none is, on every
desk alike: whatever the store holds and whatever is wrong with it. What is rejected draws no
identifier and changes no row. -/
theorem validated_before_storage (u : UseCase) (d d' : Desk) (text : String) :
    (Rejects (u.answer d) text ↔ Rejects (u.answer d') text) ∧
      (Rejects (u.answer d) text ↔ u.problems.head?.map Failure.message = some text) ∧
      (Rejects (u.answer d) text → u.next d = d) := by
  have hrejects (d : Desk) :
      Rejects (u.answer d) text ↔ u.problems.head?.map Failure.message = some text :=
    rejects_iff_of_checks (checks_useCase u) u.invalid_problems d text
  exact ⟨(hrejects d).trans (hrejects d').symm, hrejects d, run_eq_of_rejects (checks_useCase u)⟩

/-- The sender is missing, and the creation time does not fit. -/
example :
    (UseCase.create { (default : Draft) with recipient := "ann", message := "hi", sender := "" }
      9223372036854775808).problems.map Failure.message =
        ["from is required", "createAt is out of range"] := by
  decide

end Service
end Noticeboard
