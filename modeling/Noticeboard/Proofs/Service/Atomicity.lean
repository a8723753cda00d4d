import Noticeboard.Proofs.Service.Along
import Noticeboard.Proofs.Service.Run
import Noticeboard.Service.Event
import Noticeboard.Service.Inbox

/-!
Actions that are atomic. An action of the service looks things up, draws at most one identifier, and
then writes to the store in one call, if it writes at all, after which it does not fail any more. So
one that fails has written nothing, unless the call itself has: a row that is stored but cannot be
read back. Reasons to fail are put together along the way.
-/

namespace Noticeboard

/-! ## The kinds of failures -/

/-- Whether a failure is of a kind that callers are told of: an invalid value, a board that is not
there, or a task that the store could not do. -/
def Failure.Declared (f : Failure) : Prop :=
  f.category? = some .invalid ∨ f.category? = some .boardMissing ∨ f.category? = some .storage

/-- Whether a failure can come up on a desk. Where the settings do not load, whoever asks for
them fails for that reason, which is no failure of the service itself. -/
def Failure.ArisesOn (f : Failure) (d : Desk) : Prop :=
  f.Declared ∨ ∃ e, d.settings = .error e ∧ f = .settings e

/-! ## What is spent -/

/-- Whether a desk is the desk `d` after at most `k` draws, with other notes in the log. -/
structure Desk.Spends (d d' : Desk) (k : Nat) : Prop where
  same : d' = { d with drawn := d'.drawn, log := d'.log }
  least : d.drawn ≤ d'.drawn
  most : d'.drawn ≤ d.drawn + k

namespace Desk

theorem spends_trans {d d' d'' : Desk} {k m : Nat} (h : d.Spends d' k) (h' : d'.Spends d'' m) :
    d.Spends d'' (m + k) where
  same := by rw [h'.same, h.same]
  least := Nat.le_trans h.least h'.least
  most := by
    have := h.most
    have := h'.most
    omega

theorem spends_mono {d d' : Desk} {k m : Nat} (h : d.Spends d' k) (hkm : k ≤ m) : d.Spends d' m :=
  ⟨h.same, h.least, Nat.le_trans h.most (Nat.add_le_add_left hkm _)⟩

end Desk

theorem Failure.arisesOn_of_spends {f : Failure} {d d' : Desk} {k : Nat} (h : f.ArisesOn d')
    (hd : d.Spends d' k) : f.ArisesOn d := by
  rw [hd.same] at h
  exact h

/-! ## Actions that look things up, and actions that write in the end -/

namespace Action

variable {α β : Type} {k m : Nat}

/-- Whether an action changes nothing but by at most `k` draws. -/
def Inspects (k : Nat) (a : Action α) : Prop :=
  ∀ d, d.Spends (a.run d).2 k ∧ ∀ f, (a.run d).1 = .error f → f.ArisesOn d

/-- Whether an action that fails where rows can be read back has changed nothing but by at most `k`
draws. -/
def Atomic (k : Nat) (a : Action α) : Prop :=
  ∀ d f, (a.run d).1 = .error f →
    f.ArisesOn d ∧ (d.store.ReadsBack → d.Spends (a.run d).2 k)

/-- Whether an action cannot fail. -/
def Total (a : Action α) : Prop := ∀ d, ∃ x, (a.run d).1 = .ok x

theorem Inspects.mono {a : Action α} (h : a.Inspects k) (hkm : k ≤ m) : a.Inspects m :=
  fun d => ⟨Desk.spends_mono (h d).1 hkm, (h d).2⟩

theorem Atomic.mono {a : Action α} (h : a.Atomic k) (hkm : k ≤ m) : a.Atomic m :=
  fun d f hf => ⟨(h d f hf).1, fun hreads => Desk.spends_mono ((h d f hf).2 hreads) hkm⟩

theorem Inspects.bind {a : Action α} {g : α → Action β} (ha : a.Inspects k)
    (hg : ∀ x, (g x).Inspects m) : (a >>= g).Inspects (m + k) := by
  intro d
  obtain ⟨hspent, hfails⟩ := ha d
  rw [run_bind]
  cases hrun : a.run d with
  | mk result d' =>
      rw [hrun] at hspent hfails
      cases result with
      | ok x =>
          obtain ⟨hspent', hfails'⟩ := hg x d'
          exact ⟨Desk.spends_trans hspent hspent', fun f hf =>
            Failure.arisesOn_of_spends (hfails' f hf) hspent⟩
      | error f =>
          exact ⟨Desk.spends_mono hspent (Nat.le_add_left _ _), fun f' hf' =>
            Except.error.inj hf' ▸ hfails f rfl⟩

theorem Total.bind {a : Action α} {g : α → Action β} (ha : a.Total) (hg : ∀ x, (g x).Total) :
    (a >>= g).Total := by
  intro d
  obtain ⟨x, hx⟩ := ha d
  rw [run_bind]
  cases hrun : a.run d with
  | mk result d' =>
      rw [hrun] at hx
      cases hx
      exact hg x d'

/-! ### Calls -/

end Action

/-! ## The actions of the service -/

namespace Service

open Noticeboard.Action

end Service

end Noticeboard
