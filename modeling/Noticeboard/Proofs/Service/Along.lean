import Noticeboard.Proofs.Service.Effect

/-!
What holds of the calls along one run. Where it depends on the rows that are there, whether a
call does no harm is judged by the store at that call, and not by all the answers that could
be given to the calls before.
-/

namespace Noticeboard
namespace Plan

variable {α β ε : Type} {P : Store → Call → Prop}

/-- Whether `P` holds of every call that a plan makes on a desk, at the store then. -/
def Along (P : Store → Call → Prop) : Plan α → Desk → Prop
  | done _, _ => True
  | call c next, d => P d.store c ∧ (next (d.perform c).1).Along P (d.perform c).2

theorem along_bind {p : Plan α} {f : α → Plan β} {d : Desk} (hp : p.Along P d)
    (hf : (f (p.run d).1).Along P (p.run d).2) : (p >>= f).Along P d := by
  induction p generalizing d with
  | done a => exact hf
  | call c next ih => exact ⟨hp.1, ih _ hp.2 hf⟩

theorem along_ask {c : Call} {d : Desk} (h : P d.store c) : (ask c).Along P d := ⟨h, trivial⟩

theorem along_exceptBind {a : ExceptT ε Plan α} {f : α → ExceptT ε Plan β} {d : Desk}
    (ha : (ExceptT.run a).Along P d)
    (hf : ∀ x d', (ExceptT.run a).run d = (.ok x, d') → (ExceptT.run (f x)).Along P d') :
    (ExceptT.run (a >>= f)).Along P d := by
  apply along_bind ha
  cases h : (ExceptT.run a).run d with
  | mk result d' =>
      cases result with
      | ok x => exact hf x d' h
      | error _ => trivial

theorem along_lift {p : Plan α} {d : Desk} (h : p.Along P d) :
    (ExceptT.run (ExceptT.lift p : ExceptT ε Plan α)).Along P d :=
  along_bind h trivial

theorem along_ofExcept {f : ε → Failure} {p : Plan (Except ε α)} {d : Desk} (h : p.Along P d) :
    (ExceptT.run (Action.ofExcept f p)).Along P d :=
  along_bind h trivial

theorem along_of_makes {p : Plan α} (h : p.Makes fun c => ∀ s, P s c) (d : Desk) :
    p.Along P d := by
  induction p generalizing d with
  | done _ => trivial
  | call c next ih => exact ⟨h.1 d.store, ih _ (h.2 _) _⟩

/-- A run relates the store before to the store after as each of its calls does. -/
theorem related_of_along {R : Store → Store → Prop} (refl : ∀ s, R s s)
    (trans : ∀ {s s' s''}, R s s' → R s' s'' → R s s'')
    (step : ∀ (d : Desk) c, P d.store c → R d.store (d.perform c).2.store) {p : Plan α}
    {d : Desk} (h : p.Along P d) : R d.store (p.run d).2.store := by
  induction p generalizing d with
  | done _ => exact refl _
  | call c next ih => exact trans (step d c h.1) (ih _ h.2)

theorem bind_assoc {γ : Type} (p : Plan α) (f : α → Plan β) (g : β → Plan γ) :
    p >>= f >>= g = p >>= fun a => f a >>= g := by
  induction p with
  | done _ => rfl
  | call c next ih => exact congrArg (call c) (funext fun answer => ih answer)

theorem run_lift (p : Plan α) (d : Desk) :
    (ExceptT.run (ExceptT.lift p : ExceptT ε Plan α)).run d = (.ok (p.run d).1, (p.run d).2) :=
  run_bind p _ d

theorem run_exceptBind (a : ExceptT ε Plan α) (f : α → ExceptT ε Plan β) (d : Desk) :
    (ExceptT.run (a >>= f)).run d =
      match (ExceptT.run a).run d with
      | (.ok x, d') => (ExceptT.run (f x)).run d'
      | (.error e, d') => (.error e, d') := by
  change (ExceptT.run a >>= ExceptT.bindCont f).run d = _
  rw [run_bind]
  rcases (ExceptT.run a).run d with ⟨result, d'⟩
  cases result <;> rfl

theorem run_exceptBind_ok {a : ExceptT ε Plan α} {d d' : Desk} {x : α}
    (h : (ExceptT.run a).run d = (.ok x, d')) (f : α → ExceptT ε Plan β) :
    (ExceptT.run (a >>= f)).run d = (ExceptT.run (f x)).run d' := by
  rw [run_exceptBind, h]

theorem run_lift_bind {p : Plan α} {d d' : Desk} {x : α} (h : p.run d = (x, d'))
    (f : α → ExceptT ε Plan β) :
    (ExceptT.run (ExceptT.lift p >>= f)).run d = (ExceptT.run (f x)).run d' := by
  apply run_exceptBind_ok
  rw [run_lift, h]

theorem run_exceptBind_error {a : ExceptT ε Plan α} {d d' : Desk} {e : ε}
    (h : (ExceptT.run a).run d = (.error e, d')) (f : α → ExceptT ε Plan β) :
    (ExceptT.run (a >>= f)).run d = (.error e, d') := by
  rw [run_exceptBind, h]

theorem ok_of_exceptBind {a : ExceptT ε Plan α} {f : α → ExceptT ε Plan β} {d d'' : Desk} {y : β}
    (h : (ExceptT.run (a >>= f)).run d = (.ok y, d'')) :
    ∃ x d', (ExceptT.run a).run d = (.ok x, d') ∧ (ExceptT.run (f x)).run d' = (.ok y, d'') := by
  rw [run_exceptBind] at h
  cases ha : (ExceptT.run a).run d with
  | mk result d' =>
      rw [ha] at h
      cases result with
      | ok x => exact ⟨x, d', rfl, h⟩
      | error _ => cases h

end Plan
end Noticeboard
