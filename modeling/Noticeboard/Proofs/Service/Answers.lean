import Noticeboard.Proofs.Service.Along

/-!
Plans whose answers can be relied on. Nothing may be known of the answers to most calls, but of
some it may: a clock may be known to show a time within bounds. A plan is judged by its calls and
its result, for all answers of that kind.
-/

namespace Noticeboard
namespace Plan

variable {α β ε : Type} {A : (c : Call) → c.Answer → Prop} {P : Call → Prop}

/-- Whether `P` holds of every call that a plan makes and `Q` of its result, as long as `A` holds of
every answer. -/
def Ensures (A : (c : Call) → c.Answer → Prop) (P : Call → Prop) (Q : α → Prop) : Plan α → Prop
  | done a => Q a
  | call c next => P c ∧ ∀ answer, A c answer → (next answer).Ensures A P Q

/-- Whether `Q` holds of a result, unless it is a failure. -/
def Gives (Q : α → Prop) : Except ε α → Prop
  | .ok a => Q a
  | .error _ => True

variable {Q : α → Prop} {R : β → Prop}

theorem ensures_bind {p : Plan α} {f : α → Plan β} (hp : p.Ensures A P Q)
    (hf : ∀ a, Q a → (f a).Ensures A P R) : (p >>= f).Ensures A P R := by
  induction p with
  | done a => exact hf a hp
  | call c next ih => exact ⟨hp.1, fun answer ha => ih answer (hp.2 answer ha)⟩

theorem ensures_mono {Q' : α → Prop} {p : Plan α} (h : p.Ensures A P Q) (hQ : ∀ a, Q a → Q' a) :
    p.Ensures A P Q' := by
  induction p with
  | done a => exact hQ a h
  | call c next ih => exact ⟨h.1, fun answer ha => ih answer (h.2 answer ha)⟩

theorem ensures_ask {c : Call} (h : P c) : (ask c).Ensures A P (A c) := ⟨h, fun _ ha => ha⟩

theorem ensures_of_makes {p : Plan α} (h : p.Makes P) (hQ : ∀ a, Q a) : p.Ensures A P Q := by
  induction p with
  | done a => exact hQ a
  | call c next ih => exact ⟨h.1, fun answer _ => ih answer (h.2 answer)⟩

/-- What is known only of the calls of an action says nothing of its result. -/
theorem ensures_calls {a : ExceptT ε Plan α} (h : (ExceptT.run a).Makes P) :
    (ExceptT.run a).Ensures A P (Gives fun _ => True) :=
  ensures_of_makes h fun result => by cases result <;> trivial

theorem ensures_exceptBind {a : ExceptT ε Plan α} {f : α → ExceptT ε Plan β}
    (ha : (ExceptT.run a).Ensures A P (Gives Q))
    (hf : ∀ x, Q x → (ExceptT.run (f x)).Ensures A P (Gives R)) :
    (ExceptT.run (a >>= f)).Ensures A P (Gives R) := by
  refine ensures_bind ha fun result h => ?_
  cases result with
  | ok x => exact hf x h
  | error _ => trivial

theorem ensures_lift {p : Plan α} (h : p.Ensures A P Q) :
    (ExceptT.run (ExceptT.lift p : ExceptT ε Plan α)).Ensures A P (Gives Q) :=
  ensures_bind h fun _ ha => ha

/-- What holds of a store, and is kept by the calls that a plan makes, holds of all its stores. -/
theorem kept_of_ensures {H : Desk → Prop} {I : Store → Prop}
    (hanswer : ∀ d c, P c → H d → A c (Desk.perform d c).1 ∧ H (d.perform c).2)
    (hstep : ∀ d c, P c → I d.store → I (Desk.perform d c).2.store) {p : Plan α} {d : Desk}
    (h : p.Ensures A P Q) (hd : H d) (hI : I d.store) :
    (∀ s ∈ p.stores d, I s) ∧ I (p.run d).2.store := by
  induction p generalizing d with
  | done a => exact ⟨fun _ hs => absurd hs List.not_mem_nil, hI⟩
  | call c next ih =>
      obtain ⟨ha, hd'⟩ := hanswer d c h.1 hd
      have hI' := hstep d c h.1 hI
      obtain ⟨hstores, hlast⟩ := ih _ (h.2 _ ha) hd' hI'
      exact ⟨List.forall_mem_cons.mpr ⟨hI', hstores⟩, hlast⟩

end Plan
end Noticeboard
