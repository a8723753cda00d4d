import Noticeboard.Proofs.Service.Effect
import Noticeboard.Service.Create

/-!
What actions that run alone give back and what they leave of the store. An action of the store
gives what the operation of that name gives; actions that make up others are put together
from these.
-/

namespace Noticeboard

/-- A store that has its notices and nothing wrong with it. -/
def Store.Sound (s : Store) : Prop := s.notices.isSome ∧ s.flaws = []

theorem Store.Sound.readsBack {s : Store} (h : s.Sound) : s.ReadsBack := by
  constructor <;> rw [Store.broken, h.2] <;> rfl

namespace Action

variable {α : Type}

theorem run_ofStore (p : Plan (Except Task α)) (d : Desk) :
    (ofStore p).run d = ((p.run d).1.mapError .storage, (p.run d).2) :=
  Plan.run_bind p _ d

theorem answer_insert (draft : Draft) (d : Desk) :
    ((insert draft).run d).1 = (d.store.save draft).1.mapError .storage := by
  simp only [insert, run_ofStore, Plan.ask, Plan.run_call, Plan.run_done, Desk.perform,
    Desk.answer_saving]

theorem store_insert (draft : Draft) (d : Desk) :
    ((insert draft).run d).2.store = Desk.kept d.store (d.store.insert draft) := by
  simp only [insert, run_ofStore, Plan.ask, Plan.run_call, Plan.run_done, Desk.perform,
    Desk.store_saving, Desk.store_save]

theorem answer_find (id : Option String) (d : Desk) :
    ((find id).run d).1 = (d.store.find id).mapError .storage := by
  simp only [find, run_ofStore, Plan.ask, Plan.run_call, Plan.run_done, Desk.perform,
    Desk.answer_reading]

theorem store_find (id : Option String) (d : Desk) : ((find id).run d).2.store = d.store := by
  simp only [find, run_ofStore, Plan.ask, Plan.run_call, Desk.perform, Plan.run_done,
    Desk.store_reading]

theorem answer_list (recipient : Option String) (limit offset : Int) (d : Desk) :
    ((list recipient limit offset).run d).1 =
      (d.store.list recipient limit offset).mapError .storage := by
  simp only [list, run_ofStore, Plan.ask, Plan.run_call, Plan.run_done, Desk.perform,
    Desk.answer_reading]

theorem store_list (recipient : Option String) (limit offset : Int) (d : Desk) :
    ((list recipient limit offset).run d).2.store = d.store := by
  simp only [list, run_ofStore, Plan.ask, Plan.run_call, Desk.perform, Plan.run_done,
    Desk.store_reading]

theorem list_ok {recipient : Option String} {limit offset : Int} {rows : List Notice} {d d' : Desk}
    (h : (ExceptT.run (list recipient limit offset)).run d = (.ok rows, d')) :
    d.store.list recipient limit offset = .ok rows ∧ d'.store = d.store := by
  have hanswer := answer_list recipient limit offset d
  have hstore := store_list recipient limit offset d
  rw [run, h] at hanswer hstore
  refine ⟨?_, hstore⟩
  cases hrows : d.store.list recipient limit offset with
  | error _ => rw [hrows] at hanswer; cases hanswer
  | ok _ => rw [hrows] at hanswer; cases hanswer; rfl

theorem store_countUnread (recipient : Option String) (d : Desk) :
    ((countUnread recipient).run d).2.store = d.store := by
  simp only [countUnread, run_ofStore, Plan.ask, Plan.run_call, Desk.perform, Plan.run_done,
    Desk.store_reading]

theorem store_setRead (id : Option String) (read : Option Bool) (d : Desk) :
    ((setRead id read).run d).2.store =
      Desk.kept d.store ((d.store.setRead id read).map ((), ·)) := by
  simp only [setRead, run_ofStore, Plan.ask, Plan.run_call, Desk.perform, Plan.run_done,
    Desk.store_writing]

theorem store_delete (id : Option String) (d : Desk) :
    ((delete id).run d).2.store = Desk.kept d.store ((d.store.delete id).map ((), ·)) := by
  simp only [delete, run_ofStore, Plan.ask, Plan.run_call, Desk.perform, Plan.run_done,
    Desk.store_writing]

theorem store_deleteFor (recipient : Option String) (d : Desk) :
    ((deleteFor recipient).run d).2.store =
      Desk.kept d.store ((d.store.deleteFor recipient).map ((), ·)) := by
  simp only [deleteFor, run_ofStore, Plan.ask, Plan.run_call, Desk.perform, Plan.run_done,
    Desk.store_writing]

end Action

namespace Service

theorem required_filled {need : Need} {value : String} (h : value ≠ "") :
    required need (some value) = pure value := by
  simp only [required, filled?, h, ↓reduceIte]

/-- Saving inserts the draft under the identifier that it brings along, or else under a fresh
one. -/
theorem run_save (draft : Draft) (d : Desk) :
    ∃ id d', d'.store = d.store ∧ (∀ given, filled? draft.id = some given → id = given) ∧
      (save draft).run d = (Action.insert { draft with id := some id }).run d' := by
  cases h : filled? draft.id with
  | some given =>
      refine ⟨given, d, rfl, fun _ heq => Option.some.inj heq, ?_⟩
      simp only [save, identify, h, Action.run_bind, Action.run_pure]
  | none =>
      refine ⟨Id.ofDraw Id.noticeTag (d.supply d.drawn), { d with drawn := d.drawn + 1 }, rfl,
        by simp, ?_⟩
      simp only [save, identify, h, Action.run_bind]
      rfl

end Service
end Noticeboard
