import Noticeboard.Notice.Basic

/-!
Tables: rows under distinct keys. A table offers the row of a key, a new row under a free
key, a change of rows that keeps their keys, and the removal of rows.
-/

namespace Noticeboard

/-- Rows of type `α`, no two of them under the same key. -/
structure Table (α : Type) (key : α → String) where
  rows : List α
  keyed : (rows.map key).Nodup

namespace Table

variable {α : Type} {key : α → String}

def empty : Table α key := ⟨[], List.nodup_nil⟩

instance : Inhabited (Table α key) := ⟨empty⟩

def find? (t : Table α key) (k : String) : Option α := t.rows.find? (key · = k)

def has (t : Table α key) (k : String) : Bool := t.rows.any (key · = k)

theorem has_eq_false_iff {t : Table α key} {k : String} :
    t.has k = false ↔ k ∉ t.rows.map key := by
  simp [has]

def insert (t : Table α key) (a : α) (free : t.has (key a) = false) : Table α key where
  rows := a :: t.rows
  keyed := by
    rw [List.map_cons, List.nodup_cons]
    exact ⟨has_eq_false_iff.1 free, t.keyed⟩

/-- Every row changed by `f`, which leaves the keys alone. -/
def update (t : Table α key) (f : α → α) (fixed : ∀ a, key (f a) = key a) : Table α key where
  rows := t.rows.map f
  keyed := by
    rw [List.map_map, show key ∘ f = key from funext fixed]
    exact t.keyed

def remove (t : Table α key) (p : α → Bool) : Table α key where
  rows := t.rows.filter (!p ·)
  keyed := t.keyed.sublist (List.filter_sublist.map key)

def sorted (t : Table α key) : List α := t.rows.mergeSort fun a b => key a ≤ key b

@[simp] theorem rows_empty : (empty : Table α key).rows = [] := rfl

@[simp] theorem rows_insert (t : Table α key) (a : α) (free : t.has (key a) = false) :
    (t.insert a free).rows = a :: t.rows := rfl

@[simp] theorem rows_update (t : Table α key) (f : α → α) (fixed : ∀ a, key (f a) = key a) :
    (t.update f fixed).rows = t.rows.map f := rfl

@[simp] theorem rows_remove (t : Table α key) (p : α → Bool) :
    (t.remove p).rows = t.rows.filter (!p ·) := rfl

end Table

abbrev NoticeTable := Table Notice Notice.id

abbrev BoardTable := Table Board Board.id

end Noticeboard
