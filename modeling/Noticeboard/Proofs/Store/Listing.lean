import Mathlib.Data.List.Nodup
import Mathlib.Data.String.Basic
import Noticeboard.Proofs.Store.Rows

/-!
The order of listings and the place of a notice in it. Listings are strictly ordered, since no
two notices share an identifier, and so the place of a notice is the number of notices of its
recipient that stand above it. New rows can only move a notice down.
-/

namespace Noticeboard
namespace Store

/-! ## The order -/

theorem before_iff {a b : Notice} :
    before a b = true ↔ b.createdAt < a.createdAt ∨ a.createdAt = b.createdAt ∧ b.id ≤ a.id := by
  simp [before]

theorem before_trans (a b c : Notice) (hab : before a b = true) (hbc : before b c = true) :
    before a c = true := by
  rw [before_iff] at hab hbc ⊢
  rcases hab with hab | ⟨hab, ha⟩ <;> rcases hbc with hbc | ⟨hbc, hb⟩
  · exact .inl (hbc.trans hab)
  · exact .inl (hbc ▸ hab)
  · exact .inl (hab ▸ hbc)
  · exact .inr ⟨hab.trans hbc, hb.trans ha⟩

theorem before_total (a b : Notice) : (before a b || before b a) = true := by
  rw [Bool.or_eq_true, before_iff, before_iff]
  rcases lt_trichotomy a.createdAt b.createdAt with h | h | h
  · exact .inr (.inl h)
  · rcases le_total a.id b.id with hid | hid
    · exact .inr (.inr ⟨h.symm, hid⟩)
    · exact .inl (.inr ⟨h, hid⟩)
  · exact .inl (.inl h)

theorem id_eq_of_before {a b : Notice} (hab : before a b = true) (hba : before b a = true) :
    a.id = b.id := by
  rw [before_iff] at hab hba
  rcases hab with hab | ⟨_, ha⟩ <;> rcases hba with hba | ⟨_, hb⟩
  · exact absurd hab hba.asymm
  · omega
  · omega
  · exact le_antisymm hb ha

theorem before_marked (id : String) (read : Bool) (a b : Notice) :
    before (marked id read a) (marked id read b) = before a b := by
  rw [marked_eq, marked_eq]
  rfl

/-! ## Listings -/

theorem listing_perm (t : NoticeTable) (recipient : String) :
    (listing t recipient).Perm (t.rows.filter (·.recipient = recipient)) :=
  List.mergeSort_perm _ _

theorem pairwise_listing (t : NoticeTable) (recipient : String) :
    (listing t recipient).Pairwise fun a b => before a b = true :=
  List.pairwise_mergeSort before_trans before_total _

theorem mem_listing_iff {t : NoticeTable} {recipient : String} {n : Notice} :
    n ∈ listing t recipient ↔ n ∈ t.rows ∧ n.recipient = recipient := by
  simp [listing]

theorem nodup_listing_id (t : NoticeTable) (recipient : String) :
    ((listing t recipient).map Notice.id).Nodup := by
  rw [((listing_perm t recipient).map Notice.id).nodup_iff]
  exact t.keyed.sublist (List.filter_sublist.map Notice.id)

/-- A change of rows that does not show in the order leaves every row in its place. -/
theorem listing_update {f : Notice → Notice} (t : NoticeTable) (fixed : ∀ n, (f n).id = n.id)
    (hrecipient : ∀ n, (f n).recipient = n.recipient)
    (hbefore : ∀ a b, before (f a) (f b) = before a b) (recipient : String) :
    listing (t.update f fixed) recipient = (listing t recipient).map f := by
  rw [listing, listing, List.map_mergeSort fun a _ b _ => (hbefore a b).symm, Table.rows_update,
    List.filter_map]
  simp only [Function.comp_def, hrecipient]

theorem usable_of_fits {bound : Int} (h : Int64.fits bound) : usable bound := by
  rw [usable, h, Bool.or_true]

theorem list_eq_ok_iff {s : Store} {recipient : String} {limit offset : Int}
    {rows : List Notice} :
    s.list (some recipient) limit offset = .ok rows ↔
      ∃ t, s.noticesFor .listNotices = some t ∧ usable limit ∧ usable offset ∧
        rows = page limit offset (listing t recipient) := by
  rw [list]
  cases s.noticesFor .listNotices with
  | none => simp
  | some t => cases usable limit <;> cases usable offset <;> simp [eq_comm]

theorem page_sublist (limit offset : Int) (rows : List Notice) :
    (page limit offset rows).Sublist rows := by
  rw [page]
  split
  · exact (List.take_sublist _ _).trans (List.drop_sublist _ _)
  · exact List.drop_sublist _ _

theorem page_unbounded {limit offset : Int} (hlimit : limit ≤ 0) (hoffset : offset ≤ 0)
    (rows : List Notice) : page limit offset rows = rows := by
  rw [page, Int.toNat_of_nonpos hoffset, List.drop_zero, if_neg (Int.not_lt.mpr hlimit)]

theorem list_unbounded {s : Store} {t : NoticeTable} (ht : s.noticesFor .listNotices = some t)
    {limit offset : Int} (hlimit : limit ≤ 0) (hoffset : offset ≤ 0) (recipient : String) :
    s.list (some recipient) limit offset = .ok (listing t recipient) :=
  list_eq_ok_iff.mpr ⟨t, ht, by simp [usable, hlimit], by simp [usable, hoffset],
    (page_unbounded hlimit hoffset _).symm⟩

theorem noticeAt_of_list {s : Store} {user : String} {limit offset : Int} {rows : List Notice}
    (h : s.list (some user) limit offset = .ok rows) {n : Notice} (hn : n ∈ rows) :
    s.noticeAt n.id = some n ∧ n.recipient = user := by
  obtain ⟨t, ht, _, _, rfl⟩ := list_eq_ok_iff.mp h
  have hlisted : n ∈ listing t user := (page_sublist limit offset _).subset hn
  obtain ⟨hrow, huser⟩ := mem_listing_iff.mp hlisted
  refine ⟨?_, huser⟩
  rw [noticeAt, (noticesFor_eq_some_iff.mp ht).2]
  exact Table.find?_eq_some_iff.mpr ⟨hrow, rfl⟩

theorem nodup_of_list {s : Store} {user : String} {limit offset : Int} {rows : List Notice}
    (h : s.list (some user) limit offset = .ok rows) : (rows.map Notice.id).Nodup := by
  obtain ⟨t, _, _, _, rfl⟩ := list_eq_ok_iff.mp h
  exact (nodup_listing_id t user).sublist ((page_sublist limit offset _).map Notice.id)

/-! ## The place of a notice -/

/-- Whether `m` stands above `n` in the listing of their recipient. -/
def standsAbove (n m : Notice) : Bool := m.recipient = n.recipient && !before n m

/-- How many notices stand above `n` in the listing of its recipient. -/
def place (t : NoticeTable) (n : Notice) : Nat := t.rows.countP (standsAbove n)

theorem listing_split {t : NoticeTable} {n : Notice} (h : n ∈ t.rows) :
    ∃ above below, listing t n.recipient = above ++ n :: below ∧ above.length = place t n := by
  obtain ⟨above, below, hsplit⟩ := List.append_of_mem (mem_listing_iff.mpr ⟨h, rfl⟩)
  refine ⟨above, below, hsplit, ?_⟩
  have sorted := pairwise_listing t n.recipient
  have distinct := nodup_listing_id t n.recipient
  rw [hsplit] at sorted distinct
  have habove : ∀ m ∈ above, standsAbove n m = true := by
    intro m hm
    have hlisted : m ∈ listing t n.recipient := hsplit ▸ List.mem_append_left _ hm
    have hmn : before m n = true :=
      (List.pairwise_append.mp sorted).2.2 m hm n List.mem_cons_self
    have hid : m.id ≠ n.id := by
      rw [List.map_append] at distinct
      exact (List.nodup_append.mp distinct).2.2 m.id (List.mem_map_of_mem hm) n.id
        (by simp)
    simp only [standsAbove, (mem_listing_iff.mp hlisted).2, decide_true, Bool.true_and,
      Bool.not_eq_true']
    exact Bool.eq_false_iff.mpr fun hnm => hid (id_eq_of_before hmn hnm)
  have hbelow : ∀ m ∈ n :: below, ¬ standsAbove n m = true := by
    intro m hm
    have hnm : before n m = true := by
      rcases List.mem_cons.mp hm with rfl | hm
      · simpa using before_total m m
      · exact List.rel_of_pairwise_cons (List.pairwise_append.mp sorted).2.1 hm
    simp [standsAbove, hnm]
  calc above.length
      = (above ++ n :: below).countP (standsAbove n) := by
        rw [List.countP_append, List.countP_eq_length.mpr habove,
          List.countP_eq_zero.mpr hbelow, Nat.add_zero]
    _ = (t.rows.filter (·.recipient = n.recipient)).countP (standsAbove n) := by
        rw [← hsplit, (listing_perm t n.recipient).countP_eq]
    _ = place t n := by
        rw [List.countP_filter, place]
        exact List.countP_congr fun m _ => by simp +contextual [standsAbove]

/-- A notice that does not stand above a page and is not on it stands below a full page. -/
theorem place_of_not_mem_page {t : NoticeTable} {n : Notice} {size offset : Nat}
    (hsize : 0 < size) (h : n ∈ t.rows) (hplace : offset ≤ place t n)
    (hpage : n ∉ page size offset (listing t n.recipient)) :
    offset + size ≤ place t n ∧ (page size offset (listing t n.recipient)).length = size := by
  obtain ⟨above, below, hsplit, hlength⟩ := listing_split h
  have positive : (0 : Int) < (size : Int) := Int.natCast_pos.mpr hsize
  simp only [page, positive, ↓reduceIte, Int.toNat_natCast, hsplit] at hpage ⊢
  rw [List.drop_append_of_le_length (hlength ▸ hplace)] at hpage ⊢
  by_cases hfit : place t n < offset + size
  · exfalso
    apply hpage
    rw [List.take_append, List.length_drop, hlength]
    apply List.mem_append_right
    obtain ⟨rest, hrest⟩ : ∃ rest, size - (place t n - offset) = rest + 1 :=
      ⟨size - (place t n - offset) - 1, by omega⟩
    rw [hrest, List.take_succ_cons]
    exact List.mem_cons_self
  · refine ⟨by omega, ?_⟩
    simp only [List.length_take, List.length_append, List.length_drop, List.length_cons]
    omega

theorem place_insert_le (t : NoticeTable) (a : Notice) (free : t.has a.id = false) (n : Notice) :
    place t n ≤ place (t.insert a free) n := by
  rw [place, place, Table.rows_insert, List.countP_cons]
  exact Nat.le_add_right _ _

theorem place_marked (t : NoticeTable) (id : String) (read : Bool) (n : Notice) :
    place (t.update (marked id read) (id_marked id read)) (marked id read n) = place t n := by
  rw [place, place, Table.rows_update, List.countP_map]
  apply List.countP_congr
  intro m _
  have recipient (a : Notice) : (marked id read a).recipient = a.recipient := by rw [marked_eq]
  simp [standsAbove, before_marked, recipient]

end Store
end Noticeboard
