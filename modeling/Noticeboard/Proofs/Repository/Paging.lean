import Noticeboard.Proofs.Repository.Walk
import Noticeboard.Proofs.Service.Creation

/-!
Listings and their pages. A listing shows every notice of its recipient once, newest first, and
notices of one moment by identifier, so that it depends on the rows alone and not on the order in
which they came in. A page is cut out of the listing, and the pages of one size put end to end are
the listing again.
-/

namespace Noticeboard
namespace Int64

theorem fits_of_le {m n : Nat} (h : m ≤ n) (hn : fits n) : fits m := by
  rw [fits_iff] at hn ⊢
  simp only [least, greatest] at hn ⊢
  omega

end Int64

namespace Store

/-! ## The strict order -/

def codePoints (s : String) : List Nat := s.toList.map Char.toNat

/-- Whether `a` is newer than `b`, or of the same moment and its identifier is later by code
points. -/
def Precedes (a b : Notice) : Prop :=
  b.createdAt < a.createdAt ∨ a.createdAt = b.createdAt ∧ codePoints b.id < codePoints a.id

theorem codePoints_lt {s s' : String} (h : s < s') : codePoints s < codePoints s' :=
  List.map_lt (fun _ _ hc => hc) (String.lt_iff_toList_lt.mp h)

theorem precedes_of_before {a b : Notice} (h : before a b = true) (hid : a.id ≠ b.id) :
    Precedes a b := by
  rcases before_iff.mp h with hnewer | ⟨hmoment, hlater⟩
  · exact .inl hnewer
  · exact .inr ⟨hmoment, codePoints_lt (lt_of_le_of_ne hlater hid.symm)⟩

theorem precedes_asymm {a b : Notice} (hab : Precedes a b) : ¬ Precedes b a := by
  rintro (hba | ⟨heq, hba⟩) <;> rcases hab with hab | ⟨heq', hab⟩
  · exact hab.asymm hba
  · omega
  · omega
  · exact lt_asymm hab hba

theorem pairwise_precedes (t : NoticeTable) (recipient : String) :
    (listing t recipient).Pairwise Precedes :=
  (pairwise_listing t recipient).imp₂ (fun _ _ => precedes_of_before)
    (List.pairwise_map.mp (nodup_listing_id t recipient))

theorem nodup_listing (t : NoticeTable) (recipient : String) : (listing t recipient).Nodup :=
  (nodup_listing_id t recipient).of_map

/-- The order is strict, so the rows of the recipient settle the listing. -/
theorem listing_congr {t t' : NoticeTable} {recipient : String}
    (h : ∀ n : Notice, n.recipient = recipient → (n ∈ t.rows ↔ n ∈ t'.rows)) :
    listing t recipient = listing t' recipient := by
  have hmem (n : Notice) : n ∈ listing t recipient ↔ n ∈ listing t' recipient := by
    rw [mem_listing_iff, mem_listing_iff]
    exact and_congr_left fun hn => h n hn
  have hperm : (listing t recipient).Perm (listing t' recipient) :=
    (List.perm_ext_iff_of_nodup (nodup_listing t recipient) (nodup_listing t' recipient)).mpr hmem
  exact hperm.eq_of_pairwise (fun _ _ _ _ hab hba => absurd hba (precedes_asymm hab))
    (pairwise_precedes t recipient) (pairwise_precedes t' recipient)

/-! ## Pages -/

theorem page_of_size {size : Nat} (hsize : 1 ≤ size) (offset : Nat) (rows : List Notice) :
    page size offset rows = (rows.drop offset).take size := by
  have positive : (0 : Int) < (size : Int) := by omega
  rw [page, if_pos positive, Int.toNat_natCast, Int.toNat_natCast]

theorem flatten_pages (size count : Nat) (rows : List Notice) :
    ((List.range count).map fun i => (rows.drop (i * size)).take size).flatten =
      rows.take (count * size) := by
  induction count with
  | zero => simp
  | succ count ih =>
      rw [List.range_succ, List.map_append, List.flatten_append, ih, Nat.succ_mul, List.take_add]
      simp

theorem noticeAt_eq_some_iff {s : Store} {t : NoticeTable} (ht : s.notices = some t) {n : Notice} :
    s.noticeAt n.id = some n ↔ n ∈ t.rows := by
  rw [noticeAt, ht, Option.bind_some, Table.find?_eq_some_iff]
  exact and_iff_left rfl

end Store

namespace Repository

variable {d : Desk} {t : NoticeTable}

theorem answer_list (ht : d.store.noticesFor .listNotices = some t) (recipient : String)
    {limit offset : Int} (hlimit : Int64.fits limit) (hoffset : Int64.fits offset) :
    (Operation.list (some recipient) limit offset).answer d =
      .ok (Store.page limit offset (Store.listing t recipient)) := by
  have hlist : d.store.list (some recipient) limit offset =
      .ok (Store.page limit offset (Store.listing t recipient)) :=
    Store.list_eq_ok_iff.mpr
      ⟨t, ht, Store.usable_of_fits hlimit, Store.usable_of_fits hoffset, rfl⟩
  rw [Operation.answer, Operation.action, Action.answer_list, hlist]
  rfl

theorem mapM_ok {α β ε : Type} {f : α → Except ε β} {g : α → β} {as : List α}
    (h : ∀ a ∈ as, f a = .ok (g a)) : as.mapM f = .ok (as.map g) := by
  induction as with
  | nil => rfl
  | cons a rest ih =>
      rw [List.mapM_cons, h a List.mem_cons_self, ih fun b hb => h b (List.mem_cons_of_mem a hb)]
      rfl

/-- The first pages of a listing, none of which lies beyond 64 bits. -/
theorem mapM_fetch (ht : d.store.noticesFor .listNotices = some t) (recipient : String)
    {size count : Nat} (hsize : 1 ≤ size) (hlimit : Int64.fits size)
    (hoffsets : ∀ i < count, Int64.fits (i * size : Nat)) :
    (List.range count).mapM (fun i => (fetch recipient size i).answer d) =
      .ok ((List.range count).map fun i =>
        ((Store.listing t recipient).drop (i * size)).take size) := by
  apply mapM_ok
  intro i hi
  rw [answer_list ht recipient hlimit (hoffsets i (List.mem_range.mp hi)),
    Store.page_of_size hsize]

/-- What the listing of a user's notices is on a desk, where `whole` is the one without bounds. -/
structure Listed (d : Desk) (user : String) (whole : List Notice) : Prop where
  unbounded : ∀ limit offset : Int, Int64.fits limit → Int64.fits offset → limit ≤ 0 →
    offset ≤ 0 → (Operation.list (some user) limit offset).answer d = .ok whole
  rows : ∀ n, n ∈ whole ↔ d.store.noticeAt n.id = some n ∧ n.recipient = user
  once : whole.Nodup
  ordered : whole.Pairwise Store.Precedes
  /-- Another desk with the same notices of the user's has the same listing, however they came
  in. -/
  settled : ∀ d' : Desk, d'.store.Intact →
    (∀ n : Notice, n.recipient = user →
      (d'.store.noticeAt n.id = some n ↔ d.store.noticeAt n.id = some n)) →
    ∀ limit offset : Int, Int64.fits limit → Int64.fits offset →
      (Operation.list (some user) limit offset).answer d' =
        (Operation.list (some user) limit offset).answer d
  page : ∀ limit offset : Int, Int64.fits limit → Int64.fits offset →
    (Operation.list (some user) limit offset).answer d =
      .ok (if 0 < limit then (whole.drop (max offset 0).toNat).take limit.toNat
        else whole.drop (max offset 0).toNat)
  /-- The first pages of a size are the beginning of the listing, and all of it if they reach its
  end. -/
  tiled : ∀ size count : Nat, 1 ≤ size → Int64.fits size →
    (∀ i < count, Int64.fits (i * size : Nat)) →
    ∃ pages, (List.range count).mapM (fun i => (fetch user size i).answer d) = .ok pages ∧
      pages.flatten = whole.take (count * size) ∧
      (whole.length ≤ count * size → pages.flatten = whole)
  /-- As many pages as it takes can be asked for, unless there are more notices than an offset can
  count. -/
  complete : ∀ size : Nat, 1 ≤ size → Int64.fits size → Int64.fits whole.length →
    ∃ pages, (List.range (whole.length / size + 1)).mapM
        (fun i => (fetch user size i).answer d) = .ok pages ∧
      pages.flatten = whole

/-- On a store that is intact, a user's notices are listed once each and in a strict order, and the
listing is what its pages make up. -/
theorem pages_make_up_listing (h : d.store.Intact) (user : String) :
    ∃ whole, Listed d user whole := by
  obtain ⟨t, ht⟩ := Option.isSome_iff_exists.mp h.notices
  have hlist : d.store.noticesFor .listNotices = some t := (h.noticesFor _).trans ht
  refine ⟨Store.listing t user, ?unbounded, fun n => ?rows, Store.nodup_listing t user,
    Store.pairwise_precedes t user, ?settled, ?page, ?tiled, ?complete⟩
  case unbounded =>
    intro limit offset hlimit hoffset hnone hstart
    rw [answer_list hlist user hlimit hoffset, Store.page_unbounded hnone hstart]
  case rows => rw [Store.mem_listing_iff, Store.noticeAt_eq_some_iff ht]
  case settled =>
    intro d' h' hsame limit offset hlimit hoffset
    obtain ⟨t', ht'⟩ := Option.isSome_iff_exists.mp h'.notices
    have hrows (n : Notice) (hn : n.recipient = user) : n ∈ t'.rows ↔ n ∈ t.rows := by
      rw [← Store.noticeAt_eq_some_iff ht', ← Store.noticeAt_eq_some_iff ht]
      exact hsame n hn
    rw [answer_list ((h'.noticesFor _).trans ht') user hlimit hoffset,
      answer_list hlist user hlimit hoffset, Store.listing_congr hrows]
  case page =>
    intro limit offset hlimit hoffset
    have hstart : (max offset 0).toNat = offset.toNat := by omega
    rw [answer_list hlist user hlimit hoffset, hstart]
    rfl
  case tiled =>
    intro size count hsize hlimit hoffsets
    have hflat := Store.flatten_pages size count (Store.listing t user)
    refine ⟨_, mapM_fetch hlist user hsize hlimit hoffsets, hflat, fun hall => ?_⟩
    rw [hflat, List.take_of_length_le hall]
  case complete =>
    intro size hsize hlimit hlength
    have hoffsets : ∀ i < (Store.listing t user).length / size + 1,
        Int64.fits (i * size : Nat) := fun i hi =>
      Int64.fits_of_le ((Nat.mul_le_mul_right size (Nat.le_of_lt_succ hi)).trans
        (Nat.div_mul_le_self _ size)) hlength
    have hall := (Nat.lt_mul_div_succ (Store.listing t user).length hsize).le
    rw [Nat.mul_comm] at hall
    refine ⟨_, mapM_fetch hlist user hsize hlimit hoffsets, ?_⟩
    rw [Store.flatten_pages, List.take_of_length_le hall]

/-- A desk on which nothing has happened. -/
def emptyDesk : Desk where
  store := .empty
  clock := 0
  supply := fun _ => 0
  drawn := 0
  settings := .error .originsNotJson
  log := []

/-- Two notices of one moment, and an older one that is saved between them. -/
def tiedSaves : List Operation :=
  [.save (Notice.draft ⟨"b1", "ann", "hello", "bob", 2, false, "", "", ""⟩),
    .save (Notice.draft ⟨"b9", "ann", "hello", "bob", 1, false, "", "", ""⟩),
    .save (Notice.draft ⟨"b2", "ann", "hello", "bob", 2, true, "", "", ""⟩)]

theorem tied_notices_paged :
    Reachable (after tiedSaves emptyDesk).store ∧ (after tiedSaves emptyDesk).store.Intact ∧
    ∃ whole, Listed (after tiedSaves emptyDesk) "ann" whole ∧
      whole.map Notice.id = ["b2", "b1", "b9"] := by
  have hreachable : Reachable (after tiedSaves emptyDesk).store := .run _ (.run _ (.run _ .empty))
  obtain ⟨whole, hwhole⟩ := pages_make_up_listing hreachable.intact "ann"
  refine ⟨hreachable, hreachable.intact, whole, hwhole, ?_⟩
  have hanswer := hwhole.unbounded 0 0 rfl rfl (le_refl 0) (le_refl 0)
  have hids : ((Operation.list (some "ann") 0 0).answer (after tiedSaves emptyDesk)).map
      (·.map Notice.id) = .ok ["b2", "b1", "b9"] := by
    cbv
  rw [hanswer] at hids
  exact Except.ok.inj hids

end Repository
end Noticeboard
