import Mathlib
import Noticeboard.Proofs.Repository.Operation
import Noticeboard.Proofs.Store.Listing

/-!
Walking through a listing page by page while others insert and flag notices. New rows move the
ones below them down, so that a row may be met twice, but no row that was there at the start is
passed over: at every page it was met before or is still to come.
-/

namespace Noticeboard
namespace Repository

def Operation.Deletes : Operation → Prop
  | delete _ | deleteFor _ => True
  | _ => False

/-- What somebody asks for who fetches page `i` of a listing. -/
abbrev fetch (recipient : String) (size i : Nat) : Operation :=
  .list (some recipient) size (i * size : Nat)

/-- The pages that are fetched from page `i` on, while before each of the following pages
others carry out some operations. The first page that is not full is the last one, and so is
the one after which nothing is said of others. -/
def walk (recipient : String) (size i : Nat) :
    List (List Operation) → Desk → Except Failure (List (List Notice))
  | [], d => ((fetch recipient size i).answer d).map ([·])
  | ops :: rest, d =>
      match (fetch recipient size i).answer d with
      | .error failure => .error failure
      | .ok page =>
          if page.length < size then .ok [page]
          else (walk recipient size (i + 1) rest
            (after ops ((fetch recipient size i).next d))).map (page :: ·)

/-- Whether a walk came to its end, a page that is not full. -/
def Ended (size : Nat) (pages : List (List Notice)) : Prop :=
  ∃ page, pages.getLast? = some page ∧ page.length < size

/-- Whether a notice, but for its flag, still stands at the given place or below it. -/
def StandsFrom (s : Store) (n : Notice) (k : Nat) : Prop :=
  ∃ t, s.notices = some t ∧ ∃ read, { n with read } ∈ t.rows ∧ k ≤ Store.place t { n with read }

/-! ## What others do meanwhile -/

/-- What does not delete leaves the store as it was, or inserts a row, or sets a flag. -/
theorem next_cases {o : Operation} (h : ¬ o.Deletes) (d : Desk) :
    (o.next d).store = d.store ∨
      (∃ draft n, d.store.insert draft = .ok (n, (o.next d).store)) ∨
      ∃ id read, d.store.setRead (some id) (some read) = .ok (o.next d).store := by
  cases o with
  | save draft =>
      obtain ⟨id, _, ⟨n, s', hinsert, _, rfl⟩ | ⟨_, _, _, hstore⟩⟩ := save_cases draft d
      · exact .inr (.inl ⟨_, n, hinsert⟩)
      · exact .inl hstore
  | setRead id read =>
      have hnext := Action.store_setRead id (some read) d
      cases hs : d.store.setRead id (some read) with
      | error task =>
          rw [hs] at hnext
          exact .inl hnext
      | ok s' =>
          rw [hs] at hnext
          cases id with
          | none => exact .inl (hnext.trans (Store.setRead_none_left hs))
          | some id => exact .inr (.inr ⟨id, read, hs.trans (congrArg _ hnext.symm)⟩)
  | find id => exact .inl (Action.store_find id d)
  | list recipient limit offset => exact .inl (Action.store_list recipient limit offset d)
  | countUnread recipient => exact .inl (Action.store_countUnread recipient d)
  | delete _ | deleteFor _ => exact absurd trivial h

theorem noticesFor_next {o : Operation} (h : ¬ o.Deletes) {d : Desk} {access : Access}
    (hworks : (d.store.noticesFor access).isSome) :
    ((o.next d).store.noticesFor access).isSome := by
  obtain ⟨t, ht⟩ := Option.isSome_iff_exists.mp hworks
  rcases next_cases h d with hsame | ⟨draft, n, hinsert⟩ | ⟨id, read, hflag⟩
  · exact hsame ▸ hworks
  · obtain ⟨t', _, _, free, hs'⟩ := Store.insert_eq_ok_iff.mp hinsert
    have hunbroken := (Store.noticesFor_eq_some_iff.mp ht).1
    exact hs' ▸ Option.isSome_iff_exists.mpr
      ⟨_, Store.noticesFor_eq_some_iff.mpr ⟨hunbroken, rfl⟩⟩
  · obtain ⟨t', _, hs'⟩ := Store.setRead_ok hflag
    have hunbroken := (Store.noticesFor_eq_some_iff.mp ht).1
    exact hs' ▸ Option.isSome_iff_exists.mpr
      ⟨_, Store.noticesFor_eq_some_iff.mpr ⟨hunbroken, rfl⟩⟩

theorem standsFrom_next {o : Operation} (h : ¬ o.Deletes) {d : Desk} {n : Notice} {k : Nat}
    (hn : StandsFrom d.store n k) : StandsFrom (o.next d).store n k := by
  obtain ⟨t, ht, read, hrow, hplace⟩ := hn
  rcases next_cases h d with hsame | ⟨draft, m, hinsert⟩ | ⟨id, flag, hflag⟩
  · exact ⟨t, hsame ▸ ht, read, hrow, hplace⟩
  · obtain ⟨t', ht', _, free, hs'⟩ := Store.insert_eq_ok_iff.mp hinsert
    obtain rfl : t' = t := Option.some.inj ((Store.noticesFor_eq_some_iff.mp ht').2.symm.trans ht)
    refine ⟨t'.insert m free, by rw [hs']; rfl, read, List.mem_cons_of_mem _ hrow, ?_⟩
    exact hplace.trans (Store.place_insert_le t' m free _)
  · obtain ⟨t', ht', hs'⟩ := Store.setRead_ok hflag
    obtain rfl : t' = t := Option.some.inj (ht'.symm.trans ht)
    have hmarked : Store.marked id flag { n with read } =
        { n with read := if n.id = id then flag else read } :=
      Store.marked_eq id flag { n with read }
    refine ⟨t'.update _ (Store.id_marked id flag), by rw [hs']; rfl,
      if n.id = id then flag else read, ?_, ?_⟩
    · exact hmarked ▸ List.mem_map_of_mem hrow
    · rw [← hmarked, Store.place_marked]
      exact hplace

theorem noticesFor_after {ops : List Operation} (h : ∀ o ∈ ops, ¬ o.Deletes) {d : Desk}
    {access : Access} (hworks : (d.store.noticesFor access).isSome) :
    ((after ops d).store.noticesFor access).isSome := by
  induction ops generalizing d with
  | nil => exact hworks
  | cons o rest ih =>
      exact ih (fun o' ho' => h o' (List.mem_cons_of_mem _ ho'))
        (noticesFor_next (h o List.mem_cons_self) hworks)

theorem standsFrom_after {ops : List Operation} (h : ∀ o ∈ ops, ¬ o.Deletes) {d : Desk}
    {n : Notice} {k : Nat} (hn : StandsFrom d.store n k) :
    StandsFrom (after ops d).store n k := by
  induction ops generalizing d with
  | nil => exact hn
  | cons o rest ih =>
      exact ih (fun o' ho' => h o' (List.mem_cons_of_mem _ ho'))
        (standsFrom_next (h o List.mem_cons_self) hn)

/-! ## What is fetched -/

theorem store_fetch (recipient : String) (size i : Nat) (d : Desk) :
    ((fetch recipient size i).next d).store = d.store :=
  Action.store_list (some recipient) size (i * size : Nat) d

theorem answer_fetch_eq_ok_iff {recipient : String} {size i : Nat} {d : Desk}
    {rows : List Notice} :
    (fetch recipient size i).answer d = .ok rows ↔
      d.store.list (some recipient) size (i * size : Nat) = .ok rows := by
  have hanswer : (fetch recipient size i).answer d =
      (d.store.list (some recipient) size (i * size : Nat)).mapError .storage :=
    Action.answer_list _ _ _ d
  rw [hanswer]
  cases d.store.list (some recipient) size (i * size : Nat) <;> simp [Except.mapError]

theorem fetch_succeeds (recipient : String) {size i : Nat} {d : Desk}
    (hworks : (d.store.noticesFor .listNotices).isSome) (hsize : Int64.fits size)
    (hoffset : Int64.fits (i * size : Nat)) :
    ∃ rows, (fetch recipient size i).answer d = .ok rows := by
  obtain ⟨t, ht⟩ := Option.isSome_iff_exists.mp hworks
  refine ⟨_, answer_fetch_eq_ok_iff.mpr (Store.list_eq_ok_iff.mpr ⟨t, ht, ?_, ?_, rfl⟩)⟩
  · rw [Store.usable, hsize, Bool.or_true]
  · rw [Store.usable, hoffset, Bool.or_true]

/-- A notice that still stands at the beginning of a page or below it is on that page, unless
the page is full and the notice stands below it. -/
theorem standsFrom_of_fetch {size i : Nat} {d : Desk} {n : Notice} {rows : List Notice}
    (hsize : 0 < size) (hn : StandsFrom d.store n (i * size))
    (h : (fetch n.recipient size i).answer d = .ok rows) :
    (∃ read, { n with read } ∈ rows) ∨
      rows.length = size ∧ StandsFrom d.store n ((i + 1) * size) := by
  obtain ⟨t, ht, read, hrow, hplace⟩ := hn
  obtain ⟨t', ht', _, _, rfl⟩ := Store.list_eq_ok_iff.mp (answer_fetch_eq_ok_iff.mp h)
  obtain rfl : t' = t := Option.some.inj ((Store.noticesFor_eq_some_iff.mp ht').2.symm.trans ht)
  by_cases hmet : { n with read } ∈ Store.page size (i * size : Nat) (Store.listing t' n.recipient)
  · exact .inl ⟨read, hmet⟩
  · obtain ⟨hbelow, hfull⟩ := Store.place_of_not_mem_page hsize hrow hplace hmet
    exact .inr ⟨hfull, t', ht, read, hrow, by rw [Nat.succ_mul]; exact hbelow⟩

/-! ## The whole walk -/

theorem walk_succeeds {recipient : String} {size : Nat} (hsize : Int64.fits size)
    {meanwhile : List (List Operation)} (hkeep : ∀ ops ∈ meanwhile, ∀ o ∈ ops, ¬ o.Deletes)
    {i : Nat} (hoffsets : ∀ j ≤ i + meanwhile.length, Int64.fits (j * size : Nat)) {d : Desk}
    (hworks : (d.store.noticesFor .listNotices).isSome) :
    ∃ pages, walk recipient size i meanwhile d = .ok pages := by
  induction meanwhile generalizing i d with
  | nil =>
      obtain ⟨page, hpage⟩ := fetch_succeeds recipient hworks hsize
        (hoffsets i (Nat.le_add_right _ _))
      exact ⟨[page], by rw [walk, hpage]; rfl⟩
  | cons ops rest ih =>
      obtain ⟨page, hpage⟩ := fetch_succeeds recipient hworks hsize
        (hoffsets i (Nat.le_add_right _ _))
      have hworks' : ((after ops ((fetch recipient size i).next d)).store.noticesFor
          .listNotices).isSome :=
        noticesFor_after (hkeep ops List.mem_cons_self) (by rwa [store_fetch])
      obtain ⟨pages, hpages⟩ := ih (fun ops' h => hkeep ops' (List.mem_cons_of_mem _ h))
        (i := i + 1) (fun j hj => hoffsets j (by rw [List.length_cons]; omega)) hworks'
      by_cases hshort : page.length < size
      · exact ⟨[page], by simp only [walk, hpage, if_pos hshort]⟩
      · exact ⟨page :: pages, by simp only [walk, hpage, if_neg hshort, hpages]; rfl⟩

theorem walk_head {recipient : String} {size i : Nat} {ops : List Operation}
    {rest : List (List Operation)} {d : Desk} {page : List Notice} {pages : List (List Notice)}
    (hpage : (fetch recipient size i).answer d = .ok page)
    (hwalk : walk recipient size i (ops :: rest) d = .ok pages) :
    ∃ later, pages = page :: later := by
  simp only [walk, hpage] at hwalk
  split at hwalk
  · exact ⟨[], (Except.ok.inj hwalk).symm⟩
  · cases hrest : walk recipient size (i + 1) rest
        (after ops ((fetch recipient size i).next d)) with
    | error failure => simp [hrest, Except.map] at hwalk
    | ok later => exact ⟨later, by simpa [hrest, Except.map] using hwalk.symm⟩

/-- The invariant of a walk: a row from its start that was not met yet stands at the beginning
of the next page or below it. -/
theorem walk_meets {size : Nat} (hsize : 0 < size) {meanwhile : List (List Operation)}
    (hkeep : ∀ ops ∈ meanwhile, ∀ o ∈ ops, ¬ o.Deletes) {n : Notice} {i : Nat} {d : Desk}
    (hn : StandsFrom d.store n (i * size)) {pages : List (List Notice)}
    (hwalk : walk n.recipient size i meanwhile d = .ok pages) (hended : Ended size pages) :
    ∃ page ∈ pages, ∃ read, { n with read } ∈ page := by
  induction meanwhile generalizing i d pages with
  | nil =>
      obtain ⟨last, hlast, hshort⟩ := hended
      cases hpage : (fetch n.recipient size i).answer d with
      | error failure =>
          rw [walk, hpage] at hwalk
          cases hwalk
      | ok page =>
          rw [walk, hpage] at hwalk
          obtain rfl := Except.ok.inj hwalk
          obtain rfl : page = last := Option.some.inj hlast
          rcases standsFrom_of_fetch hsize hn hpage with hmet | ⟨hfull, _⟩
          · exact ⟨page, List.mem_singleton_self _, hmet⟩
          · exact absurd hshort (by omega)
  | cons ops rest ih =>
      cases hpage : (fetch n.recipient size i).answer d with
      | error failure => simp [walk, hpage] at hwalk
      | ok page =>
          rcases standsFrom_of_fetch hsize hn hpage with hmet | ⟨hfull, hbelow⟩
          · obtain ⟨later, hpages⟩ := walk_head hpage hwalk
            exact ⟨page, hpages ▸ List.mem_cons_self, hmet⟩
          · have hlong : ¬ page.length < size := by omega
            simp only [walk, hpage, if_neg hlong] at hwalk
            cases hrest : walk n.recipient size (i + 1) rest
                (after ops ((fetch n.recipient size i).next d)) with
            | error failure => simp [hrest, Except.map] at hwalk
            | ok later =>
                obtain rfl : page :: later = pages := by simpa [hrest, Except.map] using hwalk
                have hnext : StandsFrom (after ops ((fetch n.recipient size i).next d)).store n
                    ((i + 1) * size) :=
                  standsFrom_after (hkeep ops List.mem_cons_self) (by rwa [store_fetch])
                obtain ⟨last, hlast, hshort⟩ := hended
                have hended' : Ended size later := by
                  cases later with
                  | nil =>
                      obtain rfl : page = last := Option.some.inj hlast
                      exact absurd hshort hlong
                  | cons second more => exact ⟨last, hlast, hshort⟩
                obtain ⟨met, hmem, hmet⟩ :=
                  ih (fun ops' h => hkeep ops' (List.mem_cons_of_mem _ h)) hnext hrest hended'
                exact ⟨met, List.mem_cons_of_mem _ hmem, hmet⟩

/-- A walk through the pages of a listing meets every notice that was in the listing at its
start, whatever is saved and flagged between the pages, as long as nothing is deleted. Where
listings work, limits and offsets of 64 bits are all that it takes for it to succeed. -/
theorem walk_covers_start (recipient : String) {size : Nat} (hsize : 1 ≤ size)
    {meanwhile : List (List Operation)} (hkeep : ∀ ops ∈ meanwhile, ∀ o ∈ ops, ¬ o.Deletes)
    (d : Desk) :
    ((d.store.noticesFor .listNotices).isSome → Int64.fits size →
      (∀ i ≤ meanwhile.length, Int64.fits (i * size : Nat)) →
      ∃ pages, walk recipient size 0 meanwhile d = .ok pages) ∧
    ∀ pages, walk recipient size 0 meanwhile d = .ok pages → Ended size pages →
      ∀ n, d.store.noticeAt n.id = some n → n.recipient = recipient →
        ∃ page ∈ pages, ∃ read, { n with read } ∈ page := by
  constructor
  · intro hworks hlimit hoffsets
    exact walk_succeeds hlimit hkeep (fun j hj => hoffsets j (by omega)) hworks
  · intro pages hwalk hended n hn hrecipient
    subst hrecipient
    obtain ⟨t, ht, hfind⟩ := Option.bind_eq_some_iff.mp hn
    have hrow : n ∈ t.rows := (Table.find?_eq_some_iff.mp hfind).1
    exact walk_meets hsize hkeep ⟨t, ht, n.read, hrow, by omega⟩ hwalk hended

/-- Two notices of one recipient, and a third that comes while they are listed. -/
def older : Notice := ⟨"b1", "ann", "hello", "bob", 1, false, "", "", ""⟩

def newer : Notice := ⟨"b2", "ann", "hello again", "bob", 2, true, "", "", ""⟩

def newest : Notice := ⟨"b3", "ann", "and again", "bob", 3, false, "", "", ""⟩

def listedDesk : Desk where
  store := { notices := some ⟨[older, newer], by decide⟩, boards := some .empty, flaws := [] }
  clock := 0
  supply := fun _ => 0
  drawn := 0
  settings := .error .originsNotJson
  log := []

theorem walk_meets_older :
    (∀ ops ∈ [[Operation.save newest.draft, .setRead (some "b1") true], [], []],
      ∀ o ∈ ops, ¬ o.Deletes) ∧
    walk "ann" 1 0 [[.save newest.draft, .setRead (some "b1") true], [], []] listedDesk =
      .ok [[newer], [newer], [{ older with read := true }], []] ∧
    ∃ page ∈ [[newer], [newer], [{ older with read := true }], []],
      ∃ read, { older with read } ∈ page := by
  have hkeep : ∀ ops ∈ [[Operation.save newest.draft, .setRead (some "b1") true], [], []],
      ∀ o ∈ ops, ¬ o.Deletes := by
    simp [Operation.Deletes]
  have hwalk : walk "ann" 1 0 [[.save newest.draft, .setRead (some "b1") true], [], []]
      listedDesk = .ok [[newer], [newer], [{ older with read := true }], []] := by
    cbv
  exact ⟨hkeep, hwalk, (walk_covers_start "ann" (le_refl 1) hkeep listedDesk).2 _ hwalk
    ⟨[], rfl, by decide⟩ older rfl rfl⟩

end Repository
end Noticeboard
