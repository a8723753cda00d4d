import Mathlib
import Noticeboard.Proofs.Service.Calls
import Noticeboard.Proofs.Service.Operation

/-!
Rows are written once. While a notice is there, none of its fields ever changes but its flag,
and that only from unread to read. Every operation either inserts nothing or removes nothing,
so that within it no notice can be removed and put back under the same identifier.
-/

namespace Noticeboard

/-- Whether `m` is the notice `n` as it was, or read since. -/
def Notice.Becomes (n m : Notice) : Prop :=
  m = { n with read := m.read } ∧ (n.read = true → m.read = true)

namespace Notice

theorem becomes_refl (n : Notice) : n.Becomes n := ⟨rfl, fun h => h⟩

theorem becomes_trans {n m k : Notice} (hnm : n.Becomes m) (hmk : m.Becomes k) :
    n.Becomes k := by
  refine ⟨?_, fun h => hmk.2 (hnm.2 h)⟩
  rw [hmk.1, hnm.1]

theorem becomes_marked (id : String) (n : Notice) : n.Becomes (Store.marked id true n) := by
  rw [Store.marked_eq]
  refine ⟨rfl, fun h => ?_⟩
  simp [h]

end Notice

namespace Store

/-- Every row stays, and becomes at most read. -/
def Stays (s s' : Store) : Prop :=
  ∀ id n, s.noticeAt id = some n → ∃ m, s'.noticeAt id = some m ∧ n.Becomes m

/-- No row is new, and every row became at most read. -/
def Stems (s s' : Store) : Prop :=
  ∀ id m, s'.noticeAt id = some m → ∃ n, s.noticeAt id = some n ∧ n.Becomes m

/-- A row that is there before and after became at most read. -/
def Lasts (s s' : Store) : Prop :=
  ∀ id n m, s.noticeAt id = some n → s'.noticeAt id = some m → n.Becomes m

theorem stays_refl (s : Store) : s.Stays s := fun _ n h => ⟨n, h, n.becomes_refl⟩

theorem stems_refl (s : Store) : s.Stems s := fun _ m h => ⟨m, h, m.becomes_refl⟩

theorem stays_trans {s s' s'' : Store} (h : s.Stays s') (h' : s'.Stays s'') : s.Stays s'' := by
  intro id n hn
  obtain ⟨m, hm, hnm⟩ := h id n hn
  obtain ⟨k, hk, hmk⟩ := h' id m hm
  exact ⟨k, hk, Notice.becomes_trans hnm hmk⟩

theorem stems_trans {s s' s'' : Store} (h : s.Stems s') (h' : s'.Stems s'') : s.Stems s'' := by
  intro id k hk
  obtain ⟨m, hm, hmk⟩ := h' id k hk
  obtain ⟨n, hn, hnm⟩ := h id m hm
  exact ⟨n, hn, Notice.becomes_trans hnm hmk⟩

theorem lasts_of_stays {s s' : Store} (h : s.Stays s') : s.Lasts s' := by
  intro id n m hn hm
  obtain ⟨m', hm', hnm⟩ := h id n hn
  exact Option.some.inj (hm'.symm.trans hm) ▸ hnm

theorem lasts_of_stems {s s' : Store} (h : s.Stems s') : s.Lasts s' := by
  intro id n m hn hm
  obtain ⟨n', hn', hnm⟩ := h id m hm
  exact Option.some.inj (hn'.symm.trans hn) ▸ hnm

end Store

/-! ## Calls -/

def Call.OnlyMarksRead : Call → Prop
  | .setRead _ (some false) => False
  | _ => True

def Call.RemovesNone : Call → Prop
  | .delete _ | .deleteFor _ => False
  | c => c.OnlyMarksRead

def Call.InsertsNone : Call → Prop
  | .insert _ => False
  | c => c.OnlyMarksRead

theorem stays_of_effect {s s' : Store} {c : Call} (h : Effect s c s') (hc : c.RemovesNone) :
    s.Stays s' := by
  cases h with
  | none => exact s.stays_refl
  | @inserted d n _ hinsert =>
      intro id m hm
      have other : n.id ≠ id := by
        rintro rfl
        rw [Store.noticeAt_free hinsert] at hm
        cases hm
      exact ⟨m, by rw [Store.noticeAt_insert hinsert, if_neg other, hm], m.becomes_refl⟩
  | @flagged id read _ hflag =>
      cases read with
      | false => exact hc.elim
      | true =>
          intro k n hn
          exact ⟨_, by rw [Store.noticeAt_setRead hflag, hn]; rfl, n.becomes_marked id⟩
  | deleted _ | deletedFor _ => exact hc.elim
  | boarded => exact s.stays_refl

theorem stems_of_effect {s s' : Store} {c : Call} (h : Effect s c s') (hc : c.InsertsNone) :
    s.Stems s' := by
  cases h with
  | none => exact s.stems_refl
  | inserted _ => exact hc.elim
  | @flagged id read _ hflag =>
      cases read with
      | false => exact hc.elim
      | true =>
          intro k m hm
          rw [Store.noticeAt_setRead hflag] at hm
          obtain ⟨n, hn, rfl⟩ := Option.map_eq_some_iff.mp hm
          exact ⟨n, hn, n.becomes_marked id⟩
  | deleted hdelete | deletedFor hdelete =>
      intro k m hm
      rw [Store.noticeAt_removeWhere hdelete] at hm
      exact ⟨m, (Option.filter_eq_some_iff.mp hm).1, m.becomes_refl⟩
  | boarded => exact s.stems_refl

/-! ## Operations -/

/-- The store after a plan is related to every store before by what each call does. -/
theorem stores_related {α : Type} {R : Store → Store → Prop} (refl : ∀ s, R s s)
    (trans : ∀ {s s' s''}, R s s' → R s' s'' → R s s'') {P : Call → Prop}
    (step : ∀ d c, P c → R d.store (Desk.perform d c).2.store) {p : Plan α} (h : p.Makes P)
    (d : Desk) :
    (d.store :: p.stores d).Pairwise R ∧ ∀ s ∈ d.store :: p.stores d, R s (p.run d).2.store := by
  induction p generalizing d with
  | done a => exact ⟨List.pairwise_singleton _ _, by simp [Plan.stores, refl]⟩
  | call c next ih =>
      obtain ⟨hpairs, hlast⟩ := ih (d.perform c).1 (h.2 _) (d.perform c).2
      have hstep := step d c h.1
      constructor
      · refine List.pairwise_cons.mpr ⟨fun s hs => ?_, hpairs⟩
        rcases List.mem_cons.mp hs with rfl | hs
        · exact hstep
        · exact trans hstep (List.rel_of_pairwise_cons hpairs hs)
      · intro s hs
        rcases List.mem_cons.mp hs with rfl | hs
        · exact trans hstep (hlast _ List.mem_cons_self)
        · exact hlast s hs

namespace Service

theorem removesNone_of_reads (c : Call) (h : c.Reads) : c.RemovesNone := by
  cases c with
  | delete _ | deleteFor _ | setRead _ _ => exact h.elim
  | _ => trivial

theorem insertsNone_of_reads (c : Call) (h : c.Reads) : c.InsertsNone := by
  cases c with
  | insert _ | setRead _ _ => exact h.elim
  | _ => trivial

theorem removesNone_of_silent (c : Call) (h : c.Silent) : c.RemovesNone :=
  removesNone_of_reads c (c.reads_of_silent h)

theorem serve_makes (app : Http.App) (r : Http.Request) (endpoint : Http.Endpoint)
    (id : String) :
    (ExceptT.run (app.serve r endpoint id)).Makes Call.RemovesNone ∨
      (ExceptT.run (app.serve r endpoint id)).Makes Call.InsertsNone := by
  by_cases hdelete : endpoint = .delete
  · subst hdelete
    exact .inr (Http.App.makes_serve insertsNone_of_reads app r id (fun h => by cases h)
      (fun _ _ => trivial) fun _ _ => trivial)
  · exact .inl (Http.App.makes_serve removesNone_of_reads app r id (fun _ _ => trivial)
      (fun _ _ => trivial) fun h => absurd h hdelete)

/-- Every operation inserts nothing or removes nothing, and none marks a notice as unread. -/
theorem operation_makes (o : Operation) :
    o.plan.Makes Call.RemovesNone ∨ o.plan.Makes Call.InsertsNone := by
  cases o with
  | create draft => exact .inl (makes_create removesNone_of_silent (fun _ => trivial) _)
  | createNew recipient message sender board card =>
      exact .inl (makes_createNew removesNone_of_silent (fun _ => trivial) _ _ _ _ _)
  | notifyAdded actor recipient board =>
      exact .inl (makes_notifyAdded removesNone_of_silent (fun _ => trivial) _ _ _)
  | notifyCard event actor recipient board card title =>
      exact .inl (makes_notifyCard removesNone_of_silent (fun _ => trivial) _ _ _ _ _ _)
  | list recipient limit offset =>
      exact .inl (makes_list removesNone_of_silent (fun _ _ _ _ => trivial) _ _)
  | countUnread recipient => exact .inl (makes_countUnread fun _ _ => trivial)
  | find id => exact .inl (makes_find fun _ _ => trivial)
  | markRead id => exact .inl (makes_markRead fun _ _ => trivial)
  | markAllRead recipient limit =>
      exact .inl (makes_markAllRead removesNone_of_silent (fun _ _ _ _ => trivial)
        (fun _ => trivial) _)
  | delete id => exact .inr (makes_delete fun _ _ => trivial)
  | deleteFor recipient => exact .inr (makes_deleteFor fun _ _ => trivial)
  | insertBoard id title => exact .inl (Plan.makes_ofExcept (Plan.makes_ask trivial))
  | respond app r =>
      cases hroute : Http.route r.verb r.path with
      | served endpoint id =>
          refine (serve_makes app r endpoint id).imp ?_ ?_ <;>
          · intro h
            apply Http.App.makes_respond
            intro endpoint' id' hroute'
            cases hroute.symm.trans hroute'
            exact h
      | otherVerb _ | unknown =>
          refine .inl (Http.App.makes_respond app r fun _ _ h => ?_)
          cases hroute.symm.trans h

/-- Within one turn, and between any moment of it and its end, a row that is there at both
moments became at most read. -/
theorem turn_lasts (t : Turn) (s : Store) :
    (⟨s, true⟩ :: t.moments s).Pairwise (fun x y => x.store.Lasts y.store) ∧
      ∀ x ∈ ⟨s, true⟩ :: t.moments s, x.store.Lasts (t.after s) := by
  have related : ((t.desk s).store :: t.operation.plan.stores (t.desk s)).Pairwise Store.Lasts ∧
      ∀ x ∈ (t.desk s).store :: t.operation.plan.stores (t.desk s), x.Lasts (t.after s) := by
    rcases operation_makes t.operation with h | h
    · obtain ⟨hpairs, hlast⟩ := stores_related Store.stays_refl Store.stays_trans
        (fun d c => stays_of_effect (d.effect_perform c)) h (t.desk s)
      exact ⟨hpairs.imp Store.lasts_of_stays, fun x hx => Store.lasts_of_stays (hlast x hx)⟩
    · obtain ⟨hpairs, hlast⟩ := stores_related Store.stems_refl Store.stems_trans
        (fun d c => stems_of_effect (d.effect_perform c)) h (t.desk s)
      exact ⟨hpairs.imp Store.lasts_of_stems, fun x hx => Store.lasts_of_stems (hlast x hx)⟩
  -- A turn begins with the rows of the store, whatever is wrong with it for its time.
  have begins (s' : Store) : (t.desk s).store.Lasts s' ↔ s.Lasts s' := Iff.rfl
  obtain ⟨hpairs, hlast⟩ := related
  rw [List.pairwise_cons] at hpairs
  constructor
  · refine List.pairwise_cons.mpr ⟨fun y hy => ?_, List.pairwise_map.mpr hpairs.2⟩
    obtain ⟨s', hs', rfl⟩ := List.mem_map.mp hy
    exact (begins s').mp (hpairs.1 s' hs')
  · intro x hx
    rcases List.mem_cons.mp hx with rfl | hx
    · exact (begins _).mp (hlast _ List.mem_cons_self)
    · obtain ⟨s', hs', rfl⟩ := List.mem_map.mp hx
      exact hlast s' (List.mem_cons_of_mem _ hs')

def noticeAt (run : List Moment) (i : Nat) (id : String) : Option Notice :=
  run[i]?.bind (·.store.noticeAt id)

theorem lasts_of_pairwise {run : List Moment}
    (h : run.Pairwise fun x y => x.store.Lasts y.store) {i j : Nat} (hij : i ≤ j) {id : String}
    {n m : Notice} (hn : noticeAt run i id = some n) (hm : noticeAt run j id = some m) :
    n.Becomes m := by
  obtain ⟨x, hx, hn'⟩ := Option.bind_eq_some_iff.mp hn
  obtain ⟨y, hy, hm'⟩ := Option.bind_eq_some_iff.mp hm
  rcases Nat.eq_or_lt_of_le hij with rfl | hlt
  · obtain rfl : n = m := Option.some.inj (hn.symm.trans hm)
    exact n.becomes_refl
  · obtain ⟨hi, rfl⟩ := List.getElem?_eq_some_iff.mp hx
    obtain ⟨hj, rfl⟩ := List.getElem?_eq_some_iff.mp hy
    exact List.pairwise_iff_getElem.mp h i j hi hj hlt id n m hn' hm'

theorem moments_head (turns : List Turn) (s : Store) :
    (moments turns s)[0]? = some ⟨s, true⟩ := by
  cases turns <;> rfl

/-- Between two moments of a run at which a notice is there, and in between at every moment at
which no operation is under way, it became at most read: every other field is as it was. -/
theorem notices_written_once (turns : List Turn) (s : Store) (id : String) {i j : Nat}
    (hij : i ≤ j) {n m : Notice} (hn : noticeAt (moments turns s) i id = some n)
    (hm : noticeAt (moments turns s) j id = some m)
    (hpresent : ∀ k x, i ≤ k → k ≤ j → (moments turns s)[k]? = some x → x.idle →
      (x.store.noticeAt id).isSome) :
    n.Becomes m := by
  induction turns generalizing s i j n with
  | nil => exact lasts_of_pairwise (List.pairwise_singleton _ _) hij hn hm
  | cons t rest ih =>
      obtain ⟨hpairs, hlast⟩ := turn_lasts t s
      have hsplit : moments (t :: rest) s =
          (⟨s, true⟩ :: t.moments s) ++ moments rest (t.after s) := rfl
      rw [hsplit] at hn hm hpresent
      generalize hturn : (⟨s, true⟩ :: t.moments s : List Moment) = turn at *
      have early {k : Nat} (hk : k < turn.length) :
          (turn ++ moments rest (t.after s))[k]? = turn[k]? :=
        List.getElem?_append_left hk
      have late {k : Nat} (hk : turn.length ≤ k) :
          (turn ++ moments rest (t.after s))[k]? = (moments rest (t.after s))[k - turn.length]? :=
        List.getElem?_append_right hk
      by_cases hj : j < turn.length
      · rw [noticeAt, early (by omega)] at hn
        rw [noticeAt, early hj] at hm
        exact lasts_of_pairwise hpairs hij hn hm
      · rw [noticeAt, late (by omega)] at hm
        have later (k : Nat) (x : Moment) (hk : i ≤ k + turn.length) (hkj : k ≤ j - turn.length)
            (hx : (moments rest (t.after s))[k]? = some x) (hidle : x.idle) :
            (x.store.noticeAt id).isSome := by
          apply hpresent (k + turn.length) x hk (by omega) _ hidle
          rw [late (by omega), Nat.add_sub_cancel]
          exact hx
        by_cases hi : i < turn.length
        · -- The turn ends in between, and then the notice is there.
          obtain ⟨r, hr⟩ := Option.isSome_iff_exists.mp
            (later 0 ⟨t.after s, true⟩ (by omega) (by omega) (moments_head rest _) rfl)
          rw [noticeAt, early hi] at hn
          obtain ⟨x, hx, hn'⟩ := Option.bind_eq_some_iff.mp hn
          have hnr : n.Becomes r := hlast x (List.mem_of_getElem? hx) id n r hn' hr
          refine Notice.becomes_trans hnr (ih (t.after s) (Nat.zero_le _) ?_ hm ?_)
          · rw [noticeAt, moments_head]
            exact hr
          · exact fun k x _ hkj hx hidle => later k x (by omega) hkj hx hidle
        · rw [noticeAt, late (by omega)] at hn
          exact ih (t.after s) (by omega) hn hm
            fun k x hk hkj hx hidle => later k x (by omega) hkj hx hidle

def plainTurn (operation : Operation) : Turn where
  operation
  clock := 5
  supply := fun _ => 0
  settings := .error .originsNotJson
  flaws := []

/-- A notice is created and marked as read, and then its identifier is asked for again. -/
def threeTurns : List Turn :=
  let draft : Notice := ⟨"b1", "ann", "hello", "bob", 0, false, "", "", ""⟩
  [plainTurn (.create draft.draft), plainTurn (.markRead (some "b1")),
    plainTurn (.create { draft with message := "hello again" }.draft)]

theorem created_notice_becomes_read :
    noticeAt (moments threeTurns .empty) 2 "b1" =
      some ⟨"b1", "ann", "hello", "bob", 5, false, "", "", ""⟩ ∧
    noticeAt (moments threeTurns .empty) 8 "b1" =
      some ⟨"b1", "ann", "hello", "bob", 5, true, "", "", ""⟩ ∧
    Notice.Becomes ⟨"b1", "ann", "hello", "bob", 5, false, "", "", ""⟩
      ⟨"b1", "ann", "hello", "bob", 5, true, "", "", ""⟩ := by
  have first : noticeAt (moments threeTurns .empty) 2 "b1" =
      some ⟨"b1", "ann", "hello", "bob", 5, false, "", "", ""⟩ := by cbv
  have last : noticeAt (moments threeTurns .empty) 8 "b1" =
      some ⟨"b1", "ann", "hello", "bob", 5, true, "", "", ""⟩ := by cbv
  have present (k : Nat) (hi : 2 ≤ k) (hj : k ≤ 8) :
      (noticeAt (moments threeTurns .empty) k "b1").isSome = true := by
    interval_cases k <;> cbv
  refine ⟨first, last, notices_written_once threeTurns .empty "b1" (by decide) first last ?_⟩
  intro k x hi hj hx _
  have hk := present k hi hj
  rwa [noticeAt, hx] at hk

end Service
end Noticeboard
