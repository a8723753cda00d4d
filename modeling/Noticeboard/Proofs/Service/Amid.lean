import Noticeboard.Proofs.Service.Calls

/-!
Plans amid others. Between two calls of a plan others may make theirs, so that the plan finds
another store at each of its calls. On given terms, which bind the others as well, a plan is judged
by its calls at every store that it may find. What is shown of it then holds whatever comes between
its calls, as long as the others keep to the terms.
-/

namespace Noticeboard

/-- A call that was made, and the answer to it. -/
structure Exchange where
  call : Call
  answer : call.Answer

/-- The notices that an answer shows. -/
def Exchange.shown : Exchange → List Notice
  | ⟨.list _ _ _, .ok notices⟩ => notices
  | ⟨.find _, .ok (some n)⟩ => [n]
  | _ => []

def shown (past : List Exchange) : List Notice := past.flatMap Exchange.shown

theorem shown_append (past later : List Exchange) :
    shown (past ++ later) = shown past ++ shown later :=
  List.flatMap_append

theorem mem_shown_append {past : List Exchange} {n : Notice} (h : n ∈ shown past)
    (later : List Exchange) : n ∈ shown (past ++ later) := by
  rw [shown_append]
  exact List.mem_append_left _ h

theorem shown_concat (past : List Exchange) (e : Exchange) :
    shown (past ++ [e]) = shown past ++ e.shown := by
  rw [shown_append, shown, shown, List.flatMap_singleton]

def Desk.withStore (d : Desk) (store : Store) : Desk := { d with store }

/-- The terms on which a plan runs amid others. Both sides may depend on what the plan has asked
and was answered so far. -/
structure Terms where
  /-- How others may change the store between two calls of the plan. -/
  others : List Exchange → Store → Store → Prop
  /-- Which calls the plan may make, on the store that it finds. -/
  own : List Exchange → Store → Call → Prop
  trans {past : List Exchange} {s s' s'' : Store} (h : others past s s') (h' : others past s' s'') :
    others past s s''

namespace Plan

variable {α β ε : Type} {T : Terms} {Q : List Exchange → α → Desk → Prop}

/-- Whether a plan keeps to the terms and ends with `Q`, whatever others do who keep to them. -/
def Amid (T : Terms) (Q : List Exchange → α → Desk → Prop) : Plan α → List Exchange → Desk → Prop
  | done a, past, d => Q past a d
  | call c next, past, d => ∀ s, T.others past d.store s → T.own past s c ∧
      (next ((d.withStore s).perform c).1).Amid T Q
        (past ++ [⟨c, ((d.withStore s).perform c).1⟩]) ((d.withStore s).perform c).2

theorem amid_bind {R : List Exchange → α → Desk → Prop} {Q : List Exchange → β → Desk → Prop}
    {p : Plan α} {f : α → Plan β} {past : List Exchange} {d : Desk} (hp : p.Amid T R past d)
    (hf : ∀ past a d, R past a d → (f a).Amid T Q past d) : (p >>= f).Amid T Q past d := by
  induction p generalizing past d with
  | done a => exact hf _ _ _ hp
  | call c next ih =>
      intro s hs
      obtain ⟨hown, hnext⟩ := hp s hs
      exact ⟨hown, ih _ hnext⟩

theorem amid_mono {R : List Exchange → α → Desk → Prop} {p : Plan α} {past : List Exchange}
    {d : Desk} (h : p.Amid T R past d) (hR : ∀ past a d, R past a d → Q past a d) :
    p.Amid T Q past d := by
  induction p generalizing past d with
  | done a => exact hR _ _ _ h
  | call c next ih =>
      intro s hs
      obtain ⟨hown, hnext⟩ := h s hs
      exact ⟨hown, ih _ hnext⟩

theorem amid_ask {c : Call} {Q : List Exchange → c.Answer → Desk → Prop} {past : List Exchange}
    {d : Desk} (h : ∀ s, T.others past d.store s → T.own past s c ∧
      Q (past ++ [⟨c, ((d.withStore s).perform c).1⟩]) ((d.withStore s).perform c).1
        ((d.withStore s).perform c).2) : (ask c).Amid T Q past d := h

theorem amid_exceptBind {a : ExceptT ε Plan α} {f : α → ExceptT ε Plan β}
    {R : List Exchange → Except ε α → Desk → Prop} {Q : List Exchange → Except ε β → Desk → Prop}
    {past : List Exchange} {d : Desk} (ha : (ExceptT.run a).Amid T R past d)
    (hok : ∀ past x d, R past (.ok x) d → (ExceptT.run (f x)).Amid T Q past d)
    (herror : ∀ past e d, R past (.error e) d → Q past (.error e) d) :
    (ExceptT.run (a >>= f)).Amid T Q past d := by
  refine amid_bind ha fun past result d h => ?_
  cases result with
  | ok x => exact hok past x d h
  | error e => exact herror past e d h

theorem amid_lift {p : Plan α} {R : List Exchange → α → Desk → Prop}
    {Q : List Exchange → Except ε α → Desk → Prop} {past : List Exchange} {d : Desk}
    (h : p.Amid T R past d) (hQ : ∀ past a d, R past a d → Q past (.ok a) d) :
    (ExceptT.run (ExceptT.lift p : ExceptT ε Plan α)).Amid T Q past d :=
  amid_bind h hQ

/-- Where nothing is asked of the outcome, a failure keeps to the terms as well. -/
theorem amid_follow {a : ExceptT ε Plan α} {f : α → ExceptT ε Plan β}
    {R : List Exchange → Except ε α → Desk → Prop} {past : List Exchange} {d : Desk}
    (ha : (ExceptT.run a).Amid T R past d)
    (hf : ∀ past x d, R past (.ok x) d →
      (ExceptT.run (f x)).Amid T (fun _ _ _ => True) past d) :
    (ExceptT.run (a >>= f)).Amid T (fun _ _ _ => True) past d :=
  amid_exceptBind ha hf fun _ _ _ _ => trivial

/-- What follows on a plan whatever comes of it. -/
theorem amid_attempt {p : Plan α} {f : α → ExceptT ε Plan β} {past : List Exchange} {d : Desk}
    (hp : p.Amid T (fun _ _ _ => True) past d)
    (hf : ∀ past a d, (ExceptT.run (f a)).Amid T (fun _ _ _ => True) past d) :
    (ExceptT.run (ExceptT.lift p >>= f)).Amid T (fun _ _ _ => True) past d :=
  amid_exceptBind (R := fun _ _ _ => True) (amid_lift hp fun _ _ _ _ => trivial)
    (fun past a d _ => hf past a d) fun _ _ _ _ => trivial

theorem amid_lift_bind {c : Call} {f : c.Answer → ExceptT ε Plan β}
    {Q : List Exchange → Except ε β → Desk → Prop} {past : List Exchange} {d : Desk}
    (h : ∀ s, T.others past d.store s → T.own past s c ∧
      (ExceptT.run (f ((d.withStore s).perform c).1)).Amid T Q
        (past ++ [⟨c, ((d.withStore s).perform c).1⟩]) ((d.withStore s).perform c).2) :
    (ExceptT.run (ExceptT.lift (ask c) >>= f)).Amid T Q past d := h

theorem amid_ofExcept {f : ε → Failure} {p : Plan (Except ε α)}
    {R : List Exchange → Except ε α → Desk → Prop}
    {Q : List Exchange → Except Failure α → Desk → Prop} {past : List Exchange} {d : Desk}
    (h : p.Amid T R past d) (hQ : ∀ past r d, R past r d → Q past (r.mapError f) d) :
    (ExceptT.run (Action.ofExcept f p)).Amid T Q past d :=
  amid_bind h hQ

/-- A call that only reads is answered by the store that the others have left, and leaves it. -/
theorem amid_read (c : Call) (answer : Store → c.Answer) (hc : c.Reads)
    (hanswer : ∀ d : Desk, (d.perform c).1 = answer d.store)
    {Q : List Exchange → c.Answer → Desk → Prop} {past : List Exchange} {d : Desk}
    (h : ∀ s d', T.others past d.store s → d'.store = s → T.own past s c ∧
      Q (past ++ [⟨c, answer s⟩]) (answer s) d') : (ask c).Amid T Q past d := by
  refine amid_ask fun s hs => ?_
  rw [hanswer]
  exact h s _ hs ((d.withStore s).store_of_reads hc)

theorem amid_find {id : Option String} {past : List Exchange} {d : Desk}
    {Q : List Exchange → Except Failure (Option Notice) → Desk → Prop}
    (h : ∀ s d', T.others past d.store s → d'.store = s → T.own past s (.find id) ∧
      Q (past ++ [⟨.find id, s.find id⟩]) ((s.find id).mapError .storage) d') :
    (ExceptT.run (Action.find id)).Amid T Q past d :=
  amid_ofExcept (amid_read (.find id) (·.find id) trivial (fun d => d.answer_reading _ _) h)
    fun _ _ _ h => h

theorem amid_list {recipient : Option String} {limit offset : Int} {past : List Exchange} {d : Desk}
    {Q : List Exchange → Except Failure (List Notice) → Desk → Prop}
    (h : ∀ s d', T.others past d.store s → d'.store = s →
      T.own past s (.list recipient limit offset) ∧
      Q (past ++ [⟨.list recipient limit offset, s.list recipient limit offset⟩])
        ((s.list recipient limit offset).mapError .storage) d') :
    (ExceptT.run (Action.list recipient limit offset)).Amid T Q past d :=
  amid_ofExcept (amid_read (.list recipient limit offset) (·.list recipient limit offset) trivial
    (fun d => d.answer_reading _ _) h) fun _ _ _ h => h

/-- A plan that makes only calls which the terms allow from now on keeps to them. -/
theorem amid_of_makes {p : Plan α} {past : List Exchange}
    (h : p.Makes fun c => ∀ later s, T.own (past ++ later) s c) (d : Desk) :
    p.Amid T (fun _ _ _ => True) past d := by
  suffices hlater : ∀ later d, p.Amid T (fun _ _ _ => True) (past ++ later) d by
    simpa using hlater [] d
  induction p with
  | done _ => exact fun _ _ => trivial
  | call c next ih =>
      intro later d s _
      refine ⟨h.1 later s, ?_⟩
      rw [List.append_assoc]
      exact ih _ (h.2 _) _ _

theorem amid_of_silent {p : Plan α} (h : p.Makes Call.Silent)
    (hown : ∀ c, c.Silent → ∀ past s, T.own past s c) (past : List Exchange) (d : Desk) :
    p.Amid T (fun past' _ _ => ∃ later, past' = past ++ later ∧ ∀ e ∈ later, e.call.Silent)
      past d := by
  induction p generalizing past d with
  | done _ => exact ⟨[], by simp⟩
  | call c next ih =>
      intro s _
      refine ⟨hown c h.1 past s, amid_mono (ih _ (h.2 _) _ _) ?_⟩
      rintro _ _ _ ⟨later, rfl, hlater⟩
      refine ⟨⟨c, ((d.withStore s).perform c).1⟩ :: later, by simp, ?_⟩
      simpa using ⟨h.1, hlater⟩

theorem amid_required_bind {need : Need} {value : Option String} {f : String → Action α}
    {Q : List Exchange → Except Failure α → Desk → Prop} {past : List Exchange} {d : Desk}
    (h : ∀ s, value = some s → (ExceptT.run (f s)).Amid T Q past d)
    (herror : Q past (.error (.needed need)) d) :
    (ExceptT.run (Service.required need value >>= f)).Amid T Q past d := by
  rcases Service.required_cases need value with ⟨s, hvalue, _, hrequired⟩ | hrequired
  · rw [hrequired]
    exact h s hvalue
  · rw [hrequired]
    exact herror

end Plan

/-! ## Sessions -/

/-- A plan under way: what is left of it, its exchanges so far, and the desk on which it runs. -/
structure Session (α : Type) where
  plan : Plan α
  past : List Exchange
  desk : Desk

namespace Session

variable {α : Type} {T : Terms} {Q : List Exchange → α → Desk → Prop} {x : Session α}

def start (p : Plan α) (d : Desk) : Session α := ⟨p, [], d⟩

/-- The call that comes next, unless the plan is done. -/
def upcoming? (x : Session α) : Option Call :=
  match x.plan with
  | .done _ => none
  | .call c _ => some c

/-- The session after its next call. One that is done stays as it is. -/
def next (x : Session α) : Session α :=
  match x.plan with
  | .done _ => x
  | .call c next =>
      ⟨next (x.desk.perform c).1, x.past ++ [⟨c, (x.desk.perform c).1⟩], (x.desk.perform c).2⟩

/-- The session on the store that others have left. -/
def finding (x : Session α) (s : Store) : Session α := { x with desk := x.desk.withStore s }

theorem next_of_upcoming {c : Call} (h : x.upcoming? = some c) :
    x.next.past = x.past ++ [⟨c, (x.desk.perform c).1⟩] ∧ x.next.desk = (x.desk.perform c).2 := by
  obtain ⟨plan, past, d⟩ := x
  cases plan with
  | done _ => cases h
  | call _ _ =>
      cases h
      exact ⟨rfl, rfl⟩

theorem next_of_done (h : x.upcoming? = none) : x.next = x := by
  obtain ⟨plan, past, d⟩ := x
  cases plan with
  | done _ => rfl
  | call _ _ => cases h

/-- Whether what is left of a session keeps to the terms and ends with `Q`. -/
def Keeps (T : Terms) (Q : List Exchange → α → Desk → Prop) (x : Session α) : Prop :=
  x.plan.Amid T Q x.past x.desk

/-- Whether others who keep to the terms leave the outcome of a plan that is done as it is. -/
def Stable (T : Terms) (Q : List Exchange → α → Desk → Prop) : Prop :=
  ∀ past a d s, Q past a d → T.others past d.store s → Q past a (d.withStore s)

theorem keeps_finding (hQ : Stable T Q) (h : x.Keeps T Q) {s : Store}
    (hs : T.others x.past x.desk.store s) : (x.finding s).Keeps T Q := by
  obtain ⟨plan, past, d⟩ := x
  cases plan with
  | done a => exact hQ _ _ _ _ h hs
  | call c next => exact fun s' hs' => h s' (T.trans hs hs')

/-- A session that keeps to the terms makes a call that they allow, and goes on to keep to them. -/
theorem keeps_next (h : x.Keeps T Q) (hfound : T.others x.past x.desk.store x.desk.store) :
    x.next.Keeps T Q ∧ ∀ c, x.upcoming? = some c → T.own x.past x.desk.store c := by
  obtain ⟨plan, past, d⟩ := x
  cases plan with
  | done a => exact ⟨h, fun _ hc => nomatch hc⟩
  | call c next =>
      obtain ⟨hown, hnext⟩ := h d.store hfound
      refine ⟨hnext, fun c' hc' => ?_⟩
      cases hc'
      exact hown

end Session

/-! ## One session amid others -/

/-- What happens next while a plan is under way: it makes its next call, or somebody else makes a
call, or what is wrong with the store changes. -/
inductive Beat
  | own
  | other (c : Call)
  | flawed (flaws : List Flaw)

namespace Session

variable {α : Type}

def after (x : Session α) : Beat → Session α
  | .own => x.next
  | .other c => x.finding (x.desk.perform c).2.store
  | .flawed flaws => x.finding { x.desk.store with flaws }

def through (x : Session α) (beats : List Beat) : Session α := beats.foldl after x

theorem through_append (x : Session α) (beats later : List Beat) :
    x.through (beats ++ later) = (x.through beats).through later :=
  List.foldl_append

end Session
end Noticeboard
