import Noticeboard.Proofs.Http.Respond
import Noticeboard.Service.Event

/-!
Which calls the service makes. Beside calls that have nothing to do with notices, most actions
make calls of one kind only, for the recipient or the identifier that they are given. The lemmas
hold for every property of calls that covers those of the action.
-/

namespace Noticeboard

open Plan

variable {P : Call → Prop}

namespace Service

theorem required_cases (need : Need) (value : Option String) :
    (∃ s, value = some s ∧ s ≠ "" ∧ required need value = pure s) ∨
      required need value = throw (.needed need) := by
  cases value with
  | none => exact .inr rfl
  | some s =>
      by_cases hs : s = ""
      · exact .inr (by simp only [required, filled?, hs, ↓reduceIte])
      · exact .inl ⟨s, rfl, hs, by simp only [required, filled?, hs, ↓reduceIte]⟩

theorem makes_required (need : Need) (value : Option String) :
    (ExceptT.run (required need value)).Makes P := by
  rw [required]
  split <;> trivial

/-- What follows on a required value may rely on its being the one that is given. -/
theorem makes_required_bind {α : Type} {need : Need} {value : Option String}
    {f : String → Action α} (hf : ∀ s, value = some s → (ExceptT.run (f s)).Makes P) :
    (ExceptT.run (required need value >>= f)).Makes P := by
  rcases required_cases need value with ⟨s, hvalue, _, h⟩ | h
  · rw [h]
    exact hf s hvalue
  · rw [h]
    trivial

theorem makes_newId (hsilent : ∀ c, c.Silent → P c) : (ExceptT.run newId).Makes P :=
  makes_exceptBind (makes_lift (makes_ask (hsilent _ trivial))) fun _ => trivial

theorem makes_identify (hsilent : ∀ c, c.Silent → P c) (id : Option String) :
    (ExceptT.run (identify id)).Makes P := by
  rw [identify]
  split
  · trivial
  · exact makes_newId hsilent

theorem makes_resolveLink (hsilent : ∀ c, c.Silent → P c) (board card : Option String) :
    (ExceptT.run (resolveLink board card)).Makes P := by
  rw [resolveLink]
  split
  · trivial
  · refine makes_exceptBind (makes_ofExcept (makes_ask (hsilent _ trivial))) fun found => ?_
    cases found <;> trivial

theorem makes_linkFor (hsilent : ∀ c, c.Silent → P c) (link board card : Option String) :
    (ExceptT.run (linkFor link board card)).Makes P := by
  rw [linkFor]
  split
  · trivial
  · exact makes_resolveLink hsilent board card

theorem makes_momentOf (draft : Draft) : (ExceptT.run (momentOf draft)).Makes P := by
  rw [momentOf]
  split
  · trivial
  · split <;> trivial

theorem makes_now (hsilent : ∀ c, c.Silent → P c) : (ExceptT.run Action.now).Makes P :=
  makes_lift (makes_ask (hsilent _ trivial))

theorem makes_completed (hsilent : ∀ c, c.Silent → P c) (draft : Draft) :
    (ExceptT.run (completed draft)).Makes P := by
  refine makes_exceptBind (makes_required _ _) fun recipient => ?_
  refine makes_exceptBind (makes_required _ _) fun message => ?_
  refine makes_exceptBind (makes_required _ _) fun sender => ?_
  refine makes_exceptBind (makes_momentOf draft) fun moment => ?_
  refine makes_exceptBind (makes_identify hsilent _) fun id => ?_
  dsimp only
  split
  · exact makes_exceptBind trivial fun createdAt =>
      makes_exceptBind (makes_linkFor hsilent _ _ _) fun _ => trivial
  · exact makes_exceptBind (makes_now hsilent) fun createdAt =>
      makes_exceptBind (makes_linkFor hsilent _ _ _) fun _ => trivial

theorem makes_create (hsilent : ∀ c, c.Silent → P c) (hinsert : ∀ d, P (.insert d))
    (draft : Draft) : (ExceptT.run (create draft)).Makes P :=
  makes_exceptBind (makes_completed hsilent draft) fun d =>
    makes_ofExcept (makes_ask (hinsert d))

theorem makes_createNew (hsilent : ∀ c, c.Silent → P c) (hinsert : ∀ d, P (.insert d))
    (recipient message sender board card : Option String) :
    (ExceptT.run (createNew recipient message sender board card)).Makes P := by
  refine makes_exceptBind (makes_required _ _) fun recipient => ?_
  refine makes_exceptBind (makes_required _ _) fun message => ?_
  refine makes_exceptBind (makes_required _ _) fun sender => ?_
  refine makes_exceptBind (makes_newId hsilent) fun id => ?_
  refine makes_exceptBind (makes_now hsilent) fun createdAt => ?_
  refine makes_exceptBind (makes_resolveLink hsilent _ _) fun link => ?_
  exact makes_ofExcept (makes_ask (hinsert _))

theorem makes_notifyAdded (hsilent : ∀ c, c.Silent → P c) (hinsert : ∀ d, P (.insert d))
    (actor : Option Person) (recipient board : Option String) :
    (ExceptT.run (notifyAdded actor recipient board)).Makes P := by
  unfold notifyAdded
  split
  · split
    · refine makes_exceptBind (makes_ofExcept (makes_ask (hsilent _ trivial))) fun found => ?_
      cases found with
      | none => trivial
      | some found =>
          exact makes_exceptBind (makes_createNew hsilent hinsert _ _ _ _ _) fun _ => trivial
    · trivial
  · trivial

theorem makes_notifyCard (hsilent : ∀ c, c.Silent → P c) (hinsert : ∀ d, P (.insert d))
    (event : CardEvent) (actor : Option Person) (recipient board card : Option String)
    (title : String) : (ExceptT.run (notifyCard event actor recipient board card title)).Makes P := by
  unfold notifyCard
  split
  · split
    · exact makes_exceptBind (makes_createNew hsilent hinsert _ _ _ _ _) fun _ => trivial
    · trivial
  · trivial

theorem makes_limitOr (hsilent : ∀ c, c.Silent → P c) (limit : Option Int)
    (setting : Settings → Count) : (ExceptT.run (limitOr limit setting)).Makes P := by
  cases limit with
  | some _ => trivial
  | none => exact makes_exceptBind (makes_ofExcept (makes_ask (hsilent _ trivial))) fun _ => trivial

theorem makes_list (hsilent : ∀ c, c.Silent → P c) {recipient : Option String}
    (hlist : ∀ user limit offset, recipient = some user → P (.list (some user) limit offset))
    (limit : Option Int) (offset : Int) : (ExceptT.run (list recipient limit offset)).Makes P := by
  refine makes_required_bind fun user huser => ?_
  refine makes_exceptBind (makes_limitOr hsilent _ _) fun limit => ?_
  exact makes_ofExcept (makes_ask (hlist user limit offset huser))

theorem makes_countUnread {recipient : Option String}
    (hcount : ∀ user, recipient = some user → P (.countUnread (some user))) :
    (ExceptT.run (countUnread recipient)).Makes P :=
  makes_required_bind fun user huser => makes_ofExcept (makes_ask (hcount user huser))

theorem makes_find {id : Option String} (hfind : ∀ k, id = some k → P (.find (some k))) :
    (ExceptT.run (find id)).Makes P :=
  makes_required_bind fun k hk => makes_ofExcept (makes_ask (hfind k hk))

theorem makes_markRead {id : Option String}
    (hmark : ∀ k, id = some k → P (.setRead (some k) (some true))) :
    (ExceptT.run (markRead id)).Makes P :=
  makes_required_bind fun k hk => makes_ofExcept (makes_ask (hmark k hk))

theorem makes_delete {id : Option String} (hdelete : ∀ k, id = some k → P (.delete (some k))) :
    (ExceptT.run (delete id)).Makes P :=
  makes_required_bind fun k hk => makes_ofExcept (makes_ask (hdelete k hk))

theorem makes_deleteFor {recipient : Option String}
    (hdelete : ∀ user, recipient = some user → P (.deleteFor (some user))) :
    (ExceptT.run (deleteFor recipient)).Makes P :=
  makes_required_bind fun user huser => makes_ofExcept (makes_ask (hdelete user huser))

theorem makes_markEach (hsilent : ∀ c, c.Silent → P c) {notices : List Notice}
    (hmark : ∀ n ∈ notices, P (.setRead (some n.id) (some true))) :
    (markEach notices).Makes P := by
  induction notices with
  | nil => trivial
  | cons n rest ih =>
      have later := ih fun m hm => hmark m (List.mem_cons_of_mem _ hm)
      refine makes_bind (makes_ask (hmark n List.mem_cons_self)) fun answer => ?_
      cases answer with
      | ok _ => exact later
      | error _ =>
          refine makes_bind (makes_ask (hsilent _ trivial)) fun _ => ?_
          exact makes_bind later fun _ => trivial

theorem makes_markAllRead (hsilent : ∀ c, c.Silent → P c) {recipient : Option String}
    (hlist : ∀ user limit offset, recipient = some user → P (.list (some user) limit offset))
    (hmark : ∀ id, P (.setRead id (some true))) (limit : Option Int) :
    (ExceptT.run (markAllRead recipient limit)).Makes P := by
  refine makes_required_bind fun user huser => ?_
  refine makes_exceptBind (makes_limitOr hsilent _ _) fun limit => ?_
  refine makes_exceptBind (makes_ofExcept (makes_ask (hlist user limit 0 huser))) fun notices => ?_
  refine makes_exceptBind (makes_lift (makes_markEach hsilent fun _ _ => hmark _)) fun failed => ?_
  dsimp only
  split
  · exact makes_exceptBind (makes_lift (makes_ask (hsilent _ trivial))) fun _ => trivial
  · trivial

end Service

namespace Http

theorem makes_bearerOf (hsilent : ∀ c, c.Silent → P c) (authority : Token.Authority)
    (r : Request) : (ExceptT.run (bearerOf authority r)).Makes P := by
  rw [bearerOf]
  split
  · trivial
  · refine makes_exceptBind (makes_lift (makes_ask (hsilent _ trivial))) fun now => ?_
    split <;> trivial

namespace App

variable {α : Type}

theorem makes_doing {a : Action α} (h : (ExceptT.run a).Makes P) :
    (ExceptT.run (doing a)).Makes P :=
  makes_bind h fun _ => trivial

theorem makes_tokenAsk (hsilent : ∀ c, c.Silent → P c) {bearer : Token.Bearer} (task : Task)
    {act : String → Action α} (h : ∀ user, bearer = .user user → (ExceptT.run (act user)).Makes P) :
    (ExceptT.run (bearer.ask task act)).Makes P := by
  cases bearer with
  | user user => exact h user rfl
  | garbled _ =>
      exact makes_exceptBind (makes_ofExcept (makes_ask (hsilent _ trivial))) fun _ => trivial

theorem makes_owned {id : String} (hfind : P (.find (some id))) (bearer : Token.Bearer) :
    (ExceptT.run (owned id bearer)).Makes P := by
  refine makes_exceptBind (Service.makes_find fun _ hk => Option.some.inj hk ▸ hfind) fun found => ?_
  cases found with
  | none => trivial
  | some n =>
      dsimp only
      split <;> trivial

theorem makes_liftExcept (result : Except Failure α) :
    (ExceptT.run (page.liftExcept result)).Makes P := trivial

theorem makes_page (hsilent : ∀ c, c.Silent → P c) (r : Request) {bearer : Token.Bearer}
    (hlist : ∀ user limit offset, bearer = .user user → P (.list (some user) limit offset)) :
    (ExceptT.run (page r bearer)).Makes P := by
  refine makes_exceptBind (makes_ofExcept (makes_ask (hsilent _ trivial))) fun settings => ?_
  refine makes_exceptBind (makes_liftExcept _) fun limit => ?_
  refine makes_exceptBind (makes_liftExcept _) fun offset => ?_
  refine makes_tokenAsk hsilent _ fun user huser => ?_
  exact Service.makes_list hsilent
    (fun _ limit offset h => Option.some.inj h ▸ hlist user limit offset huser) _ _

theorem makes_store (hsilent : ∀ c, c.Silent → P c) (hinsert : ∀ d, P (.insert d))
    (draft : Draft) (bearer : Token.Bearer) : (ExceptT.run (store draft bearer)).Makes P := by
  refine makes_exceptBind (Service.makes_completed hsilent _) fun draft => ?_
  exact makes_tokenAsk hsilent _ fun _ _ => makes_ofExcept (makes_ask (hinsert _))

theorem makes_markAll (hsilent : ∀ c, c.Silent → P c) {bearer : Token.Bearer}
    (hlist : ∀ user limit offset, bearer = .user user → P (.list (some user) limit offset))
    (hmark : ∀ id, P (.setRead id (some true))) :
    (ExceptT.run (markAll bearer)).Makes P := by
  refine makes_exceptBind (Service.makes_limitOr hsilent _ _) fun limit => ?_
  refine makes_tokenAsk hsilent _ fun user huser => ?_
  exact Service.makes_markAllRead hsilent
    (fun _ limit offset h => Option.some.inj h ▸ hlist user limit offset huser) hmark _

theorem makes_noteOn (hsilent : ∀ c, c.Silent → P c) (failure : Failure) (entry : Log.Entry) :
    (noteOn failure entry).Makes P := by
  rw [noteOn]
  split
  · exact makes_ask (hsilent _ trivial)
  · trivial

theorem makes_create (hsilent : ∀ c, c.Silent → P c) (hinsert : ∀ d, P (.insert d)) (app : App)
    (r : Request) : (ExceptT.run (app.create r)).Makes P := by
  rw [create]
  split
  · trivial
  · refine makes_exceptBind (makes_bearerOf hsilent _ _) fun bearer => ?_
    dsimp only
    split
    · trivial
    · split
      · trivial
      · refine makes_exceptBind (makes_lift (makes_ask (hsilent _ trivial))) fun now => ?_
        refine makes_exceptBind (makes_lift (makes_store hsilent hinsert _ _)) fun result => ?_
        cases result with
        | ok n =>
            exact makes_exceptBind (makes_lift (makes_ask (hsilent _ trivial))) fun _ => trivial
        | error failure =>
            exact makes_exceptBind (makes_lift (makes_noteOn hsilent _ _)) fun _ => trivial

theorem makes_delete (hsilent : ∀ c, c.Silent → P c) {id : String}
    (hfind : P (.find (some id))) (hdelete : P (.delete (some id))) (bearer : Token.Bearer) :
    (ExceptT.run (delete id bearer)).Makes P := by
  refine makes_exceptBind (makes_lift (makes_exceptBind (makes_owned hfind _) fun _ =>
    Service.makes_delete fun _ hk => Option.some.inj hk ▸ hdelete)) fun result => ?_
  cases result with
  | ok _ => exact makes_exceptBind (makes_lift (makes_ask (hsilent _ trivial))) fun _ => trivial
  | error failure =>
      exact makes_exceptBind (makes_lift (makes_noteOn hsilent _ _)) fun _ => trivial

theorem makes_markRead {id : String} (hfind : P (.find (some id)))
    (hmark : P (.setRead (some id) (some true))) (bearer : Token.Bearer) :
    (ExceptT.run (markRead id bearer)).Makes P :=
  makes_doing (makes_exceptBind (makes_owned hfind _) fun _ =>
    makes_exceptBind (Service.makes_markRead fun _ hk => Option.some.inj hk ▸ hmark)
      fun _ => trivial)

/-- An endpoint reads, and beside that it makes only the calls that a request to it is for. -/
theorem makes_serve (hreads : ∀ c, c.Reads → P c) (app : App) (r : Request) {endpoint : Endpoint}
    (id : String) (hinsert : endpoint = .create → ∀ d, P (.insert d))
    (hmark : endpoint = .markRead ∨ endpoint = .markAllRead → ∀ id, P (.setRead id (some true)))
    (hdelete : endpoint = .delete → ∀ id, P (.delete id)) :
    (ExceptT.run (app.serve r endpoint id)).Makes P := by
  have hsilent : ∀ c, c.Silent → P c := fun c hc => hreads c (c.reads_of_silent hc)
  have hbearer {f : Token.Bearer → Handler Response} (h : ∀ b, (ExceptT.run (f b)).Makes P) :
      (ExceptT.run (bearerOf app.authority r >>= f)).Makes P :=
    makes_exceptBind (makes_bearerOf hsilent _ _) h
  have hfind : P (.find (some id)) := hreads _ trivial
  have hlist (user : String) (limit offset : Int) : P (.list (some user) limit offset) :=
    hreads _ trivial
  cases endpoint with
  | create => exact makes_create hsilent (hinsert rfl) app r
  | list =>
      exact hbearer fun b => makes_exceptBind (makes_doing (makes_page hsilent r
        fun user _ _ _ => hlist user _ _)) fun _ => trivial
  | countUnread =>
      exact hbearer fun b => makes_exceptBind (makes_doing (makes_tokenAsk hsilent _
        fun _ _ => Service.makes_countUnread fun _ _ => hreads _ trivial)) fun _ => trivial
  | markAllRead =>
      exact hbearer fun b => makes_exceptBind (makes_doing (makes_markAll hsilent
        (fun user _ _ _ => hlist user _ _) (hmark (.inr rfl)))) fun _ => trivial
  | find =>
      exact hbearer fun b => makes_exceptBind (makes_doing (makes_owned hfind b)) fun _ => trivial
  | markRead => exact hbearer fun b => makes_markRead hfind (hmark (.inl rfl) _) b
  | delete => exact hbearer fun b => makes_delete hsilent hfind (hdelete rfl _) b

/-- A request makes the calls of the endpoint that serves it, if there is one, and no others. -/
theorem makes_respond (app : App) (r : Request)
    (h : ∀ endpoint id, route r.verb r.path = .served endpoint id →
      (ExceptT.run (app.serve r endpoint id)).Makes P) : (app.respond r).Makes P := by
  rcases app.respond_cases r with ⟨response, hdone⟩ | ⟨endpoint, id, hroute, hserve⟩
  · rw [hdone]
    trivial
  · rw [hserve]
    exact makes_bind (h endpoint id hroute) fun _ => trivial

end App
end Http
end Noticeboard
