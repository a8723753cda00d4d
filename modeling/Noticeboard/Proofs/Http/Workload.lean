import Noticeboard.Proofs.Http.Query
import Noticeboard.Proofs.Service.MarkingAlone
import Noticeboard.Proofs.Settings.Loading

/-!
How the settings bound the work of a request. A limit of zero or less would be none at all, but no
settings that are loaded have one. So a page that nobody gives a limit for has no more notices than
the settings say, and no more are tried when all are marked as read.
-/

namespace Noticeboard

namespace Store

/-- Whether rows are the newest notices of a user from an offset on, as many as a size allows. -/
structure Window (s : Store) (user : String) (size : Nat) (offset : Int) (rows : List Notice) :
    Prop where
  short : rows.length ≤ size
  newest : ∃ whole, s.Shows user whole ∧ rows = (whole.drop offset.toNat).take size

/-- Whether the store can list so many notices from an offset on. -/
structure CanList (s : Store) (size : Nat) (offset : Int) : Prop where
  table : (s.noticesFor .listNotices).isSome
  size : Int64.fits size
  offset : usable offset

variable {s : Store} {user : String} {size : Nat} {offset : Int}

theorem page_of_pos (hsize : 0 < size) (offset : Int) (rows : List Notice) :
    page size offset rows = (rows.drop offset.toNat).take size :=
  if_pos (Int.natCast_pos.mpr hsize)

theorem list_of_canList (hsize : 0 < size) (h : s.CanList size offset) (user : String) :
    ∃ rows, s.list (some user) size offset = .ok rows ∧ s.Window user size offset rows := by
  obtain ⟨t, ht⟩ := Option.isSome_iff_exists.mp h.table
  refine ⟨_, list_eq_ok_iff.mpr ⟨t, ht, usable_of_fits h.size, h.offset, rfl⟩, ?_⟩
  rw [page_of_pos hsize]
  exact ⟨List.length_take_le _ _, _, shows_listing (noticesFor_eq_some_iff.mp ht).2 user, rfl⟩

theorem list_of_not_canList (hsize : 0 < size) (h : ¬ s.CanList size offset) (user : String) :
    s.list (some user) size offset = .error .listNotices := by
  rw [list]
  split
  · next t ht =>
      refine if_neg fun husable => h ?_
      rw [Bool.and_eq_true] at husable
      refine ⟨ht ▸ rfl, ?_, husable.2⟩
      have := husable.1
      simp only [usable, Bool.or_eq_true, decide_eq_true_eq] at this
      exact this.resolve_left (by omega)
  · rfl

end Store

/-! ## Actions without a limit -/

theorem Plan.exchanges_exceptBind_error {α β ε : Type} {a : ExceptT ε Plan α} {d d' : Desk} {e : ε}
    (h : (ExceptT.run a).run d = (.error e, d')) (f : α → ExceptT ε Plan β) :
    (ExceptT.run (a >>= f)).exchanges d = (ExceptT.run a).exchanges d := by
  have hbind := exchanges_bind (ExceptT.run a) (ExceptT.bindCont f) d
  rw [h] at hbind
  exact hbind.trans (List.append_nil _)

namespace Service

/-- What comes of a list without a limit. -/
structure PageBounded (d : Desk) (user : String) (size : Nat) (offset : Int) : Prop where
  unchanged : ((list (some user) none offset).run d).2.store = d.store
  served : d.store.CanList size offset → ∃ rows,
    ((list (some user) none offset).run d).1 = .ok rows ∧ d.store.Window user size offset rows
  failed : ¬ d.store.CanList size offset →
    ((list (some user) none offset).run d).1 = .error (.storage .listNotices)

/-- What comes of marking all notices without a limit. The unread ones among the newest are tried,
and no others. -/
structure MarkingBounded (d : Desk) (user : String) (limit : Nat) : Prop where
  few : (attempts ((ExceptT.run (markAllRead (some user) none)).exchanges d)).length ≤ limit
  served : d.store.CanList limit 0 → ∃ whole, d.store.Shows user whole ∧
    attempts ((ExceptT.run (markAllRead (some user) none)).exchanges d) =
      ((whole.take limit).filter (!·.read)).map Notice.id
  failed : ¬ d.store.CanList limit 0 →
    attempts ((ExceptT.run (markAllRead (some user) none)).exchanges d) = [] ∧
      ((markAllRead (some user) none).run d).1 = .error (.storage .listNotices)

theorem run_list_failed {d : Desk} {user : String} (huser : user ≠ "") {limit offset : Int}
    {task : Task} (h : d.store.list (some user) limit offset = .error task) :
    (list (some user) (some limit) offset).run d =
      (.error (.storage task), d.noted (.undone task)) := by
  rw [Action.run, list, Plan.run_exceptBind_ok (run_required huser d)]
  exact (Plan.run_exceptBind_ok (x := limit) rfl _).trans (run_list_error h)

/-- Where the notices cannot be listed, none is tried. -/
theorem markAllRead_unlisted {d : Desk} {user : String} (huser : user ≠ "") {limit : Int}
    (h : d.store.list (some user) limit 0 = .error .listNotices) :
    ((markAllRead (some user) (some limit)).run d).1 = .error (.storage .listNotices) ∧
      attempts ((ExceptT.run (markAllRead (some user) (some limit))).exchanges d) = [] := by
  have hreads : (ExceptT.run (Action.list (some user) limit 0)).Makes Call.Reads :=
    Plan.makes_ofExcept (Plan.makes_ask trivial)
  refine ⟨congrArg Prod.fst (run_markAllRead_error huser h), ?_⟩
  rw [markAllRead, Plan.exchanges_exceptBind_ok (run_required huser d), attempts_append,
    Plan.attempts_of_reads (makes_required _ _)]
  refine (congrArg attempts (Plan.exchanges_exceptBind_ok (x := limit) rfl _)).trans ?_
  refine (congrArg attempts (Plan.exchanges_exceptBind_error (run_list_error h) _)).trans ?_
  exact Plan.attempts_of_reads hreads d

section Bounds

variable {d : Desk} {settings : Settings} (hsettings : d.settings = .ok settings)

include hsettings

theorem run_limitOr (setting : Settings → Count) :
    (ExceptT.run (limitOr none setting)).run d = (.ok ((setting settings).val : Int), d) := by
  rw [limitOr, Plan.run_exceptBind_ok (Http.App.run_settings_ok hsettings)]
  rfl

variable {user : String} (huser : user ≠ "")

include huser

theorem run_list_none (offset : Int) : (list (some user) none offset).run d =
    (list (some user) (some settings.pageSize.val) offset).run d := by
  rw [Action.run, Action.run, list, list, Plan.run_exceptBind_ok (run_required huser d),
    Plan.run_exceptBind_ok (run_required huser d), Plan.run_exceptBind_ok (run_limitOr hsettings _)]
  rfl

theorem pageBounded (offset : Int) : PageBounded d user settings.pageSize.val offset := by
  have hpos := settings.pageSize.property
  by_cases h : d.store.CanList settings.pageSize.val offset
  · obtain ⟨rows, hlist, hwindow⟩ := Store.list_of_canList hpos h user
    have hrun := (run_list_none hsettings huser offset).trans (run_list huser hlist)
    exact ⟨congrArg (·.2.store) hrun, fun _ => ⟨rows, congrArg Prod.fst hrun, hwindow⟩,
      fun hnot => absurd h hnot⟩
  · have hlist := Store.list_of_not_canList hpos h user
    have hrun := (run_list_none hsettings huser offset).trans (run_list_failed huser hlist)
    exact ⟨congrArg (·.2.store) hrun, fun hcan => absurd hcan h, fun _ => congrArg Prod.fst hrun⟩

/-- Without a limit the one of the settings is looked up, which tries nothing. -/
theorem markAllRead_none :
    (markAllRead (some user) none).run d =
        (markAllRead (some user) (some settings.markAllLimit.val)).run d ∧
      attempts ((ExceptT.run (markAllRead (some user) none)).exchanges d) =
        attempts ((ExceptT.run (markAllRead (some user) (some settings.markAllLimit.val))).exchanges
          d) := by
  have hlimit := run_limitOr hsettings Settings.markAllLimit
  have hreads : (ExceptT.run (limitOr none Settings.markAllLimit)).Makes Call.Reads :=
    Plan.makes_exceptBind (Plan.makes_ofExcept (Plan.makes_ask trivial)) fun _ => trivial
  constructor
  · rw [Action.run, Action.run, markAllRead, markAllRead,
      Plan.run_exceptBind_ok (run_required huser d), Plan.run_exceptBind_ok (run_required huser d),
      Plan.run_exceptBind_ok hlimit]
    rfl
  · rw [markAllRead, markAllRead, Plan.exchanges_exceptBind_ok (run_required huser d),
      Plan.exchanges_exceptBind_ok (run_required huser d), Plan.exchanges_exceptBind_ok hlimit,
      attempts_append, attempts_append, attempts_append, Plan.attempts_of_reads hreads]
    rfl

theorem markingBounded : MarkingBounded d user settings.markAllLimit.val := by
  have hpos := settings.markAllLimit.property
  obtain ⟨hrun, hattempts⟩ := markAllRead_none hsettings huser
  by_cases h : d.store.CanList settings.markAllLimit.val 0
  · obtain ⟨t, ht⟩ := Option.isSome_iff_exists.mp h.table
    obtain ⟨d', htries, -⟩ := tries_markAllRead huser h.size ht
    have hnewest : Store.newest t user settings.markAllLimit.val =
        (Store.listing t user).take settings.markAllLimit.val :=
      if_pos (Int.natCast_pos.mpr hpos)
    rw [htries.attempts, Store.newestUnread, hnewest] at hattempts
    refine ⟨?_, fun _ => ⟨_, Store.shows_listing (Store.noticesFor_eq_some_iff.mp ht).2 user,
      hattempts⟩, fun hnot => absurd h hnot⟩
    rw [hattempts, List.length_map]
    exact (List.length_filter_le _ _).trans (List.length_take_le _ _)
  · obtain ⟨hfailed, hnone⟩ :=
      markAllRead_unlisted huser (Store.list_of_not_canList hpos h user)
    rw [hnone] at hattempts
    refine ⟨?_, fun hcan => absurd hcan h, fun _ => ⟨hattempts, ?_⟩⟩
    · rw [hattempts]
      exact Nat.zero_le _
    · rw [hrun, hfailed]

end Bounds

end Service

/-! ## Requests without a limit -/

namespace Http

/-- A request for a list only reads. -/
theorem Visit.AsksList.after_eq {app : App} {v : Visit} {user : String} (h : v.AsksList app user)
    (s : Store) : v.after app s = s := by
  refine Plan.store_of_makes (app.makes_respond v.request fun endpoint id hserved => ?_) (v.desk s)
  cases h.route.symm.trans hserved
  exact App.makes_serve (fun _ hreads => hreads) app v.request "" nofun (by simp) nofun

theorem App.run_page_failed {r : Request} {d : Desk} {user : String} {settings : Settings}
    (hsettings : d.settings = .ok settings) {limit offset : Int}
    (hlimit : parameter "limit" settings.pageSize.val (r.parameter? "limit") = .ok limit)
    (hoffset : parameter "offset" 0 (r.parameter? "offset") = .ok offset) (huser : user ≠ "")
    {task : Task} (hlist : d.store.list (some user) limit offset = .error task) :
    (ExceptT.run (page r (.user user))).run d = (.error (.storage task), d.noted (.undone task)) := by
  rw [page, Plan.run_exceptBind_ok (run_settings_ok hsettings), hlimit,
    Plan.run_exceptBind_ok (x := limit) rfl, hoffset, Plan.run_exceptBind_ok (x := offset) rfl]
  exact Service.run_list_failed huser hlist

namespace Visit

/-- What comes of a request for a list without a limit. -/
structure PageBounded (app : App) (v : Visit) (s : Store) (user : String) (size : Nat) : Prop where
  unchanged : v.after app s = s
  served : ∀ o, StandsFor 0 v.offset? o → ¬ Overlong v.offset? → s.CanList size o →
    ∃ rows, (v.response app s).Says 200 (.arr (rows.map Notice.document)) ∧
      s.Window user size o rows
  failed : ∀ o, StandsFor 0 v.offset? o → ¬ Overlong v.offset? → ¬ s.CanList size o →
    (v.response app s).Says 500 (.obj [("detail", .str "internal error")])
  refused : ¬ (∃ o, StandsFor 0 v.offset? o) → ¬ Overlong v.offset? →
    ∃ detail, (v.response app s).Says 400 (.obj [("detail", .str detail)])
  broken : Overlong v.offset? → v.response app s = Refusal.broken.response

variable {app : App} {v : Visit} {s : Store} {user : String} {settings : Settings}

namespace AsksList

variable (h : v.AsksList app user) (hsettings : v.settings = .ok settings)

include h hsettings

theorem says_unlisted {limit offset : Int}
    (hlimit : parameter "limit" settings.pageSize.val v.limit? = .ok limit)
    (hoffset : parameter "offset" 0 v.offset? = .ok offset)
    (hlist : s.list (some user) limit offset = .error .listNotices) :
    (v.response app s).Says 500 (.obj [("detail", .str "internal error")]) := by
  have hpage := App.run_page_failed (d := v.desk s) hsettings hlimit hoffset
    (filled_of_bearer h.bearer) hlist
  have hrun : (ExceptT.run (app.serve v.request .list "")).run (v.desk s) =
      (.error (.ofFailure (.storage .listNotices)), (v.desk s).noted (.undone .listNotices)) := by
    refine (run_bearerOf h.bearer _ s).trans ?_
    exact Plan.run_exceptBind_error (App.run_doing_error hpage) _
  rw [(run_of_serve h.route hrun).1]
  exact app.says_refused (ne_head_of_route h.route) _ _

theorem pageBounded (hlimit : v.limit? = none ∨ v.limit? = some "") :
    v.PageBounded app s user settings.pageSize.val := by
  have hpos := settings.pageSize.property
  have hstands : StandsFor settings.pageSize.val v.limit? settings.pageSize.val := by
    rcases hlimit with hlimit | hlimit <;> rw [hlimit]
    · exact .absent
    · exact .empty
  have hshort : ¬ Overlong v.limit? := by
    rintro ⟨t, n, ht, -, hlong⟩
    rcases hlimit with hlimit | hlimit <;> cases hlimit.symm.trans ht
    exact absurd hlong (by decide)
  have hsize := parameter_of_standsFor hstands hshort "limit"
  by_cases hbreaks : Overlong v.offset?
  · have hresponse := (h.breaks (s := s) hsettings (.inr ⟨⟨_, hstands⟩, hbreaks⟩)).1
    exact ⟨h.after_eq s, fun _ _ hread => absurd hbreaks hread,
      fun _ _ hread => absurd hbreaks hread, fun _ hread => absurd hbreaks hread, fun _ => hresponse⟩
  have hread {o : Int} (ho : StandsFor 0 v.offset? o) := parameter_of_standsFor ho hbreaks "offset"
  refine ⟨h.after_eq s, fun o ho _ hcan => ?served, fun o ho _ hnot => ?failed,
    fun hnone _ => ?refused, fun hlong => absurd hlong hbreaks⟩
  case served =>
    obtain ⟨rows, hlist, hwindow⟩ := Store.list_of_canList hpos hcan user
    exact ⟨rows, (run_listing h.bearer h.route hsettings hsize (hread ho) hlist).1, hwindow⟩
  case failed =>
    exact h.says_unlisted hsettings hsize (hread ho) (Store.list_of_not_canList hpos hnot user)
  case refused =>
    exact (h.refuses hsettings (not_or.mpr ⟨hshort, fun hlong => hbreaks hlong.2⟩) (.inr hnone)).1

end AsksList

end Visit

/-- Whether settings bound the work that nobody gives a limit for. -/
structure BoundedBy (settings : Settings) : Prop where
  pages (d : Desk) (user : String) (offset : Int) (hsettings : d.settings = .ok settings)
    (huser : user ≠ "") : Service.PageBounded d user settings.pageSize.val offset
  visits (app : App) (v : Visit) (s : Store) (user : String) (h : v.AsksList app user)
    (hsettings : v.settings = .ok settings) (hlimit : v.limit? = none ∨ v.limit? = some "") :
    v.PageBounded app s user settings.pageSize.val
  markings (d : Desk) (user : String) (hsettings : d.settings = .ok settings) (huser : user ≠ "") :
    Service.MarkingBounded d user settings.markAllLimit.val
  /-- Without a user there is no such work. -/
  nobody (d : Desk) (recipient : Option String) (h : recipient = none ∨ recipient = some "") :
    (∀ offset, (Service.list recipient none offset).run d = (.error (.needed .recipient), d)) ∧
      (Service.markAllRead recipient none).run d = (.error (.needed .recipient), d) ∧
      attempts ((ExceptT.run (Service.markAllRead recipient none)).exchanges d) = []

/-- Settings that are loaded bound the work of requests without a limit, and the bounds are the
positive integers that are spelled in the sources of the settings, or the default ones. -/
theorem settings_bound_work {depth : Settings.Depth} {environment : List (String × String)}
    {text : String} {settings : Settings}
    (h : Settings.load (.ofText depth environment text) = .ok settings) :
    let sources := Settings.Sources.ofText depth environment text
    (0 < settings.pageSize.val ∧
      Settings.Means 50 (sources.text? .pageSize) settings.pageSize.val) ∧
    (0 < settings.markAllLimit.val ∧
      Settings.Means 1000 (sources.text? .markAllLimit) settings.markAllLimit.val) ∧
    BoundedBy settings := by
  obtain ⟨hsize, hlimit⟩ := Settings.means_of_load h
  refine ⟨⟨settings.pageSize.property, hsize⟩, ⟨settings.markAllLimit.property, hlimit⟩,
    ?pages, ?visits, ?markings, ?nobody⟩
  case pages => exact fun d user offset hsettings huser => Service.pageBounded hsettings huser offset
  case visits => exact fun app v s user h hsettings hlimit => h.pageBounded hsettings hlimit
  case markings => exact fun d user hsettings huser => Service.markingBounded hsettings huser
  case nobody => rintro d _ (rfl | rfl) <;> exact ⟨fun _ => rfl, rfl, rfl⟩

/-- Settings for two notices a page, and for one to be tried. -/
def terseSettings : Settings :=
  { plainSettings with pageSize := ⟨2, by decide⟩, markAllLimit := ⟨1, by decide⟩ }

/-- Sources of these settings. The environment hides what the file says of the page. -/
def terseSources : Settings.Sources :=
  .ofText ⟨900, 900⟩ [("SECRET_KEY", "k"), ("Notifications_Page_Size", " +0_2.0 ")]
    ("DATABASE_URL=sqlite://\nACCESS_TOKEN_EXPIRE_MINUTES=45\n" ++
      "NOTIFICATIONS_PAGE_SIZE=0\nMARK_ALL_FETCH_LIMIT=001")

/-- A desk with these settings, and with three unread notices of ann's. -/
def terseDesk : Desk := { Service.stubbornDesk with settings := .ok terseSettings }

theorem terse_work_bounded :
    Settings.load terseSources = .ok terseSettings ∧
    (∃ rows, ((Service.list (some "ann") none 1).run terseDesk).1 = .ok rows ∧
      terseDesk.store.Window "ann" 2 1 rows) ∧
    ∃ whole, terseDesk.store.Shows "ann" whole ∧
      attempts ((ExceptT.run (Service.markAllRead (some "ann") none)).exchanges terseDesk) =
        ((whole.take 1).filter (!·.read)).map Notice.id := by
  have hload : Settings.load terseSources = .ok terseSettings := by decide +kernel
  obtain ⟨-, -, hbounded⟩ := settings_bound_work hload
  have hlisted : (terseDesk.store.noticesFor .listNotices).isSome := rfl
  exact ⟨hload, (hbounded.pages terseDesk "ann" 1 rfl (by decide)).served ⟨hlisted, rfl, rfl⟩,
    (hbounded.markings terseDesk "ann" rfl (by decide)).served ⟨hlisted, rfl, rfl⟩⟩

end Http
end Noticeboard
