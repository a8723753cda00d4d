import Noticeboard.Proofs.Http.OneNotice
import Noticeboard.Proofs.Http.Parameter
import Noticeboard.Proofs.Repository.Paging
import Noticeboard.Proofs.Text.Percent

/-!
Queries for a list of notices. Any texts can be sent for the limit and the offset. Where each stands
for an integer the response is that part of the listing, and where one does not it is a refusal with
a reason; nothing else happens, but for numerals with more digits than are read.
-/

namespace Noticeboard

/-- Whether rows are all the notices of a user, the newest first. -/
structure Store.Shows (s : Store) (user : String) (whole : List Notice) : Prop where
  rows : ∀ n, n ∈ whole ↔ s.noticeAt n.id = some n ∧ n.recipient = user
  once : whole.Nodup
  ordered : whole.Pairwise Store.Precedes

theorem Store.shows_listing {s : Store} {t : NoticeTable} (ht : s.notices = some t)
    (user : String) : s.Shows user (Store.listing t user) where
  rows n := by rw [Store.mem_listing_iff, Store.noticeAt_eq_some_iff ht]
  once := Store.nodup_listing t user
  ordered := Store.pairwise_precedes t user

namespace Http

/-! ## Limits and offsets -/

open Text.Numeral (Denotes)

/-- Whether a parameter stands for an integer: for its default where it is absent or empty, and
otherwise for the integer of 64 bits of which it is a numeral. -/
inductive StandsFor (default : Int) : Option String → Int → Prop
  | absent : StandsFor default none default
  | empty : StandsFor default (some "") default
  | numeral {s : String} {v : Int} (h : Denotes s.toList v) (hfits : Int64.fits v) :
      StandsFor default (some s) v

/-- Whether a parameter is a numeral with more digits than are read. -/
def Overlong (raw : Option String) : Prop :=
  ∃ s v, raw = some s ∧ Denotes s.toList v ∧ 4300 < s.toList.countP Char.isDigit

section Parameters

variable {raw : Option String} {default v : Int}

theorem fits_of_standsFor (hdefault : Int64.fits default) (h : StandsFor default raw v) :
    Int64.fits v := by
  cases h with
  | absent | empty => exact hdefault
  | numeral _ hfits => exact hfits

theorem parameter_of_overlong (h : Overlong raw) (name : String) (default : Int) :
    parameter name default raw = .error .tooManyDigits := by
  obtain ⟨s, v, rfl, hv, hlong⟩ := h
  exact (parameter_of_denotes hv name default).trans (if_pos hlong)

theorem parameter_of_standsFor (h : StandsFor default raw v) (hshort : ¬ Overlong raw)
    (name : String) : parameter name default raw = .ok v := by
  cases h with
  | absent | empty => rfl
  | @numeral s v h hfits =>
      rw [parameter_of_denotes h, if_neg fun hlong => hshort ⟨s, v, rfl, h, hlong⟩, if_pos hfits]

theorem parameter_of_not_standsFor (h : ¬ ∃ v, StandsFor default raw v) (hshort : ¬ Overlong raw)
    (name : String) :
    ∃ f, parameter name default raw = .error f ∧ f.category? = some .invalid := by
  cases raw with
  | none => exact absurd ⟨_, .absent⟩ h
  | some s =>
      by_cases hs : s = ""
      · subst hs
        exact absurd ⟨_, .empty⟩ h
      · by_cases hv : ∃ v, Denotes s.toList v
        · obtain ⟨v, hv⟩ := hv
          rw [parameter_of_denotes hv, if_neg fun hlong => hshort ⟨s, v, rfl, hv, hlong⟩,
            if_neg fun hfits => h ⟨v, .numeral hv hfits⟩]
          exact ⟨_, rfl, rfl⟩
        · exact ⟨_, parameter_of_not_denotes hs hv name default, rfl⟩

end Parameters

/-- Whether a numeral with more digits than are read is come upon. The offset is looked at only
where the limit stands for an integer. -/
def Unread (size : Int) (limit offset : Option String) : Prop :=
  Overlong limit ∨ (∃ l, StandsFor size limit l) ∧ Overlong offset

/-! ## Responses -/

/-- Whether a response is the part of a listing that a limit and an offset ask for, or a refusal
with a reason where one of the two stands for no integer. -/
structure Response.Lists (r : Response) (size : Int) (limit offset : Option String)
    (whole : List Notice) : Prop where
  listed : ∀ l o : Int, StandsFor size limit l → StandsFor 0 offset o →
    r.Says 200 (.arr ((Store.page l o whole).map Notice.document))
  refused : (¬ ∃ l, StandsFor size limit l) ∨ (¬ ∃ o, StandsFor 0 offset o) →
    ∃ detail, r.Says 400 (.obj [("detail", .str detail)])

/-- The response to a request that breaks is neither. -/
theorem Response.not_lists_broken (size : Int) (limit offset : Option String)
    (whole : List Notice) : ¬ Refusal.broken.response.Lists size limit offset whole := by
  intro h
  by_cases hstands : (∃ l, StandsFor size limit l) ∧ ∃ o, StandsFor 0 offset o
  · obtain ⟨⟨l, hl⟩, o, ho⟩ := hstands
    exact absurd (h.listed l o hl ho).1 (by decide)
  · obtain ⟨detail, hsays⟩ := h.refused (not_and_or.mp hstands)
    exact absurd hsays.1 (by decide)

theorem Refusal.ofFailure_invalid {f : Failure} (h : f.category? = some .invalid) :
    Refusal.ofFailure f = .refused 400 f.message := by
  rw [ofFailure, h]
  exact if_pos (by decide)

namespace App

variable {d : Desk} {r : Request} {b : Token.Bearer} {settings : Settings} {f : Failure}

theorem spoken_broken (app : App) (hverb : r.verb ≠ "HEAD") :
    app.spoken r (.error .broken) = Refusal.broken.response := by
  rw [spoken, if_neg hverb]
  rfl

section Pages

variable (hsettings : d.settings = .ok settings)

include hsettings

theorem run_page_limit
    (h : parameter "limit" settings.pageSize.val (r.parameter? "limit") = .error f) :
    (ExceptT.run (page r b)).run d = (.error f, d) := by
  rw [page, Plan.run_exceptBind_ok (run_settings_ok hsettings), h]
  rfl

theorem run_page_offset {limit : Int}
    (hlimit : parameter "limit" settings.pageSize.val (r.parameter? "limit") = .ok limit)
    (h : parameter "offset" 0 (r.parameter? "offset") = .error f) :
    (ExceptT.run (page r b)).run d = (.error f, d) := by
  rw [page, Plan.run_exceptBind_ok (run_settings_ok hsettings), hlimit,
    Plan.run_exceptBind_ok (x := limit) rfl, h]
  rfl

end Pages
end App

namespace Visit

/-- Whether a request asks for a list of a user's notices on behalf of that user. -/
structure AsksList (app : App) (v : Visit) (user : String) : Prop where
  bearer : v.bearer? app = some (.user user)
  verb : v.request.verb = "GET"
  path : v.request.path = Target.root.toList

def withQuery (v : Visit) (query : List Char) : Visit :=
  { v with request := { v.request with reference := { v.request.reference with query } } }

def limit? (v : Visit) : Option String := v.request.parameter? "limit"

def offset? (v : Visit) : Option String := v.request.parameter? "offset"

/-- What becomes of a request for a list where `whole` is all there is to list. It is answered as it
should be, unless a numeral that is not read is come upon. -/
structure AnsweredFrom (app : App) (v : Visit) (s : Store) (size : Int) (whole : List Notice) :
    Prop where
  unchanged : v.after app s = s
  answered : (v.response app s).Lists size v.limit? v.offset? whole ↔
    ¬ Unread size v.limit? v.offset?
  broken : Unread size v.limit? v.offset? → v.response app s = Refusal.broken.response

variable {app : App} {v : Visit} {user : String} {s : Store} {settings : Settings} {f : Failure}

namespace AsksList

variable (h : v.AsksList app user)

include h

theorem withQuery (query : List Char) : (v.withQuery query).AsksList app user :=
  ⟨h.bearer, h.verb, h.path⟩

theorem route : route v.request.verb v.request.path = .served .list "" := by
  rw [h.verb, h.path]
  decide

/-- A list that fails changes nothing and has the refusal for its failure. -/
theorem run_failed (hpage : (ExceptT.run (App.page v.request (.user user))).run (v.desk s) =
    (.error f, v.desk s)) :
    v.response app s = app.spoken v.request (.error (.ofFailure f)) ∧ v.after app s = s := by
  have hdoing := App.run_doing_error hpage
  have hrun : (ExceptT.run (app.serve v.request .list "")).run (v.desk s) =
      (.error (.ofFailure f), v.desk s) := by
    refine (run_bearerOf h.bearer _ s).trans ?_
    rw [Plan.run_exceptBind, hdoing]
  exact run_of_serve h.route hrun

variable (hsettings : v.settings = .ok settings)

include hsettings

theorem breaks (hunread : Unread settings.pageSize.val v.limit? v.offset?) :
    v.response app s = Refusal.broken.response ∧ v.after app s = s := by
  have hpage : (ExceptT.run (App.page v.request (.user user))).run (v.desk s) =
      (.error .tooManyDigits, v.desk s) := by
    by_cases hlimit : Overlong v.limit?
    · exact App.run_page_limit hsettings (parameter_of_overlong hlimit _ _)
    · obtain ⟨⟨l, hl⟩, hoffset⟩ := hunread.resolve_left hlimit
      exact App.run_page_offset hsettings (parameter_of_standsFor hl hlimit _)
        (parameter_of_overlong hoffset _ _)
  obtain ⟨hresponse, hafter⟩ := h.run_failed hpage
  exact ⟨hresponse.trans (app.spoken_broken (ne_head_of_route h.route)), hafter⟩

section Read

variable (hread : ¬ Unread settings.pageSize.val v.limit? v.offset?)

include hread

theorem refuses (hnone : (¬ ∃ l, StandsFor settings.pageSize.val v.limit? l) ∨
    ¬ ∃ o, StandsFor 0 v.offset? o) :
    (∃ detail, (v.response app s).Says 400 (.obj [("detail", .str detail)])) ∧
      v.after app s = s := by
  obtain ⟨hlimit, hoffset⟩ := not_or.mp hread
  obtain ⟨f, hinvalid, hpage⟩ : ∃ f, f.category? = some .invalid ∧
      (ExceptT.run (App.page v.request (.user user))).run (v.desk s) = (.error f, v.desk s) := by
    by_cases hl : ∃ l, StandsFor settings.pageSize.val v.limit? l
    · obtain ⟨f, hf, hinvalid⟩ := parameter_of_not_standsFor (hnone.resolve_left (not_not.mpr hl))
        (fun hlong => hoffset ⟨hl, hlong⟩) "offset"
      obtain ⟨l, hl⟩ := hl
      exact ⟨f, hinvalid, App.run_page_offset hsettings (parameter_of_standsFor hl hlimit _) hf⟩
    · obtain ⟨f, hf, hinvalid⟩ := parameter_of_not_standsFor hl hlimit "limit"
      exact ⟨f, hinvalid, App.run_page_limit hsettings hf⟩
  obtain ⟨hresponse, hafter⟩ := h.run_failed hpage
  rw [hresponse, Refusal.ofFailure_invalid hinvalid]
  exact ⟨⟨_, app.says_refused (ne_head_of_route h.route) _ _⟩, hafter⟩

theorem lists (hs : s.Intact) {t : NoticeTable} (ht : s.notices = some t)
    (hsize : Int64.fits settings.pageSize.val) {l o : Int}
    (hl : StandsFor settings.pageSize.val v.limit? l) (ho : StandsFor 0 v.offset? o) :
    (v.response app s).Says 200
        (.arr ((Store.page l o (Store.listing t user)).map Notice.document)) ∧
      v.after app s = s := by
  obtain ⟨hlimit, hoffset⟩ := not_or.mp hread
  have hlist : s.list (some user) l o = .ok (Store.page l o (Store.listing t user)) :=
    Store.list_eq_ok_iff.mpr ⟨t, (hs.noticesFor _).trans ht,
      Store.usable_of_fits (fits_of_standsFor hsize hl),
      Store.usable_of_fits (fits_of_standsFor rfl ho), rfl⟩
  exact run_listing h.bearer h.route hsettings (parameter_of_standsFor hl hlimit _)
    (parameter_of_standsFor ho (fun hlong => hoffset ⟨⟨l, hl⟩, hlong⟩) _) hlist

end Read

theorem answeredFrom (hs : s.Intact) {t : NoticeTable} (ht : s.notices = some t)
    (hsize : Int64.fits settings.pageSize.val) :
    v.AnsweredFrom app s settings.pageSize.val (Store.listing t user) := by
  by_cases hunread : Unread settings.pageSize.val v.limit? v.offset?
  · obtain ⟨hresponse, hafter⟩ := h.breaks (s := s) hsettings hunread
    refine ⟨hafter, iff_of_false ?_ (not_not_intro hunread), fun _ => hresponse⟩
    exact hresponse ▸ Response.not_lists_broken _ _ _ _
  · refine ⟨?unchanged, iff_of_true ⟨?listed, ?refused⟩ hunread, fun h => absurd h hunread⟩
    case unchanged =>
      by_cases hstands : (∃ l, StandsFor settings.pageSize.val v.limit? l) ∧
          ∃ o, StandsFor 0 v.offset? o
      · obtain ⟨⟨l, hl⟩, o, ho⟩ := hstands
        exact (h.lists hsettings hunread hs ht hsize hl ho).2
      · exact (h.refuses hsettings hunread (not_and_or.mp hstands)).2
    case listed => exact fun l o hl ho => (h.lists hsettings hunread hs ht hsize hl ho).1
    case refused => exact fun hnone => (h.refuses hsettings hunread hnone).1

end AsksList

/-- The parameters of a form that is sent are the last values under their names. -/
theorem parameter?_withQuery (v : Visit) (pairs : List (String × String)) (name : String) :
    (v.withQuery (Text.Percent.query pairs)).request.parameter? name =
      (pairs.reverse.find? (·.1 = name)).map (·.2) := by
  rw [Request.parameter?, Text.Percent.formValue?, Request.query, withQuery,
    Text.Percent.form_query]

/-- Any texts can be sent for the limit and the offset, and either can be left out. -/
theorem exists_withQuery (v : Visit) (limit offset : Option String) :
    ∃ query, (v.withQuery query).limit? = limit ∧ (v.withQuery query).offset? = offset := by
  refine ⟨Text.Percent.query
    (limit.toList.map ("limit", ·) ++ offset.toList.map ("offset", ·)), ?_⟩
  rw [limit?, offset?, parameter?_withQuery, parameter?_withQuery]
  cases limit <;> cases offset <;> exact ⟨rfl, rfl⟩

end Visit

/-- A request for a list is answered by the part of the listing that its limit and its offset ask
for, or refused with a reason where one of them stands for no integer, and it changes nothing. This
holds of every query but those with a numeral of more digits than are read, for which the request
breaks without an explanation. -/
theorem queries_answered {app : App} {v : Visit} {user : String} {s : Store} {settings : Settings}
    (h : v.AsksList app user) (hs : s.Intact) (hsettings : v.settings = .ok settings)
    (hsize : Int64.fits settings.pageSize.val) :
    (∃ whole, s.Shows user whole ∧ ∀ query : List Char,
      (v.withQuery query).AnsweredFrom app s settings.pageSize.val whole) ∧
    ∀ limit offset : Option String, ∃ query,
      (v.withQuery query).limit? = limit ∧ (v.withQuery query).offset? = offset := by
  obtain ⟨t, ht⟩ := Option.isSome_iff_exists.mp hs.notices
  refine ⟨⟨Store.listing t user, Store.shows_listing ht user, fun query => ?_⟩,
    v.exists_withQuery⟩
  exact (h.withQuery query).answeredFrom hsettings hs ht hsize

def plainSettings : Settings where
  databaseURL := "sqlite://"
  secretKey := "k"
  tokenMinutes := ⟨45, by decide⟩
  timeZone := "UTC"
  tablePrefix := ""
  pageSize := ⟨20, by decide⟩
  markAllLimit := ⟨300, by decide⟩
  logLevel := "INFO"
  origins := []

/-- A request of bob's for a list. -/
def bobsList : Visit :=
  { bobsVisit "GET" "/notifications" with settings := .ok plainSettings }

theorem bobsList_asksList : bobsList.AsksList plainApp "bob" :=
  ⟨by decide +kernel, by decide, by decide +kernel⟩

theorem bobs_queries_answered :
    bobsList.AsksList plainApp "bob" ∧ Reachable .empty ∧
    bobsList.settings = .ok plainSettings ∧ Int64.fits plainSettings.pageSize.val ∧
    ∃ whole, Store.empty.Shows "bob" whole ∧
      let w := bobsList.withQuery "limit=%2B1&offset=1.5".toList
      w.limit? = some "+1" ∧ w.offset? = some "1.5" ∧
      w.AnsweredFrom plainApp .empty plainSettings.pageSize.val whole := by
  have hsettings : bobsList.settings = .ok plainSettings := rfl
  obtain ⟨⟨whole, hwhole, answered⟩, -⟩ :=
    queries_answered bobsList_asksList Reachable.empty.intact hsettings (by decide)
  exact ⟨bobsList_asksList, .empty, hsettings, by decide, whole, hwhole, by decide +kernel,
    by decide +kernel, answered _⟩

/-- A numeral of one with zeros in front of it. -/
def paddedOne (zeros : Nat) : String :=
  String.ofList (List.replicate zeros '0' ++ Nat.toDigits 10 1)

theorem denotes_paddedOne (zeros : Nat) : Denotes (paddedOne zeros).toList 1 := by
  rw [paddedOne, String.toList_ofList]
  exact Text.Numeral.denotes_zeros (v := 1) .none zeros

theorem overlong_paddedOne {zeros : Nat} (h : 4300 ≤ zeros) :
    Overlong (some (paddedOne zeros)) := by
  have hcount : (paddedOne zeros).toList.countP Char.isDigit = zeros + 1 := by
    rw [paddedOne, String.toList_ofList, List.countP_append, List.countP_replicate]
    rfl
  exact ⟨_, 1, rfl, denotes_paddedOne zeros, hcount ▸ Nat.lt_succ_of_le h⟩

/-- A numeral of a limit with too many zeros stands for an integer all the same, and breaks the
request. -/
theorem padded_limit_breaks :
    Reachable .empty ∧ Store.empty.Shows "bob" [] ∧ Int64.fits plainSettings.pageSize.val ∧
    let v := bobsList.withQuery (Text.Percent.query [("limit", paddedOne 4300)])
    v.AsksList plainApp "bob" ∧ v.settings = .ok plainSettings ∧
    StandsFor plainSettings.pageSize.val v.limit? 1 ∧ StandsFor 0 v.offset? 0 ∧
    v.response plainApp .empty = Refusal.broken.response ∧
    ¬ (v.response plainApp .empty).Lists plainSettings.pageSize.val v.limit? v.offset? [] := by
  have hsettings (query : List Char) :
      (bobsList.withQuery query).settings = .ok plainSettings := rfl
  have hsent := bobsList.parameter?_withQuery [("limit", paddedOne 4300)]
  have hlisting : Store.listing Table.empty "bob" = [] := List.mergeSort_nil
  refine ⟨.empty, hlisting ▸ Store.shows_listing rfl "bob", by decide,
    bobsList_asksList.withQuery _, hsettings _, ?_⟩
  have hlimit : (bobsList.withQuery (Text.Percent.query [("limit", paddedOne 4300)])).limit? =
      some (paddedOne 4300) := hsent "limit"
  have hoffset : (bobsList.withQuery (Text.Percent.query [("limit", paddedOne 4300)])).offset? =
      none := hsent "offset"
  have hresponse := ((bobsList_asksList.withQuery _).breaks (s := .empty) (hsettings _)
    (.inl (hlimit ▸ overlong_paddedOne (le_refl 4300)))).1
  rw [hlimit, hoffset, hresponse]
  exact ⟨.numeral (denotes_paddedOne _) (by decide), .absent, rfl,
    Response.not_lists_broken _ _ _ _⟩

end Http
end Noticeboard
