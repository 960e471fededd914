import SiteSearch.Proofs.Answer.Delivery
import SiteSearch.Proofs.Search.Page
import SiteSearch.Proofs.Search.Title
import SiteSearch.Proofs.Web.Interleaving

/-!
# Loading a page

Loading the search page runs a search and an answer side by side (`Page.load_eq_both`). Neither
waits for the other or fails with it, so whatever the schedule is, each does what it would do alone
(`Page.load_runs_both`); only the result of the load puts a failure of the search first.
-/

set_option autoImplicit false
set_option relaxedAutoImplicit false

namespace SiteSearch.Search

/-! ### The query of a page -/

/-- Whether a URL is that of the search page. -/
def IsSearchPage (url : Url) : Prop :=
  "search.html".toList <:+: url.path.write.toList

/-- The values of the parameter that holds the query. -/
def queriesOf (url : Url) : List String :=
  (url.queryPairs.filter fun pair ↦ pair.1 = "q").map Prod.snd

theorem queryOfPage_of_error {address : String} {fault : Url.Fault}
    (h : Url.parse address = .error fault) : queryOfPage address = .error (.url fault) := by
  unfold queryOfPage
  rw [h]

theorem queryOfPage_of_searchPage {address : String} {url : Url}
    (h : Url.parse address = .ok url) (hpage : IsSearchPage url) :
    queryOfPage address = .ok (queriesOf url).head? := by
  have hmark : occursIn searchPageMark url.path.write.toList = true := occursIn_iff.mpr hpage
  unfold queryOfPage
  rw [h, queriesOf, List.head?_map, List.head?_filter]
  simp only [hmark, if_true]
  rfl

theorem queryOfPage_of_not_searchPage {address : String} {url : Url}
    (h : Url.parse address = .ok url) (hpage : ¬ IsSearchPage url) :
    queryOfPage address = .ok none := by
  have hmark : ¬ occursIn searchPageMark url.path.write.toList = true :=
    fun hoccurs ↦ hpage (occursIn_iff.mp hoccurs)
  unfold queryOfPage
  rw [h]
  simp only [hmark]
  rfl

theorem queryOfPage_eq_none {address : String} {url : Url} (h : Url.parse address = .ok url)
    (hnone : ¬ IsSearchPage url ∨ queriesOf url = []) : queryOfPage address = .ok none := by
  by_cases hpage : IsSearchPage url
  · have hqueries : queriesOf url = [] := hnone.resolve_left fun hnot ↦ hnot hpage
    rw [queryOfPage_of_searchPage h hpage, hqueries, List.head?_nil]
  · exact queryOfPage_of_not_searchPage h hpage

namespace Page

variable (p : Page) (address : String) (panel : Answer.Panel)

/-! ### The steps of a load -/

theorem load_of_query_error {failure : Failure} (h : queryOfPage address = .error failure)
    (schedule : List Bool) :
    p.load schedule address panel = .done (p, .error failure) := by
  unfold load
  rw [h]

theorem load_of_error {fault : Url.Fault} (h : Url.parse address = .error fault)
    (schedule : List Bool) :
    p.load schedule address panel = .done (p, .error (.url fault)) :=
  p.load_of_query_error address panel (queryOfPage_of_error h) schedule

theorem run_load_of_no_query (h : queryOfPage address = .ok none) (schedule : List Bool)
    (net : Network) :
    (p.load schedule address panel).run net =
      ⟨p.checks, [], (p.settled net, .ok ⟨p.reported net, none, none⟩)⟩ := by
  unfold load
  rw [h]
  simp only [Flow.run_bind, run_backend, Flow.run_pure, List.append_nil]

/-- What a load gives: the failure of the search if there is one, else that of the answer. -/
def outcome (query : String) (searched : Except Failure Backend)
    (streamed : Answer.Session × Except Failure Unit) : Except Failure Loaded :=
  match searched, streamed.2 with
  | .error failure, _ => .error failure
  | .ok _, .error failure => .error failure
  | .ok backend, .ok () => .ok ⟨backend, some query, some streamed.1⟩

theorem load_eq_both {query : String} (h : queryOfPage address = .ok (some query))
    (schedule : List Bool) :
    p.load schedule address panel =
      (do
        let both ← Flow.both schedule (p.search query)
          ((Answer.Session.idle panel).start p.base p.style query)
        return (both.1.1, outcome query both.1.2 both.2)) := by
  unfold load
  rw [h]
  refine congrArg (Flow.both schedule (p.search query) _ >>= ·) (funext fun both ↦ ?_)
  obtain ⟨⟨after, searched⟩, session, streamed⟩ := both
  cases searched <;> cases streamed <;> rfl

variable {address}

section Query

variable {query : String} (h : queryOfPage address = .ok (some query)) (schedule : List Bool)
  (net : Network)

include h

theorem steps_load :
    (p.load schedule address panel).steps net =
      (Flow.both schedule (p.search query)
        ((Answer.Session.idle panel).start p.base p.style query)).steps net := by
  rw [load_eq_both p address panel h, Flow.steps_bind]
  exact List.append_nil _

theorem run_load_requests :
    Interleaving ((p.search query).run net).requests
      (((Answer.Session.idle panel).start p.base p.style query).run net).requests
      ((p.load schedule address panel).run net).requests := by
  rw [Flow.run_requests_eq net (p.load schedule address panel), steps_load p panel h,
    ← Flow.run_requests_eq]
  exact Flow.run_both_requests net _ _ schedule

theorem run_load_calls :
    ((p.load schedule address panel).run net).calls.filterMap Sum.getLeft? =
        ((p.search query).run net).calls ∧
      ((p.load schedule address panel).run net).calls.filterMap Sum.getRight? =
        (((Answer.Session.idle panel).start p.base p.style query).run net).calls := by
  rw [Flow.run_calls_eq net (p.load schedule address panel), steps_load p panel h,
    ← Flow.run_calls_eq]
  exact Flow.run_both_calls_eq net _ _ schedule

theorem run_load_result :
    ((p.load schedule address panel).run net).result =
      (((p.search query).run net).result.1,
        outcome query ((p.search query).run net).result.2
          (((Answer.Session.idle panel).start p.base p.style query).run net).result) := by
  rw [load_eq_both p address panel h, Flow.run_bind, Flow.run_both_result]
  rfl

end Query

/-- A load whose address is no URL does nothing. One of another page, or without a query, only asks
what answers queries. Any other load makes the steps of a search and those of an answer from a new
session, interleaved in any way, and each of the two makes all of its own, on its own panel,
whatever becomes of the other. It leaves the page that the search leaves, and gives the failure of
the search, else that of the answer, else both with the session closed. Whatever is answered where
the search does not ask, the list of results is the same. -/
theorem load_runs_both (p : Page) (address : String) (panel : Answer.Panel) (net : Network) :
    (∀ fault, Url.parse address = .error fault → ∀ schedule,
      (p.load schedule address panel).run net = ⟨[], [], (p, .error (.url fault))⟩) ∧
    (∀ url, Url.parse address = .ok url → ¬ IsSearchPage url ∨ queriesOf url = [] →
      ∀ schedule,
        let asked := (p.backend : Flow (Results.Call ⊕ Answer.Call) (Page × Backend)).run net
        (p.load schedule address panel).run net =
          ⟨asked.requests, [], (asked.result.1, .ok ⟨asked.result.2, none, none⟩)⟩) ∧
    ∀ url query rest, Url.parse address = .ok url → IsSearchPage url →
      queriesOf url = query :: rest →
        let search := p.search query
        let answer := (Answer.Session.idle panel).start p.base p.style query
        let searched := search.run net
        let streamed := answer.run net
        let sideBySide := Interleaving ((search.steps net).map (Sum.map id Sum.inl))
          ((answer.steps net).map (Sum.map id Sum.inr))
        (∀ steps, sideBySide steps ↔
          ∃ schedule, (p.load schedule address panel).steps net = steps) ∧
        ∀ schedule,
          let loaded := (p.load schedule address panel).run net
          loaded.calls.filterMap Sum.getLeft? = searched.calls ∧
            loaded.calls.filterMap Sum.getRight? = streamed.calls ∧
            Interleaving searched.requests streamed.requests loaded.requests ∧
            loaded.result.1 = searched.result.1 ∧
            streamed.result.1.phase = .closed ∧
            loaded.result.2 = (match searched.result.2, streamed.result.2 with
              | .error failure, _ => .error failure
              | .ok _, .error failure => .error failure
              | .ok backend, .ok () => .ok ⟨backend, some query, some streamed.result.1⟩) ∧
            ∀ net', (∀ asked ∈ searched.requests, net' asked = net asked) →
              ((p.load schedule address panel).run net').calls.filterMap Sum.getLeft? =
                searched.calls := by
  refine ⟨fun fault hfault schedule ↦ ?_, fun url hurl hnone schedule ↦ ?_,
    fun url query rest hurl hpage hqueries ↦ ?_⟩
  · rw [load_of_error p address panel hfault]
    rfl
  · rw [run_load_of_no_query p address panel (queryOfPage_eq_none hurl hnone)]
    simp only [run_backend]
  · have h : queryOfPage address = .ok (some query) := by
      rw [queryOfPage_of_searchPage hurl hpage, hqueries, List.head?_cons]
    intro search answer searched streamed sideBySide
    refine ⟨fun steps ↦ ⟨fun hsteps ↦ ?_, ?_⟩, fun schedule ↦ ?_⟩
    · obtain ⟨schedule, hschedule⟩ := Flow.exists_schedule net search answer hsteps
      exact ⟨schedule, (steps_load p panel h schedule net).trans hschedule⟩
    · rintro ⟨schedule, rfl⟩
      rw [steps_load p panel h]
      exact Flow.steps_both net search answer schedule
    · have hclosed :=
        (Answer.Session.run_start_phase (Answer.Session.idle panel) p.style rfl p.base query net).1
      obtain ⟨hresults, hanswers⟩ := run_load_calls p panel h schedule net
      refine ⟨hresults, hanswers, run_load_requests p panel h schedule net, ?_, hclosed, ?_,
        fun net' hagree ↦ ?_⟩
      · rw [run_load_result p panel h]
      · rw [run_load_result p panel h]
        rfl
      · rw [(run_load_calls p panel h schedule net').1, Flow.run_congr hagree]

/-- A page loaded from a disk, whose site streams an answer that is malformed: the results are
listed all the same. -/
theorem load_runs_both_malformed :
    let url : Url :=
      ⟨"file", some ⟨"", none, .name "", none⟩, .segments ["search.html"], some "q=join", none⟩
    Url.parse "file:///search.html?q=join" = .ok url ∧ IsSearchPage url ∧
      queriesOf url = ["join"] ∧
      let base : Url := ⟨"http", some ⟨"", none, .name "docs", none⟩, .segments [""], none, none⟩
      let p := initial base ⟨id, ⟨"", .empty⟩⟩ (byTitle ⟨[("join", "Join")]⟩ .initial)
        (byRank base ⟨base, .initial, fun _ ↦ none⟩)
      let net : Network := fun url ↦
        if url.path = .segments ["api", "assistant"] then
          some ⟨200, ["data: 7\n\n".toUTF8.toList], false⟩
        else none
      let loaded := (p.load [false, true] "file:///search.html?q=join" .initial).run net
      loaded.calls.filterMap Sum.getLeft? =
          [.append "<li><a href=\"join.html\">Join</a></li>", .stopPulse,
            .setTitle "Search Results", .revealStatus] ∧
        loaded.result.2 = .error (.fragment "7") := by
  intro url
  have hparse : Url.parse "file:///search.html?q=join" = .ok url := rfl
  have hpage : IsSearchPage url := by
    unfold IsSearchPage
    decide +kernel
  have hqueries : queriesOf url = ["join"] := by decide +kernel
  refine ⟨hparse, hpage, hqueries, ?_⟩
  intro base p net loaded
  obtain ⟨-, -, hload⟩ := load_runs_both p "file:///search.html?q=join" .initial net
  obtain ⟨-, hload⟩ := hload url "join" [] hparse hpage hqueries
  obtain ⟨hresults, -, -, -, -, hresult, -⟩ := hload [false, true]
  have hsearched : ((p.search "join").run net).result.2 = .ok .keyword := rfl
  have hstreamed : (((Answer.Session.idle .initial).start p.base p.style "join").run net).result.2 =
      .error (.fragment "7") := by
    have hpayloads : Answer.Session.delivered
        (some ⟨200, ["data: 7\n\n".toUTF8.toList], false⟩) = ["7"] := by decide +kernel
    have haddress : Web.endpoint p.base Web.assistantPath (some "join") = .ok
        ⟨"http", some ⟨"", none, .name "docs", none⟩, .segments ["api", "assistant"],
          some "query=join", none⟩ := rfl
    rw [Answer.Session.run_start_ok _ _ rfl haddress]
    change Answer.Session.verdict (Answer.Session.delivered
        (some ⟨200, ["data: 7\n\n".toUTF8.toList], false⟩)) = _
    rw [hpayloads]
    rfl
  rw [hsearched, hstreamed] at hresult
  refine ⟨hresults.trans ?_, hresult⟩
  decide +kernel

end Page

end SiteSearch.Search
