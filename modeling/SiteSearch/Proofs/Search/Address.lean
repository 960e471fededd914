import SiteSearch.Proofs.Search.Loading
import SiteSearch.Proofs.Url.Tail

/-!
# From the address of the search page to an endpoint

The query of the search page stands in its address as a form, and is asked for at an endpoint in
another. Both are read as they were written (`readForm_writeForm`, `readForm_append`), so the text
of the query arrives as it is (`query_arrives`). The pair of the query comes behind what the
reference to the endpoint has for a query; a reference that names a place has none
(`query_join_eq_none`).
-/

set_option autoImplicit false
set_option relaxedAutoImplicit false

namespace SiteSearch.Search

open Url

/-- The query of a page whose pairs are given: the value of the first with its key. -/
theorem queryOfPage_of_writeForm {address : String} {url : Url} {pairs : List (String × String)}
    (h : Url.parse address = .ok url) (hpage : IsSearchPage url)
    (hquery : url.query = some (.ofList (writeForm pairs))) :
    queryOfPage address = .ok ((pairs.find? fun pair ↦ pair.1 = "q").map Prod.snd) := by
  have hpairs : url.queryPairs = pairs := by
    rw [queryPairs, hquery]
    exact readForm_writeForm pairs
  rw [queryOfPage_of_searchPage h hpage, queriesOf, hpairs, List.head?_map, List.head?_filter]

theorem endpoint_query {base place : Url} {path : String} (h : base.join path = .ok place)
    (value : String) :
    Web.endpoint base path (some value) = .ok (place.appendPair "query" value) := by
  rw [Web.endpoint, h]

theorem map_readForm_appendPair (place : Url) (key value : String) :
    (place.appendPair key value).query.map readForm =
      some (place.queryPairs ++ [(key, value)]) := by
  rw [← queryPairs_appendPair]
  rfl

theorem namesPlace_endpoint {path : String}
    (h : path ∈ [Web.assistantPath, Web.rankedPath, Web.probePath]) :
    NamesPlace path ∧ fragmentOf path = none := by
  simp only [List.mem_cons, List.not_mem_nil, or_false] at h
  obtain rfl | rfl | rfl := h
  all_goals exact ⟨⟨by decide, by decide, by decide⟩, fragmentOf_eq_none (by decide)⟩

/-- The text of a query arrives as it is. In an address of the web, a form behind the first question
mark is the query of the URL, whatever texts its pairs are and whether a fragment follows. From a
search page the value of the first pair with the key `q` is taken, and none from another page. The
URL of an endpoint has the pair of the query behind those of the reference to the endpoint, and has
the fragment of that reference. So the pair is alone where the reference names a place, as it does
for all endpoints of a site; neither query nor fragment of the base is there. -/
theorem query_arrives (pairs : List (String × String)) :
    (∀ front tail url, '?' ∉ front ∧ '#' ∉ front → IsFragmentText tail →
      Url.parse (.ofList (front ++ '?' :: writeForm pairs ++ tail)) = .ok url →
      url.isWeb = true → url.query = some (.ofList (writeForm pairs))) ∧
    (∀ address url, Url.parse address = .ok url →
      (IsSearchPage url → url.query = some (.ofList (writeForm pairs)) →
        queryOfPage address = .ok ((pairs.find? fun pair ↦ pair.1 = "q").map Prod.snd)) ∧
      (¬ IsSearchPage url → queryOfPage address = .ok none)) ∧
    (∀ base path place, base.join path = .ok place → ∀ value,
      ∃ url, Web.endpoint base path (some value) = .ok url ∧
        url.query.map readForm = some (place.queryPairs ++ [("query", value)]) ∧
        url.fragment = fragmentOf path ∧
        (NamesPlace path → url.query.map readForm = some [("query", value)])) ∧
    ∀ path ∈ [Web.assistantPath, Web.rankedPath, Web.probePath],
      NamesPlace path ∧ fragmentOf path = none := by
  refine ⟨fun front tail url hfront htail hparse hweb ↦ ?_, fun address url hparse ↦ ⟨?_, ?_⟩,
    fun base path place hjoin value ↦ ?_, fun path ↦ namesPlace_endpoint⟩
  · exact query_parse_of_plain hfront (fun c ↦ isQueryPlain_of_mem_writeForm) htail hparse hweb
  · exact queryOfPage_of_writeForm hparse
  · exact queryOfPage_of_not_searchPage hparse
  · have hfragment : place.fragment = fragmentOf path := fragment_join hjoin
    refine ⟨_, endpoint_query hjoin value, map_readForm_appendPair place "query" value,
      hfragment, fun hpath ↦ ?_⟩
    have hnone : place.queryPairs = [] := by
      rw [queryPairs, query_join_eq_none hjoin hpath]
    rw [map_readForm_appendPair, hnone, List.nil_append]

/-- A form with a key that is repeated, and with characters that have a meaning in forms. -/
theorem query_arrives_encoded :
    let pairs := [("x", "1"), ("q", "a&b é+"), ("q", "z")]
    let address : String :=
      .ofList ("http://[::1]/search.html".toList ++ '?' :: writeForm pairs ++ "#top".toList)
    let base : Url :=
      ⟨"http", some ⟨"", none, .name "docs", none⟩, .segments [""], some "x=1", some "part"⟩
    address = "http://[::1]/search.html?x=1&q=a%26b+%C3%A9%2B&q=z#top" ∧
      queryOfPage address = .ok (some "a&b é+") ∧
      ∃ url, Web.endpoint base Web.rankedPath (some "a&b é+") = .ok url ∧
        url.query.map readForm = some [("query", "a&b é+")] ∧ url.fragment = none := by
  intro pairs address base
  let page : Url := ⟨"http", some ⟨"", none, .ipv6 [0, 0, 0, 0, 0, 0, 0, 1], none⟩,
    .segments ["search.html"], some "x=1&q=a%26b+%C3%A9%2B&q=z", some "top"⟩
  have haddress : address = "http://[::1]/search.html?x=1&q=a%26b+%C3%A9%2B&q=z#top" := by decide
  have hparse : Url.parse address = .ok page := by
    rw [haddress]
    decide
  have hpage : IsSearchPage page := ⟨['/'], [], by decide⟩
  obtain ⟨hform, hquery, hendpoint, hpaths⟩ := query_arrives pairs
  have hpageQuery := hform _ _ page (by decide) (.inr (by decide)) hparse rfl
  obtain ⟨hplace, hfragment⟩ := hpaths Web.rankedPath (by decide)
  obtain ⟨url, hurl, -, hnone, hpair⟩ := hendpoint base Web.rankedPath
    ⟨"http", some ⟨"", none, .name "docs", none⟩, .segments ["api", "ragsearch"], none, none⟩ rfl
    "a&b é+"
  refine ⟨haddress, ?_, url, hurl, hpair hplace, hnone.trans hfragment⟩
  exact (hquery address page hparse).1 hpage hpageQuery

/-- An empty reference names no place: the pair comes behind the query of the base. -/
theorem endpoint_empty_reference :
    let base : Url :=
      ⟨"http", some ⟨"", none, .name "docs.test", none⟩, .segments [""], some "x=1", none⟩
    ∃ url, Web.endpoint base "" (some "v") = .ok url ∧
      url.query.map readForm = some [("x", "1"), ("query", "v")] ∧
      url.query.map readForm ≠ some [("query", "v")] :=
  ⟨_, rfl, by decide, by decide⟩

end SiteSearch.Search
