import Mathlib.Data.List.Basic
import SiteSearch.Proofs.Results.Sequence
import SiteSearch.Proofs.Text.Lower
import SiteSearch.Proofs.Text.Words
import SiteSearch.Search.Keyword

/-!
# Pages found by their titles

A page is found when its title holds the query, every word of it in any order (`Holds`). So the
pages found for two queries put together are those found for both (`places_append`), and they are
shown as results without a description or a summary are (`byTitle_finds_all_words`). A word that
stands in a title is found there as long as its sigmas are final in the title where they are in the
word (`titleHits_finds_words`); where they are not, it may be missed (`titleHits_misses_sigma`).
-/

set_option autoImplicit false
set_option relaxedAutoImplicit false

namespace SiteSearch.Search

open Text

theorem occursIn_iff {piece s : List Char} : occursIn piece s = true ↔ piece <:+: s := by
  induction s with
  | nil => simp [occursIn]
  | cons c s ih => simp [occursIn, ih, List.infix_cons_iff]

/-! ### Titles -/

/-- The title holds every word of the query, which has one, in lower case. -/
def Holds (query title : String) : Prop :=
  words query.toList ≠ [] ∧ ∀ w ∈ words query.toList, lower w <:+: lower title.toList

instance (query title : String) : Decidable (Holds query title) :=
  inferInstanceAs (Decidable (_ ∧ _))

variable {index : Site.Index} {query p q title : String}

theorem titleMatches_iff {ws : List (List Char)} :
    titleMatches (ws.map lower) title = true ↔ ∀ w ∈ ws, lower w <:+: lower title.toList := by
  simp [titleMatches, occursIn_iff]

theorem titleHits_eq_filter (index : Site.Index) (query : String) :
    titleHits index query = index.entries.filter fun e ↦ Holds query e.2 := by
  unfold titleHits queryWords
  cases hwords : words query.toList with
  | nil => simp [Holds, hwords]
  | cons w ws =>
    refine List.filter_congr fun e _ ↦ ?_
    rw [Bool.eq_iff_iff, decide_eq_true_iff, Holds, hwords]
    exact titleMatches_iff.trans (by simp)

/-- What a title holds is a matter of the words of the query alone. -/
theorem holds_congr (h : ∀ w, w ∈ words p.toList ↔ w ∈ words q.toList) :
    Holds p title ↔ Holds q title := by
  have hsome : words p.toList = [] ↔ words q.toList = [] := by
    simp only [List.eq_nil_iff_forall_not_mem, h]
  simp only [Holds, ne_eq, hsome, h]

theorem Holds.of_subset (h : Holds q title) (hp : words p.toList ≠ [])
    (hsubset : words p.toList ⊆ words q.toList) : Holds p title :=
  ⟨hp, fun w hw ↦ h.2 w (hsubset hw)⟩

theorem words_join (p q : String) :
    words (p ++ " " ++ q).toList = words p.toList ++ words q.toList := by
  have hblank : isBlank ' ' = true := by decide
  rw [String.toList_append, String.toList_append, List.append_assoc]
  exact words_append_blank p.toList hblank q.toList

theorem holds_join (hp : words p.toList ≠ []) (hq : words q.toList ≠ []) :
    Holds (p ++ " " ++ q) title ↔ Holds p title ∧ Holds q title := by
  simp only [Holds, words_join, List.forall_mem_append, ne_eq, List.append_eq_nil_iff, hp, hq,
    false_and, not_false_eq_true, true_and]

/-! ### Places in the index -/

/-- The places in the index of the pages found for a query. -/
def places (index : Site.Index) (query : String) : List Nat :=
  (List.range index.length).filter fun i ↦ index.entries[i]?.any fun e ↦ Holds query e.2

theorem mem_places {i : Nat} :
    i ∈ places index query ↔ ∃ e, index.entries[i]? = some e ∧ Holds query e.2 := by
  simp only [places, List.mem_filter, List.mem_range, Option.any_eq_true, decide_eq_true_eq,
    and_iff_right_iff_imp]
  rintro ⟨e, he, -⟩
  exact (List.getElem?_eq_some_iff.mp he).1

theorem pairwise_places (index : Site.Index) (query : String) :
    (places index query).Pairwise (· < ·) :=
  List.pairwise_lt_range.filter _

theorem filter_eq_filterMap_range {α : Type} (holds : α → Bool) (l : List α) :
    l.filter holds =
      ((List.range l.length).filter fun i ↦ l[i]?.any holds).filterMap (l[·]?) := by
  induction l with
  | nil => rfl
  | cons a l ih =>
    rw [List.length_cons, List.range_succ_eq_map, List.filter_cons, List.filter_cons]
    simp only [List.getElem?_cons_zero, Option.any_some, List.filter_map, Function.comp_def,
      Nat.succ_eq_add_one, List.getElem?_cons_succ]
    split
    · rw [List.filterMap_cons_some (by rfl), List.filterMap_map, ih]
      rfl
    · rw [List.filterMap_map, ih]
      rfl

theorem titleHits_eq_places (index : Site.Index) (query : String) :
    titleHits index query = (places index query).filterMap (index.entries[·]?) := by
  rw [titleHits_eq_filter, filter_eq_filterMap_range]
  rfl

/-- The pages found for two queries put together are those found for both. -/
theorem places_append (hp : words p.toList ≠ []) (hq : words q.toList ≠ []) :
    places index (p ++ " " ++ q) = (places index p).filter (· ∈ places index q) := by
  have hboth : (places index p).filter (· ∈ places index q) = (List.range index.length).filter
      fun i ↦ decide (i ∈ places index q) && index.entries[i]?.any fun e ↦ Holds p e.2 :=
    List.filter_filter
  rw [hboth, places]
  refine List.filter_congr fun i _ ↦ ?_
  rw [Bool.eq_iff_iff, Bool.and_eq_true, decide_eq_true_iff, mem_places]
  simp only [Option.any_eq_true, decide_eq_true_eq, holds_join hp hq]
  constructor
  · rintro ⟨e, he, hholds⟩
    exact ⟨⟨e, he, hholds.2⟩, e, he, hholds.1⟩
  · rintro ⟨⟨e, he, hholds⟩, e', he', hholds'⟩
    obtain rfl := Option.some.inj (he.symm.trans he')
    exact ⟨e, he, hholds', hholds⟩

/-- Further words find no further pages. -/
theorem titleHits_sublist (hp : words p.toList ≠ [])
    (hsubset : words p.toList ⊆ words q.toList) :
    (titleHits index q).Sublist (titleHits index p) := by
  rw [titleHits_eq_filter, titleHits_eq_filter]
  refine List.monotone_filter_right _ fun e he ↦ ?_
  exact decide_eq_true ((of_decide_eq_true he).of_subset hp hsubset)

theorem titleHits_congr (h : ∀ w, w ∈ words p.toList ↔ w ∈ words q.toList) :
    titleHits index p = titleHits index q := by
  rw [titleHits_eq_filter, titleHits_eq_filter]
  exact List.filter_congr fun e _ ↦ by rw [decide_eq_decide, holds_congr h]

/-! ### Items -/

/-- The item of a page found by its title is that of a result that has nothing but this title. -/
theorem run_item_plain {s : Results.Sequencer} {options : Site.Options}
    (hs : s.options = { options with showSummary := false }) {r : Results.Record}
    (hr : r.description = "") (net : Network) :
    ((s.item r).run net).result = Results.itemOfPage options r.path r.title "" := by
  have hnowhere : s.pageAddress? r = none := by simp [Results.Sequencer.pageAddress?, hs]
  have hurls : s.options.pageUrls r.path = options.pageUrls r.path := by rw [hs]; rfl
  rw [s.run_item, hnowhere, Results.Sequencer.itemFor, if_pos hr, Results.itemOfPage, hurls]
  rfl

theorem run_byTitle (index : Site.Index) (options : Site.Options) (query : String)
    (net : Network) :
    ((byTitle index options).answer query).run net =
      ⟨[], ((titleHits index query).map fun e ↦
        .append (Results.itemOfPage options e.1 e.2 "")) ++ Results.finish, .ok ()⟩ := by
  simp only [byTitle, Flow.run_bind, Flow.run_calls, Flow.run_pure, List.append_nil]

/-- A query finds the pages whose titles hold all its words, in the order of the index and each as
often as it stands there; a query without words finds none. What is found for two queries put
together is what is found for both, so that the order, the number and the spacing of words do not
matter, and no word adds a page. Each page found is shown as a result that has its path and title
and nothing else, and then the search is ended. -/
theorem byTitle_finds_all_words (index : Site.Index) (options : Site.Options) :
    (∀ query, titleHits index query = (places index query).filterMap (index.entries[·]?) ∧
      (places index query).Pairwise (· < ·) ∧
      ∀ i, i ∈ places index query ↔ ∃ e, index.entries[i]? = some e ∧
        words query.toList ≠ [] ∧ ∀ w ∈ words query.toList, lower w <:+: lower e.2.toList) ∧
    (∀ p q, words p.toList ≠ [] → words q.toList ≠ [] →
      places index (p ++ " " ++ q) = (places index p).filter (· ∈ places index q)) ∧
    (∀ p q, (∀ w, w ∈ words p.toList ↔ w ∈ words q.toList) →
      titleHits index p = titleHits index q) ∧
    (∀ p q, words p.toList ≠ [] → words p.toList ⊆ words q.toList →
      (titleHits index q).Sublist (titleHits index p)) ∧
    ∀ (s : Results.Sequencer) (record : String × String → Results.Record) (net net' : Network),
      s.options = { options with showSummary := false } →
      (∀ e, (record e).path = e.1 ∧ (record e).title = e.2 ∧ (record e).description = "") →
      ∀ query, ((byTitle index options).answer query).run net =
        ⟨[], ((titleHits index query).map fun e ↦
          .append ((s.item (record e)).run net').result) ++
            [.stopPulse, .setTitle "Search Results", .revealStatus], .ok ()⟩ := by
  refine ⟨fun query ↦ ⟨titleHits_eq_places index query, pairwise_places index query,
    fun i ↦ mem_places⟩, fun p q ↦ places_append, fun p q ↦ titleHits_congr,
    fun p q ↦ titleHits_sublist, fun s record net net' hs hrecord query ↦ ?_⟩
  have hitem (e : String × String) : ((s.item (record e)).run net').result =
      Results.itemOfPage options e.1 e.2 "" := by
    obtain ⟨hpath, htitle, hdescription⟩ := hrecord e
    rw [run_item_plain hs hdescription, hpath, htitle]
  simp only [run_byTitle, hitem]
  rfl

/-- Two words find the one page of which the title holds both, each time it is listed. -/
theorem byTitle_finds_all_words_twice :
    let index : Site.Index := ⟨[("a", "Join"), ("b", "Join by time"), ("b", "Join by time")]⟩
    places index ("TIME" ++ " " ++ "join") = [1, 2] ∧
      titleHits index "join  time join" = titleHits index "time join" ∧
      (titleHits index "time join").Sublist (titleHits index "join") ∧
      ((byTitle index .initial).answer "time join").run (fun _ ↦ none) =
        ⟨[], [.append "<li><a href=\"b.html\">Join by time</a></li>",
          .append "<li><a href=\"b.html\">Join by time</a></li>",
          .stopPulse, .setTitle "Search Results", .revealStatus], .ok ()⟩ := by
  intro index
  let s : Results.Sequencer := ⟨⟨"http", none, .segments [""], none, none⟩,
    { Site.Options.initial with showSummary := false }, fun _ ↦ none⟩
  have hjoin : words "join  time join".toList = ["join".toList, "time".toList, "join".toList] := by
    decide
  have htime : words "time join".toList = ["time".toList, "join".toList] := by decide
  obtain ⟨-, hboth, hwords, hfewer, hshown⟩ := byTitle_finds_all_words index .initial
  refine ⟨(hboth "TIME" "join" (by decide) (by decide)).trans (by decide +kernel),
    hwords _ _ fun w ↦ ?_, hfewer _ _ (by decide) (by decide), ?_⟩
  · rw [hjoin, htime]
    simp only [List.mem_cons, List.not_mem_nil, or_false]
    tauto
  · rw [hshown s (fun e ↦ ⟨e.1, e.2, "", "", 1⟩) _ (fun _ ↦ none) rfl
      fun e ↦ ⟨rfl, rfl, rfl⟩]
    have hhits : titleHits index "time join" = [("b", "Join by time"), ("b", "Join by time")] := by
      decide
    have hitem : ((s.item ⟨"b", "Join by time", "", "", 1⟩).run fun _ ↦ none).result =
        "<li><a href=\"b.html\">Join by time</a></li>" := by decide
    rw [hhits, List.map_cons, List.map_singleton, hitem]
    rfl

/-- A word that stands in a title finds it, if its sigmas are final in the title just where they are
final in the word. -/
theorem titleHits_finds_words {index : Site.Index} {e : String × String} (he : e ∈ index.entries)
    {query : String} (hquery : words query.toList ≠ [])
    (h : ∀ w ∈ words query.toList, ∃ front back,
      e.2.toList = front ++ w ++ back ∧ KeepsSigmas front w back) :
    e ∈ titleHits index query := by
  rw [titleHits_eq_filter, List.mem_filter, decide_eq_true_iff]
  refine ⟨he, hquery, fun w hw ↦ ?_⟩
  obtain ⟨front, back, htitle, hkeeps⟩ := h w hw
  rw [htitle]
  exact lower_infix hkeeps

theorem titleHits_finds_words_greek :
    ("way", "ΟΔΟΣ join") ∈ titleHits ⟨[("way", "ΟΔΟΣ join")]⟩ "join ΟΔΟΣ" := by
  refine titleHits_finds_words List.mem_cons_self (by decide) fun w hw ↦ ?_
  have hwords : words "join ΟΔΟΣ".toList = ["join".toList, "ΟΔΟΣ".toList] := by decide
  rw [hwords] at hw
  simp only [List.mem_cons, List.not_mem_nil, or_false] at hw
  obtain rfl | rfl := hw
  · exact ⟨"ΟΔΟΣ ".toList, [], by decide, keepsSigmas_of_notMem (by decide) _ _⟩
  · exact ⟨[], " join".toList, by decide, keepsSigmas_of_apart (by decide) (by decide) _⟩

/-- A title holds the word of a query as it is written, and is not found: the sigma ends the word
and stands within the title. -/
theorem titleHits_misses_sigma :
    let index : Site.Index := ⟨[("a", "AΣB")]⟩
    words "AΣ".toList = ["AΣ".toList] ∧ "AΣ".toList <:+: "AΣB".toList ∧
      titleHits index "AΣ" = [] := by
  exact ⟨by decide, ⟨[], ['B'], by decide⟩, by decide⟩

end SiteSearch.Search
