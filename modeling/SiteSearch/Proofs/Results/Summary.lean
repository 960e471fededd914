import SiteSearch.Proofs.Results.Excerpt
import SiteSearch.Proofs.Results.Item

/-!
# Words of items

A description is kept apart from the title by the blank before its parenthesis. The excerpt of a
page stands in a paragraph of its own instead, and the text of an item has nothing between the text
of its link and that of the paragraph (`plainText_itemFor_excerpt`). So the last word of the title
and the first of the excerpt become one, unless the title ends in white space (`words_item`).
-/

set_option autoImplicit false
set_option relaxedAutoImplicit false

namespace SiteSearch.Results

open Text Html

variable {max : Nat} {page text : String}

/-! ### Excerpts -/

theorem mainText_ne_empty (h : mainText page = some text) : page ≠ "" := by
  rintro rfl
  have hnone : mainText "" = none := by decide +kernel
  cases hnone.symm.trans h

/-- The text of the main part of a page does not begin with white space. -/
theorem head?_mainText (h : mainText page = some text) :
    ∃ c ∈ text.toList.head?, isBlank c = false := by
  obtain ⟨hcollapsed, hne⟩ := isCollapsed_mainText h
  obtain ⟨c, hc⟩ := Option.ne_none_iff_exists'.mp (mt List.head?_eq_none_iff.mp hne)
  exact ⟨c, hc, hcollapsed.head c hc⟩

/-- Neither does an excerpt of it. -/
theorem head?_cut (max : Nat) {s : List Char} (h : ∃ c ∈ s.head?, isBlank c = false) :
    ∃ c ∈ (cut max s).head?, isBlank c = false := by
  obtain ⟨c, hc, hblank⟩ := h
  obtain ⟨s, rfl⟩ := List.head?_eq_some_iff.mp hc
  cases max with
  | zero =>
    have hlong : (Utf8.encode ((c :: s).take 0)).length < (Utf8.encode (c :: s)).length :=
      Utf8.length_encode_take_lt.mpr (Nat.succ_pos s.length)
    refine ⟨'.', ?_, by decide⟩
    rw [cut, if_pos hlong]
    rfl
  | succ max =>
    refine ⟨c, ?_, hblank⟩
    rw [cut, List.take_succ_cons, trimBack, dropEndWhile_cons hblank]
    rfl

/-! ### Texts of items -/

variable {s : Sequencer} {r : Record} {reply : Option Reply}

/-- An item with an excerpt has it in a paragraph behind its link. -/
theorem itemFor_excerpt (hs : s.summarize = excerpt max) (hdescription : r.description = "")
    (hpage : Web.wholeText? reply = some page) (htext : mainText page = some text) :
    s.itemFor r reply = itemOfPage s.options r.path r.title
      ("<p class=\"context\">" ++ escapeHtml (.ofList (cut max text.toList)) ++ "</p>") := by
  rw [Sequencer.itemFor, if_pos hdescription, Sequencer.summaryIn, hpage, Option.bind_some,
    if_neg (mainText_ne_empty htext), hs, excerpt, htext, Option.map_some, Option.getD_some]

theorem toList_itemFor_excerpt (hs : s.summarize = excerpt max) (hdescription : r.description = "")
    (hpage : Web.wholeText? reply = some page) (htext : mainText page = some text) :
    (s.itemFor r reply).toList =
      linkMarkup (s.options.pageUrls r.path).link.toList r.title.toList ++
        (noteMarkup (cut max text.toList) ++ "</li>".toList) := by
  rw [itemFor_excerpt hs hdescription hpage htext, itemOfPage, String.toList_append,
    String.toList_append, toList_itemOpening, itemClosing, List.append_assoc]
  simp [noteMarkup, partMarkup, escapeHtml]

/-- The text of an item with an excerpt. -/
theorem plainText_itemFor_excerpt (hs : s.summarize = excerpt max)
    (hdescription : r.description = "") (hpage : Web.wholeText? reply = some page)
    (htext : mainText page = some text) (htitle : '\x00' ∉ r.title.toList)
    (hexcerpt : '\x00' ∉ cut max text.toList) :
    plainText (parseFragment (s.itemFor r reply)) =
      .ofList (collapse (r.title.toList ++ cut max text.toList)) := by
  have hlines : (cut max text.toList).head? ≠ some '\n' := by
    obtain ⟨c, hc, hblank⟩ := head?_cut max (head?_mainText htext)
    rw [hc]
    rintro h
    obtain rfl := Option.some.inj h
    cases hblank
  rw [parseFragment_part encloses_note htitle hexcerpt
      (toList_itemFor_excerpt hs hdescription hpage htext), plainText_listItem, textOfAll, textOfAll,
    Node.allText, textOfAll_textNodes, List.append_nil, ← normalLines_append _ hlines,
    collapse_normalLines]

/-- The words of an item with a description are those of the title and then those of the description
in its parentheses. With an excerpt of the page, they are the words of title and excerpt put
together: those of the title and then those of the excerpt just when the title is empty or ends in
white space. -/
theorem words_item (s : Sequencer) (r : Record) (net : Network)
    (htitle : '\x00' ∉ r.title.toList) :
    let shown := words (plainText (parseFragment ((s.item r).run net).result)).toList
    (r.description ≠ "" → '\x00' ∉ r.description.toList →
      shown = words r.title.toList ++ words ("(" ++ r.description ++ ")").toList) ∧
    ∀ max page text, s.summarize = excerpt max → r.description = "" →
      Web.wholeText? ((s.pageAddress? r).bind net) = some page → mainText page = some text →
      '\x00' ∉ cut max text.toList →
      shown = words (r.title.toList ++ cut max text.toList) ∧
        (shown = words r.title.toList ++ words (cut max text.toList) ↔
          ∀ c ∈ r.title.toList.getLast?, isBlank c = true) := by
  intro shown
  have hitem : ((s.item r).run net).result = s.itemFor r ((s.pageAddress? r).bind net) :=
    congrArg Flow.Trace.result (s.run_item net r)
  have hshown : shown = words (plainText (parseFragment
      (s.itemFor r ((s.pageAddress? r).bind net)))).toList := by
    rw [← hitem]
  refine ⟨fun hdescription hnull ↦ ?_,
    fun max page text hs hdescription hpage htext hexcerpt ↦ ?_⟩
  · have hblank : isBlank ' ' = true := by decide
    have htext : r.text.toList = r.title.toList ++ ' ' :: ("(" ++ r.description ++ ")").toList := by
      simp [Record.text, hdescription]
    rw [hshown, plainText_itemFor htitle hnull (.inl hdescription), String.toList_ofList,
      words_collapse, htext, words_append_blank _ hblank]
  · have hwords : shown = words (r.title.toList ++ cut max text.toList) := by
      rw [hshown, plainText_itemFor_excerpt hs hdescription hpage htext htitle hexcerpt,
        String.toList_ofList, words_collapse]
    rw [hwords]
    exact ⟨rfl, words_append_eq_iff (head?_cut max (head?_mainText htext))⟩

/-- A page as it is received, and the text of its main part. -/
theorem mainText_received :
    let page := "<div role=\"main\"><p>Joins two  sources.</p></div>"
    Web.wholeText? (some ⟨200, [page.toUTF8.toList], false⟩) = some page ∧
      mainText page = some "Joins two sources." := by
  refine ⟨Web.wholeText?_toUTF8 _, ?_⟩
  rw [mainText, parseDocument, readable_ofList]
  decide +kernel

/-- A title that ends in a blank is kept apart from the excerpt. -/
theorem words_item_apart :
    let s : Sequencer := ⟨⟨"http", none, .segments [""], none, none⟩, .initial, excerpt 240⟩
    let r : Record := ⟨"api/join", "Join ", "", "", 1⟩
    let page := "<div role=\"main\"><p>Joins two  sources.</p></div>"
    let net : Network := fun _ ↦ some ⟨200, [page.toUTF8.toList], false⟩
    words (plainText (parseFragment ((s.item r).run net).result)).toList =
      words "Join ".toList ++ words "Joins two sources.".toList := by
  intro s r page net
  obtain ⟨hreply, htext⟩ := mainText_received
  obtain ⟨url, haddress⟩ : ∃ url, s.pageAddress? r = some url :=
    Option.isSome_iff_exists.mp (by decide)
  have hpage : Web.wholeText? ((s.pageAddress? r).bind net) = some page := by
    rw [haddress]
    exact hreply
  have hcut : cut 240 "Joins two sources.".toList = "Joins two sources.".toList := by decide
  have hend : ∀ c ∈ r.title.toList.getLast?, isBlank c = true := by
    have hlast : r.title.toList.getLast? = some ' ' := by decide
    rw [hlast]
    rintro c ⟨⟩
    decide
  have hwords := (words_item s r net (by decide)).2 240 page "Joins two sources." rfl rfl hpage
    htext (by rw [hcut]; decide)
  rw [hcut] at hwords
  exact hwords.2.mpr hend

/-- The last word of a title and the first word of the excerpt become one. -/
theorem words_item_joined :
    let s : Sequencer := ⟨⟨"http", none, .segments [""], none, none⟩, .initial, excerpt 240⟩
    let r : Record := ⟨"api/join", "Join", "", "", 1⟩
    let page := "<div role=\"main\"><p>Joins two  sources.</p></div>"
    let net : Network := fun _ ↦ some ⟨200, [page.toUTF8.toList], false⟩
    let html := ((s.item r).run net).result
    mainText page = some "Joins two sources." ∧
      html = "<li><a href=\"api/join.html\">Join</a><p class=\"context\">Joins two sources.</p></li>" ∧
      words (plainText (parseFragment html)).toList =
        ["JoinJoins".toList, "two".toList, "sources.".toList] ∧
      words (plainText (parseFragment html)).toList ≠
        words "Join".toList ++ words "Joins two sources.".toList := by
  intro s r page net html
  have hsummarize : s.summarize = excerpt 240 := rfl
  obtain ⟨hreply, htext⟩ := mainText_received
  obtain ⟨url, haddress⟩ : ∃ url, s.pageAddress? r = some url :=
    Option.isSome_iff_exists.mp (by decide)
  have hhtml : html = s.itemFor r (some ⟨200, [page.toUTF8.toList], false⟩) := by
    rw [show html = s.itemFor r ((s.pageAddress? r).bind net) from
      congrArg Flow.Trace.result (s.run_item net r), haddress]
    rfl
  have hwords : words (plainText (parseFragment html)).toList =
      words ("Join".toList ++ cut 240 "Joins two sources.".toList) := by
    rw [hhtml, plainText_itemFor_excerpt hsummarize rfl hreply htext (by decide) (by decide),
      String.toList_ofList, words_collapse]
  refine ⟨htext, ?_, hwords.trans (by decide), ?_⟩
  · exact (hhtml.trans (itemFor_excerpt hsummarize rfl hreply htext)).trans (by decide)
  · rw [hwords]
    decide

end SiteSearch.Results
