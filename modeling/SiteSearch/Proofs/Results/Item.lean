import SiteSearch.Proofs.Html.ListItem
import SiteSearch.Proofs.Results.Sequence
import SiteSearch.Terminal

/-!
# Items read back

An item without a summary is a list item with a link, behind which its description may stand in an
element of its own. Read as HTML, it has this very link and the text of title and description,
whatever markup or references these seem to hold (`parseFragment_itemFor`); its line on a terminal
shows both (`item_reads_back`).
-/

set_option autoImplicit false
set_option relaxedAutoImplicit false

namespace SiteSearch.Results

open Text Html

/-- What a result says without a summary: its title, with its description in parentheses. -/
def Record.text (r : Record) : String :=
  if r.description = "" then r.title else r.title ++ " (" ++ r.description ++ ")"

/-! ### Markup of items -/

theorem toList_itemOpening (title link : String) :
    (itemOpening title link).toList = linkMarkup link.toList title.toList := by
  unfold itemOpening linkMarkup escapeHtml
  simp

theorem toList_descriptionMarkup (description : String) :
    (descriptionMarkup description).toList =
      asideMarkup (" (".toList ++ (description.toList ++ ")".toList)) := by
  simp [descriptionMarkup, asideMarkup, partMarkup, escapeHtml]
  rfl

theorem collapse_normalLines (s : List Char) : collapse (normalLines s) = collapse s := by
  rw [collapse, words_normalLines, collapse]

/-! ### Items -/

variable {s : Sequencer} {r : Record} {reply : Option Reply}

theorem parseFragment_itemFor
    (htitle : '\x00' ∉ r.title.toList) (hdescription : '\x00' ∉ r.description.toList)
    (hplain : r.description ≠ "" ∨ s.summaryIn reply = none) :
    ∃ title more,
      parseFragment (s.itemFor r reply) =
        listItem (addressOf (normalLines (s.options.pageUrls r.path).link.toList)) title more ∧
      Unlinked more ∧ collapse (title ++ textOfAll more) = collapse r.text.toList := by
  by_cases hdescribed : r.description = ""
  · have htext : (s.itemFor r reply).toList =
        linkMarkup (s.options.pageUrls r.path).link.toList r.title.toList ++ "</li>".toList := by
      rw [s.itemFor_of_summaryIn_eq_none hdescribed (hplain.resolve_left fun h ↦ h hdescribed),
        String.toList_append, toList_itemOpening, itemClosing]
    refine ⟨_, _, parseFragment_link htitle htext, rfl, ?_⟩
    rw [Record.text, if_pos hdescribed, textOfAll, List.append_nil, collapse_normalLines]
  · have htext : (s.itemFor r reply).toList =
        linkMarkup (s.options.pageUrls r.path).link.toList r.title.toList ++
          (asideMarkup (" (".toList ++ (r.description.toList ++ ")".toList)) ++
            "</li>".toList) := by
      rw [Sequencer.itemFor, if_neg hdescribed, itemOfPage, String.toList_append,
        String.toList_append, toList_itemOpening, toList_descriptionMarkup, itemClosing,
        List.append_assoc]
    have haside : '\x00' ∉ " (".toList ++ (r.description.toList ++ ")".toList) := by
      simp [hdescription]
    have hunlinked (s : List Char) : Unlinked [.element 4 "span" [] (textNodes s)] := by
      have htext := unlinked_textNodes s
      unfold Unlinked at htext ⊢
      simp [elementsAmong, Node.elements, isLink, htext]
    refine ⟨_, _, parseFragment_part encloses_aside htitle haside htext, hunlinked _, ?_⟩
    have hshown : textOfAll [.element 4 "span" []
        (textNodes (normalLines (" (".toList ++ (r.description.toList ++ ")".toList))))] =
          normalLines (" (".toList ++ (r.description.toList ++ ")".toList)) := by
      rw [textOfAll, textOfAll, Node.allText, textOfAll_textNodes, List.append_nil]
    rw [hshown, ← normalLines_append r.title.toList (by simp), collapse_normalLines, Record.text,
      if_neg hdescribed]
    simp

theorem plainText_itemFor (htitle : '\x00' ∉ r.title.toList)
    (hdescription : '\x00' ∉ r.description.toList)
    (hplain : r.description ≠ "" ∨ s.summaryIn reply = none) :
    plainText (parseFragment (s.itemFor r reply)) = .ofList (collapse r.text.toList) := by
  obtain ⟨title, more, hnodes, -, htext⟩ := parseFragment_itemFor htitle hdescription hplain
  rw [hnodes, plainText_listItem, htext]

/-- An item without a summary, read as HTML, has the link of its page and the text of its title and
description, white space collapsed, whatever markup or references stand in these. So its line on a
terminal without styles has this text and this link. -/
theorem item_reads_back (s : Sequencer) (r : Record) (net : Network)
    (hlink : ∀ c ∈ (s.options.pageUrls r.path).link.toList, c ≠ '\x00' ∧ c ≠ '\r')
    (htitle : '\x00' ∉ r.title.toList) (hdescription : '\x00' ∉ r.description.toList)
    (hplain : r.description ≠ "" ∨ s.summaryIn ((s.pageAddress? r).bind net) = none) :
    let link := (s.options.pageUrls r.path).link
    let shown := String.ofList (collapse r.text.toList)
    let html := ((s.item r).run net).result
    firstAddress? (parseFragment html) = some link ∧
      plainText (parseFragment html) = shown ∧
      ∀ t : Terminal, t.styled = false → t.textLine html = "• " ++ shown ++ "  " ++ link := by
  intro link shown html
  have hhtml : html = s.itemFor r ((s.pageAddress? r).bind net) :=
    congrArg Flow.Trace.result (s.run_item net r)
  obtain ⟨title, more, hnodes, hmore, -⟩ := parseFragment_itemFor htitle hdescription hplain
  have haddress : firstAddress? (parseFragment html) = some link := by
    rw [hhtml, hnodes, firstAddress?_listItem _ _ hmore,
      addressOf_normalLines hlink, String.ofList_toList]
  have hshown : plainText (parseFragment html) = shown := by
    rw [hhtml, plainText_itemFor htitle hdescription hplain]
  refine ⟨haddress, hshown, fun t ht ↦ ?_⟩
  have hdim : t.dim link = link := by
    rw [Terminal.dim, Terminal.style, ht, if_neg Bool.false_ne_true]
  simp only [Terminal.textLine, haddress, hshown, hdim, String.append_assoc]

/-- Markup and references in a title stand in its line as they are. -/
theorem item_reads_back_markup :
    let s : Sequencer := ⟨⟨"http", none, .segments [""], none, none⟩, .initial, fun _ ↦ none⟩
    let r : Record := ⟨"a\"b", "<b>Join</b>\r\n&amp; 'merge'", "", "&lt;i>", 1⟩
    Terminal.textLine ⟨false, false⟩ ((s.item r).run fun _ ↦ none).result =
      "• <b>Join</b> &amp; 'merge' (&lt;i>)  a\"b.html" := by
  intro s r
  have hline := (item_reads_back s r (fun _ ↦ none)
    (fun c hc ↦ of_mem_of_all (p := fun c ↦ c ≠ '\x00' ∧ c ≠ '\r') hc (by decide))
    (by decide) (by decide) (.inl (by decide))).2.2 ⟨false, false⟩ rfl
  rw [hline]
  decide

end SiteSearch.Results
