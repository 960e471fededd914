import SiteSearch.Results.Item
import SiteSearch.Results.Panel
import SiteSearch.Web

/-!
# Filling the result list

Ranked results arrive best first and are shown in the reverse order, one item at a time. An item
without a description shows an excerpt of its page, if the options ask for it and the page can be
fetched and has one; nothing that goes wrong with a page keeps its item from the list.

Main definitions: `Sequencer`, `Sequencer.showAll`.
-/

set_option autoImplicit false
set_option relaxedAutoImplicit false

namespace SiteSearch.Results

/-- What items are made from beside the results: the base that pages are found from, the options of
the site, and the markup that sums a page up. -/
structure Sequencer where
  base : Url
  options : Site.Options
  summarize : String → Option String

namespace Sequencer

/-- The summary in the text of a page, which is missing where the page is. -/
def summaryOf (s : Sequencer) (body : Except Failure String) : Option String :=
  match body with
  | .error _ => none
  | .ok body => if body = "" then none else s.summarize body

/-- Fetches the summary of a page. -/
def fetchSummary (s : Sequencer) (request : String) : Flow Call (Option String) :=
  match s.base.join request with
  | .error _ => .done none
  | .ok url => do return s.summaryOf (← Web.getText url)

/-- The item of a result. -/
def item (s : Sequencer) (r : Record) : Flow Call String :=
  let markup := itemOfPage s.options r.path r.title
  if r.hasDescription then .done (markup (descriptionMarkup r.description))
  else if s.options.showSummary then do
    let summary ← s.fetchSummary (s.options.pageUrls r.path).request
    return markup (summary.getD "")
  else .done (markup "")

/-- Appends the items of results in the order given. -/
def append (s : Sequencer) : List Record → Flow Call Unit
  | [] => .done ()
  | r :: rs => do
    .call (.append (← s.item r)) (s.append rs)

/-- Shows ranked results and ends the search; gives the number of items. -/
def showAll (s : Sequencer) (results : List Record) : Flow Call Nat := do
  s.append results.reverse
  Flow.calls finish
  return results.length

end Sequencer

end SiteSearch.Results
