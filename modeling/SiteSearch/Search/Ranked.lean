import SiteSearch.Results.Sequence
import SiteSearch.Search.Binding

/-!
# Search by rank

The site ranks results for a query on request. Whatever goes wrong with the request or with what it
brings leaves the panel as it is.
-/

set_option autoImplicit false
set_option relaxedAutoImplicit false

namespace SiteSearch.Search

/-- The results in the text of a reply. -/
def readRanked (body : Except Failure String) : Except Failure (List Results.Record) :=
  match body with
  | .error failure => .error failure
  | .ok body =>
    match Results.readRecords? body with
    | none => .error .records
    | some results => .ok results

/-- Fetches the ranked results for a query, the best first. -/
def fetchRanked (base : Url) (query : String) :
    Flow Results.Call (Except Failure (List Results.Record)) :=
  match Web.endpoint base Web.rankedPath (some query) with
  | .error failure => .done (.error failure)
  | .ok url => do return readRanked (← Web.getText url)

/-- Search by rank. -/
def byRank (base : Url) (sequencer : Results.Sequencer) : Strategy where
  name := "vector"
  answer query := do
    match ← fetchRanked base query with
    | .error _ => return .ok ()
    | .ok results =>
      discard (sequencer.showAll results)
      return .ok ()

/-- Asks the site whether it ranks results. -/
def probe {κ : Type} (base : Url) : Flow κ Bool :=
  match Web.endpoint base Web.probePath none with
  | .error _ => .done false
  | .ok url => do
    match ← Web.get url with
    | none => return false
    | some reply => return reply.succeeded

end SiteSearch.Search
