import SiteSearch.Results.Item
import SiteSearch.Search.Binding
import SiteSearch.Site.Index
import SiteSearch.Text.Lower

/-!
# Search by title

A page matches a query when its title contains every word of the query, upper and lower case taken
as equal. Matching pages are listed in the order of the index; a query without words has none.
-/

set_option autoImplicit false
set_option relaxedAutoImplicit false

namespace SiteSearch.Search

open Text

/-- Whether a text occurs within another. -/
def occursIn (piece : List Char) : List Char → Bool
  | [] => piece.isEmpty
  | c :: s => piece.isPrefixOf (c :: s) || occursIn piece s

/-- The words of a query in lower case. -/
def queryWords (query : String) : List (List Char) :=
  (words query.toList).map lower

/-- Whether a title contains every one of the words. -/
def titleMatches (ws : List (List Char)) (title : String) : Bool :=
  let title := lower title.toList
  ws.all fun w ↦ occursIn w title

/-- The pages of the index that match a query. -/
def titleHits (index : Site.Index) (query : String) : List (String × String) :=
  match queryWords query with
  | [] => []
  | ws => index.entries.filter fun e ↦ titleMatches ws e.2

/-- Search by title. -/
def byTitle (index : Site.Index) (options : Site.Options) : Strategy where
  name := "keyword"
  answer query := do
    Flow.calls ((titleHits index query).map fun e ↦
      .append (Results.itemOfPage options e.1 e.2 ""))
    Flow.calls Results.finish
    return .ok ()

end SiteSearch.Search
