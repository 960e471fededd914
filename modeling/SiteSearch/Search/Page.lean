import SiteSearch.Answer.Session
import SiteSearch.Search.Keyword
import SiteSearch.Search.Ranked

/-!
# A page that searches

A page asks its site once whether results are ranked there, and searches accordingly from then on.
When it is loaded as the search page with a query, it answers the query twice, side by side: by a
search, and by a streamed answer.

Main definitions: `Page`, `Page.backend`, `Page.search`, `Page.load`.
-/

set_option autoImplicit false
set_option relaxedAutoImplicit false

namespace SiteSearch.Search

/-- What marks the address of the search page. -/
def searchPageMark : List Char := "search.html".toList

/-- The parameter of the search page that holds the query. -/
def queryParameter : String := "q"

/-- The query in the address of a page, if it is that of the search page and has one. -/
def queryOfPage (address : String) : Except Failure (Option String) :=
  match Url.parse address with
  | .error fault => .error (.url fault)
  | .ok url =>
    if occursIn searchPageMark url.path.write.toList then
      .ok ((url.queryPairs.find? fun p ↦ p.1 = queryParameter).map Prod.snd)
    else .ok none

/-- A page: the base of its site, the style of its answers, the strategies it searches by, the
strategy that ranked results call for, and what it found when it asked for those. -/
structure Page where
  base : Url
  style : Answer.Style
  binding : Binding
  ranked : Strategy
  probed : Option Backend

namespace Page

/-- A page that has not asked its site yet. -/
def initial (base : Url) (style : Answer.Style) (default ranked : Strategy) : Page :=
  { base, style, binding := .initial default, ranked, probed := none }

/-- Replaces the strategy of the page, unless that has been done, and tells whether it did. -/
def install (p : Page) (s : Strategy) : Page × Bool :=
  let (binding, done) := p.binding.install s
  ({ p with binding }, done)

/-- The page once its site has told whether it ranks results. -/
def settle (p : Page) (available : Bool) : Page × Backend :=
  let p := if available then (p.install p.ranked).1 else p
  ({ p with probed := some p.binding.backend }, p.binding.backend)

/-- What answers the queries of the page; asks the site unless it has been asked. -/
def backend {κ : Type} (p : Page) : Flow κ (Page × Backend) :=
  match p.probed with
  | some b => .done (p, b)
  | none => do return p.settle (← probe p.base)

/-- Searches for a query. -/
def search (p : Page) (query : String) : Flow Results.Call (Page × Except Failure Backend) := do
  let (p, b) ← p.backend
  match ← p.binding.answer query with
  | .error failure => return (p, .error failure)
  | .ok () => return (p, .ok b)

/-- What a load gives: what answered the search, the query, and the answer. -/
structure Loaded where
  backend : Backend
  query : Option String
  answer : Option Answer.Session

/-- What a load with a query gives once search and answer have ended. A failure of the search hides
one of the answer. -/
def joinResults (query : String) (searched : Except Failure Backend)
    (session : Answer.Session) (streamed : Except Failure Unit) : Except Failure Loaded := do
  let backend ← searched
  streamed
  return { backend, query := some query, answer := some session }

/-- Loads the page under an address, with an answer panel; the schedule says how the steps of the
search and those of the answer alternate. -/
def load (schedule : List Bool) (p : Page) (address : String) (panel : Answer.Panel) :
    Flow (Results.Call ⊕ Answer.Call) (Page × Except Failure Loaded) :=
  match queryOfPage address with
  | .error failure => .done (p, .error failure)
  | .ok none => do
    let (p, backend) ← p.backend
    return (p, .ok { backend, query := none, answer := none })
  | .ok (some query) => do
    let ((p, searched), (session, streamed)) ←
      Flow.both schedule (p.search query) ((Answer.Session.idle panel).start p.base p.style query)
    return (p, joinResults query searched session streamed)

end Page

end SiteSearch.Search
