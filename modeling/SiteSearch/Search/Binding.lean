import SiteSearch.Results.Panel
import SiteSearch.Web

/-!
# Search strategies

A page searches by a strategy. It starts with a default one, which can be replaced once; from then
on every query is answered by the replacement.

Main definitions: `Strategy`, `Binding`.
-/

set_option autoImplicit false
set_option relaxedAutoImplicit false

namespace SiteSearch.Search

/-- A way to answer queries on the results panel. -/
structure Strategy where
  name : String
  answer : String → Flow Results.Call (Except Failure Unit)

/-- What answers the queries of a page: its default strategy, or the one that replaced it. -/
inductive Backend where
  | keyword
  | vector
deriving DecidableEq, Repr

/-- The name of a backend. -/
def Backend.name : Backend → String
  | .keyword => "keyword"
  | .vector => "vector"

/-- The strategies of a page. -/
structure Binding where
  default : Strategy
  replacement : Option Strategy

namespace Binding

/-- A page with its default strategy. -/
def initial (default : Strategy) : Binding := ⟨default, none⟩

/-- Replaces the default strategy, unless that has been done, and tells whether it did. -/
def install (b : Binding) (s : Strategy) : Binding × Bool :=
  match b.replacement with
  | none => ({ b with replacement := some s }, true)
  | some _ => (b, false)

/-- The strategy in force. -/
def current (b : Binding) : Strategy :=
  b.replacement.getD b.default

/-- What answers queries. -/
def backend (b : Binding) : Backend :=
  if b.replacement.isSome then .vector else .keyword

/-- Answers a query by the strategy in force. -/
def answer (b : Binding) (query : String) : Flow Results.Call (Except Failure Unit) :=
  b.current.answer query

end Binding

end SiteSearch.Search
