import SiteSearch.Proofs.Web
import SiteSearch.Search.Page

/-!
# Runs of a page

A page asks its site whether results are ranked there unless it has asked before
(`Page.run_backend`). A search does that first, and then the strategy in force answers
(`Page.run_search`).
-/

set_option autoImplicit false
set_option relaxedAutoImplicit false

namespace SiteSearch.Search

variable {κ : Type}

/-! ### Asking the site -/

/-- Where a site tells whether it ranks results, if that can be asked for. -/
def probeAddress? (base : Url) : Option Url :=
  Web.address? (Web.endpoint base Web.probePath none)

/-- Whether a site says that it ranks results. -/
def ranks (net : Network) (base : Url) : Bool :=
  ((probeAddress? base).bind net).any Reply.succeeded

theorem run_probe (net : Network) (base : Url) :
    (probe base : Flow κ Bool).run net = ⟨(probeAddress? base).toList, [], ranks net base⟩ := by
  rw [probe, ranks, probeAddress?]
  cases Web.endpoint base Web.probePath none with
  | error failure => rfl
  | ok url =>
    simp only [Flow.run_bind, Web.run_get, Web.address?_ok_toList, Web.address?_ok_bind]
    cases Web.reply net url with
    | none => simp [Flow.run_pure]
    | some reply => simp [Flow.run_pure]

namespace Page

variable (p : Page)

/-- The page once it knows what answers its queries. -/
def settled (net : Network) : Page :=
  if p.probed = none then (p.settle (ranks net p.base)).1 else p

/-- Where the page asks what answers its queries: nowhere once it knows. -/
def checks : List Url :=
  if p.probed = none then (probeAddress? p.base).toList else []

/-- What the page reports as answering its queries. -/
def reported (net : Network) : Backend :=
  match p.probed with
  | some b => b
  | none => (p.settle (ranks net p.base)).2

theorem run_backend (net : Network) :
    (p.backend : Flow κ (Page × Backend)).run net =
      ⟨p.checks, [], (p.settled net, p.reported net)⟩ := by
  cases h : p.probed with
  | none =>
    rw [backend, h]
    simp [Flow.run_bind, run_probe, Flow.run_pure, checks, settled, reported, h]
  | some b =>
    rw [backend, h]
    simp [Flow.run, checks, settled, reported, h]

end Page

end SiteSearch.Search
