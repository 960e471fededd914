/-!
# The results panel

The list of results as a page shows it. It changes by calls only: items are appended, and at the end
of a search the indicator stops, the title is set, and the status line appears.
-/

set_option autoImplicit false
set_option relaxedAutoImplicit false

namespace SiteSearch.Results

/-- What the panel can be asked to do. -/
inductive Call where
  | append (html : String)
  | stopPulse
  | setTitle (title : String)
  | revealStatus
deriving DecidableEq, Repr

/-- What the panel shows. -/
structure Panel where
  items : List String
  /-- Whether the indicator of a search under way is on. -/
  pulsing : Bool
  title : String
  statusVisible : Bool
  /-- How often the title was set. -/
  finalized : Nat
deriving DecidableEq, Repr

/-- The panel of a search that has just begun. -/
def Panel.initial : Panel :=
  { items := [], pulsing := true, title := "Searching", statusVisible := false, finalized := 0 }

/-- The panel after a call. -/
def Panel.apply (p : Panel) : Call → Panel
  | .append html => { p with items := p.items ++ [html] }
  | .stopPulse => { p with pulsing := false }
  | .setTitle title => { p with title, finalized := p.finalized + 1 }
  | .revealStatus => { p with statusVisible := true }

/-- The panel after several calls. -/
def Panel.applyAll (p : Panel) (calls : List Call) : Panel :=
  calls.foldl Panel.apply p

/-- The title of a finished search. -/
def finalTitle : String := "Search Results"

/-- The calls that end a search. -/
def finish : List Call :=
  [.stopPulse, .setTitle finalTitle, .revealStatus]

end SiteSearch.Results
