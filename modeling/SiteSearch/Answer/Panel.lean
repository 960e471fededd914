import SiteSearch.Site.Links

/-!
# The answer panel

The panel with the generated answer. It starts empty and hidden; its content is replaced as a whole,
and the first content that is rendered makes it visible for good.
-/

set_option autoImplicit false
set_option relaxedAutoImplicit false

namespace SiteSearch.Answer

/-- What the panel can be asked to do. -/
inductive Call where
  | setContent (html : String)
  | reveal
deriving DecidableEq, Repr

/-- What the panel shows. -/
structure Panel where
  content : String
  visible : Bool
  /-- How often the content was set. -/
  writes : Nat
deriving DecidableEq, Repr

/-- A panel that nothing was asked of. -/
def Panel.initial : Panel := ⟨"", false, 0⟩

/-- The panel after a call. -/
def Panel.apply (p : Panel) : Call → Panel
  | .setContent html => { p with content := html, writes := p.writes + 1 }
  | .reveal => { p with visible := true }

/-- The panel after several calls. -/
def Panel.applyAll (p : Panel) (calls : List Call) : Panel :=
  calls.foldl Panel.apply p

/-- A panel together with whether what renders into it has revealed it. -/
structure Display where
  panel : Panel
  shown : Bool
deriving DecidableEq, Repr

namespace Display

/-- A panel that nothing has been rendered into. -/
def fresh (panel : Panel) : Display := ⟨panel, false⟩

/-- The calls that put content on display. -/
def renderCalls (d : Display) (html : String) : List Call :=
  .setContent html :: if d.shown then [] else [.reveal]

/-- The display of some content. -/
def render (d : Display) (html : String) : Display :=
  ⟨d.panel.applyAll (d.renderCalls html), true⟩

/-- The calls that retitle the links of the content: none when that changes nothing. -/
def retitleCalls (d : Display) (links : Site.Links) : List Call :=
  let html := links.rewrite d.panel.content
  if html = d.panel.content then [] else [.setContent html]

/-- The display with the links of its content retitled. -/
def retitle (d : Display) (links : Site.Links) : Display :=
  { d with panel := d.panel.applyAll (d.retitleCalls links) }

end Display

end SiteSearch.Answer
