import SiteSearch.Html.Document
import SiteSearch.Text.Escape
import SiteSearch.Text.Utf8

/-!
# Excerpts of pages

A result without a description shows how the main part of its page begins. The text is cut after a
given number of characters, and dots stand for what was cut off.

Main definitions: `cut`, `excerpt`.
-/

set_option autoImplicit false
set_option relaxedAutoImplicit false

namespace SiteSearch.Results

open Text

/-- The first `max` characters of a text without white space at their end, with dots behind them if
they have fewer bytes than the text. -/
def cut (max : Nat) (s : List Char) : List Char :=
  let front := s.take max
  trimBack front ++
    if (Utf8.encode front).length < (Utf8.encode s).length then ['.', '.', '.'] else []

/-- The text of the main part of a page. -/
def mainText (page : String) : Option String :=
  Html.mainText? (Html.parseDocument page)

/-- The paragraph that shows how the main part of a page begins, if it has any text. -/
def excerpt (max : Nat) (page : String) : Option String :=
  (mainText page).map fun text ↦
    "<p class=\"context\">" ++ escapeHtml (.ofList (cut max text.toList)) ++ "</p>"

end SiteSearch.Results
