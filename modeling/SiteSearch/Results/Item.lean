import SiteSearch.Results.Record
import SiteSearch.Site.Layout
import SiteSearch.Text.Escape

/-!
# Items of the result list

The markup of one result: a list item with a link, followed by the description in parentheses or by
an excerpt of the page.
-/

set_option autoImplicit false
set_option relaxedAutoImplicit false

namespace SiteSearch.Results

open Text

/-- The front of an item: its link. -/
def itemOpening (title link : String) : String :=
  "<li><a href=\"" ++ escapeHtml link ++ "\">" ++ escapeHtml title ++ "</a>"

/-- The end of an item. -/
def itemClosing : String := "</li>"

/-- A description as it stands in an item. -/
def descriptionMarkup (description : String) : String :=
  "<span> (" ++ escapeHtml description ++ ")</span>"

/-- The item of a page, with `more` behind its link. -/
def itemOfPage (options : Site.Options) (path title more : String) : String :=
  itemOpening title (options.pageUrls path).link ++ more ++ itemClosing

end SiteSearch.Results
