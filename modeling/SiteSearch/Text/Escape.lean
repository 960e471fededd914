/-!
# Text inside HTML

Escaping makes a text safe both between tags and inside a double-quoted attribute value: the five
characters with a meaning in HTML are written as character references, all others as they are.
-/

set_option autoImplicit false
set_option relaxedAutoImplicit false

namespace SiteSearch.Text

/-- The written form of one character. -/
def escapeChar (c : Char) : List Char :=
  if c = '&' then ['&', 'a', 'm', 'p', ';']
  else if c = '<' then ['&', 'l', 't', ';']
  else if c = '>' then ['&', 'g', 't', ';']
  else if c = '"' then ['&', 'q', 'u', 'o', 't', ';']
  else if c = '\x27' then ['&', '#', '3', '9', ';']
  else [c]

/-- The text with every character of meaning in HTML written as a reference. -/
def escapeHtml (s : String) : String :=
  .ofList (s.toList.flatMap escapeChar)

end SiteSearch.Text
