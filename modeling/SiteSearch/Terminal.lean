import SiteSearch.Answer.Panel
import SiteSearch.Html.Document
import SiteSearch.Results.Panel

/-!
# Results and answers on a terminal

Each result is a line of text with the address that it links to; the answer stands below a heading.
Either may be shown as markup instead. Headings are bold and asides dim where the terminal has
styles.

Main definitions: `Terminal`, `Terminal.itemLine`, `Terminal.answerLines`.
-/

set_option autoImplicit false
set_option relaxedAutoImplicit false

namespace SiteSearch

/-- How a terminal shows things. -/
structure Terminal where
  /-- Whether there are styles. -/
  styled : Bool
  /-- Whether markup is shown as it is. -/
  raw : Bool

namespace Terminal

/-- What ends every style. -/
def plainCode : List Char := "\x1b[0m".toList

/-- A text with a style taken up again wherever it is ended within. -/
def resume (code : List Char) : List Char → List Char
  | '\x1b' :: '[' :: '0' :: 'm' :: s => plainCode ++ code ++ resume code s
  | c :: s => c :: resume code s
  | [] => []

/-- A text in a style given by its number. -/
def style (t : Terminal) (number : Char) (s : String) : String :=
  let code := ['\x1b', '[', number, 'm']
  if t.styled then .ofList (code ++ resume code s.toList ++ plainCode) else s

/-- A heading. -/
def bold (t : Terminal) (s : String) : String := t.style '1' s

/-- An aside. -/
def dim (t : Terminal) (s : String) : String := t.style '2' s

/-- The line of an item as text. -/
def textLine (t : Terminal) (html : String) : String :=
  let nodes := Html.parseFragment html
  "• " ++ Html.plainText nodes ++
    match Html.firstAddress? nodes with
    | some address => "  " ++ t.dim address
    | none => ""

/-- The line of an item. -/
def itemLine (t : Terminal) (html : String) : String :=
  if t.raw then html else t.textLine html

/-- The line that follows a list of `shown` items. -/
def titleLine (t : Terminal) (title : String) (shown : Nat) : String :=
  t.bold title ++ " (" ++ Url.writeNat shown ++ " shown)"

/-- The lines of an answer, if it has become visible. -/
def answerLines (t : Terminal) (p : Answer.Panel) : List String :=
  if p.visible then
    [t.bold "AI-generated answer", t.dim "May contain mistakes. Please check the references.",
      if t.raw then p.content else Html.plainText (Html.parseFragment p.content)]
  else []

end Terminal

end SiteSearch
