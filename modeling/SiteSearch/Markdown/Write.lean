import SiteSearch.Markdown.Document
import SiteSearch.Text.Escape
import SiteSearch.Url.Percent

/-!
# Markdown as HTML

The tags that blocks and text are written with. Text is escaped on its way out, raw HTML of the
document like any other, so that no tag comes from anywhere else. Some tags start on a line of their
own, which takes a line end first where the output does not stand at the start of a line.

Main definitions: `writeInline`, `writeBlock`, `toHtml`.
-/

set_option autoImplicit false
set_option relaxedAutoImplicit false

namespace SiteSearch.Markdown

open Text

/-! ### Escaping -/

/-- A character between tags. -/
def bodyChar (c : Char) : List Char :=
  if c = '"' ∨ c = '\x27' then [c] else escapeChar c

/-- A text between tags. -/
def bodyText (s : List Char) : List Char :=
  s.flatMap bodyChar

/-- A text in an attribute. -/
def attributeText (s : List Char) : List Char :=
  s.flatMap escapeChar

/-- Whether a character stands for itself in an address. -/
def isAddressChar (c : Char) : Bool :=
  c.isAlphanum || "!#$%()*+,-./:;=?@_~".toList.contains c

/-- A character of an address. -/
def addressChar (c : Char) : List Char :=
  if isAddressChar c then [c]
  else if c = '&' then "&amp;".toList
  else if c = '\x27' then "&#x27;".toList
  else (String.utf8EncodeChar c).flatMap Url.percentByte

/-- An address in an attribute. -/
def addressText (s : List Char) : List Char :=
  s.flatMap addressChar

/-! ### Text -/

/-- The attribute with the title of a link, if it has one. -/
def titleAttribute (title : List Char) : List Char :=
  if title = [] then [] else " title=\"".toList ++ attributeText title ++ ['"']

mutual

/-- Text as the description of an image, without tags. -/
def describe : Inline → List Char
  | .text s => attributeText s
  | .code s => attributeText s
  | .softBreak => [' ']
  | .hardBreak => [' ']
  | .emphasis content => describeAll content
  | .strong content => describeAll content
  | .struck content => describeAll content
  | .link _ _ content => describeAll content
  | .image _ _ content => describeAll content

/-- Texts as the description of an image. -/
def describeAll : List Inline → List Char
  | [] => []
  | i :: is => describe i ++ describeAll is

end

mutual

/-- Text with its tags. -/
def writeInline : Inline → List Char
  | .text s => bodyText s
  | .code s => "<code>".toList ++ bodyText s ++ "</code>".toList
  | .softBreak => ['\n']
  | .hardBreak => "<br />\n".toList
  | .emphasis content => "<em>".toList ++ writeInlines content ++ "</em>".toList
  | .strong content => "<strong>".toList ++ writeInlines content ++ "</strong>".toList
  | .struck content => "<del>".toList ++ writeInlines content ++ "</del>".toList
  | .link destination title content =>
    "<a href=\"".toList ++ addressText destination ++ '"' :: titleAttribute title ++ '>' ::
      writeInlines content ++ "</a>".toList
  | .image destination title content =>
    "<img src=\"".toList ++ addressText destination ++ "\" alt=\"".toList ++ describeAll content ++
      '"' :: titleAttribute title ++ " />".toList

/-- Texts with their tags. -/
def writeInlines : List Inline → List Char
  | [] => []
  | i :: is => writeInline i ++ writeInlines is

end

/-- The content of a paragraph, a heading or a cell. -/
def writeText (defs : List Definition) (s : List Char) : List Char :=
  writeInlines (readInline defs s)

/-! ### Blocks -/

/-- The box of a task. -/
def writeTask (checked : Bool) : List Char :=
  if checked then "<input disabled=\"\" type=\"checkbox\" checked=\"\"/>\n".toList
  else "<input disabled=\"\" type=\"checkbox\"/>\n".toList

/-- The box of a task, if there is one. -/
def writeTask? : Option Bool → List Char
  | none => []
  | some checked => writeTask checked

/-- The style of a cell. -/
def cellStyle : Alignment → List Char
  | .none => []
  | .left => " style=\"text-align: left\"".toList
  | .center => " style=\"text-align: center\"".toList
  | .right => " style=\"text-align: right\"".toList

/-- The cells of a row, each in its column, in the given element. -/
def writeCells (defs : List Definition) (element : List Char) :
    List Alignment → List (List Char) → List Char
  | column :: columns, cell :: cells =>
    '<' :: element ++ cellStyle column ++ '>' :: writeText defs cell ++ '<' :: '/' :: element ++
      '>' :: writeCells defs element columns cells
  | _, _ => []

/-- A row of a table. -/
def writeRow (defs : List Definition) (columns : List Alignment) (cells : List (List Char)) :
    List Char :=
  "<tr>".toList ++ writeCells defs "td".toList columns cells ++ "</tr>\n".toList

/-- A table. -/
def writeTable (defs : List Definition) (columns : List Alignment) (header : List (List Char))
    (rows : List (List (List Char))) : List Char :=
  "<table><thead><tr>".toList ++ writeCells defs "th".toList columns header ++
    "</tr></thead><tbody>\n".toList ++ rows.flatMap (writeRow defs columns) ++
    "</tbody></table>\n".toList

/-- The opening tag of a piece of code. -/
def codeOpening (language : List Char) : List Char :=
  if language = [] then "<pre><code>".toList
  else "<pre><code class=\"language-".toList ++ attributeText language ++ "\">".toList

/-- The name of the element of a list, and its opening tag. -/
def listOpening : Option Nat → List Char × List Char
  | none => ("ul".toList, "<ul>\n".toList)
  | some 1 => ("ol".toList, "<ol>\n".toList)
  | some n => ("ol".toList, "<ol start=\"".toList ++ Nat.toDigits 10 n ++ "\">\n".toList)

/-- A line end, unless the output stands at the start of a line. -/
def freshLine (atStart : Bool) : List Char :=
  if atStart then [] else ['\n']

/-- Whether the output stands at the start of a line once some more has been written. -/
def startAfter (atStart : Bool) (written : List Char) : Bool :=
  match written.getLast? with
  | none => atStart
  | some c => c = '\n'

mutual

/-- A block. In the items of a tight list, paragraphs have no tags. -/
def writeBlock (defs : List Definition) (tight atStart : Bool) : Block → List Char
  | .paragraph task s =>
    if tight then writeTask? task ++ writeText defs s
    else freshLine atStart ++ "<p>".toList ++ writeTask? task ++ writeText defs s ++ "</p>\n".toList
  | .task checked => writeTask checked
  | .heading level task s =>
    let name := 'h' :: Nat.toDigits 10 level
    freshLine atStart ++ '<' :: name ++ '>' :: writeTask? task ++ writeText defs s ++
      '<' :: '/' :: name ++ ">\n".toList
  | .rule => freshLine atStart ++ "<hr />\n".toList
  | .code language s =>
    freshLine atStart ++ codeOpening language ++ bodyText s ++ "</code></pre>\n".toList
  | .html s => bodyText s
  | .quote content =>
    freshLine atStart ++ "<blockquote>\n".toList ++ writeBlocks defs false true content ++
      "</blockquote>\n".toList
  | .list start tight items =>
    freshLine atStart ++ (listOpening start).2 ++ writeItems defs tight items ++
      '<' :: '/' :: (listOpening start).1 ++ ">\n".toList
  | .table columns header rows => writeTable defs columns header rows

/-- Blocks one after another. -/
def writeBlocks (defs : List Definition) (tight atStart : Bool) : List Block → List Char
  | [] => []
  | b :: bs =>
    let written := writeBlock defs tight atStart b
    written ++ writeBlocks defs tight (startAfter atStart written) bs

/-- The items of a list. -/
def writeItems (defs : List Definition) (tight : Bool) : List (List Block) → List Char
  | [] => []
  | item :: items =>
    "<li>".toList ++ writeBlocks defs tight false item ++ "</li>\n".toList ++
      writeItems defs tight items

end

/-- The HTML of a document. -/
def toHtml (text : String) : String :=
  let (blocks, defs) := readDocument text.toList
  .ofList (writeBlocks defs false true blocks)

end SiteSearch.Markdown
