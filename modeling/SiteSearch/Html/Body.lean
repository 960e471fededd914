import SiteSearch.Html.Adoption
import SiteSearch.Html.Foreign

/-!
# The body of a document

The rules for what stands in the body: blocks that end one another, formatting that is opened again
where blocks cut it off, and elements that switch to the modes of tables, selections and raw text.

Main definition: `Builder.bodyRule`.
-/

set_option autoImplicit false
set_option relaxedAutoImplicit false

namespace SiteSearch.Html

/-- The elements of the head that are dealt with in the same way wherever they stand. -/
def headNames : List String :=
  ["base", "basefont", "bgsound", "link", "meta", "noframes", "script", "style", "template",
    "title"]

/-- The blocks that end a paragraph and nothing else. -/
def blockNames : List String := [
  "address", "article", "aside", "blockquote", "center", "details", "dialog", "dir", "div", "dl",
  "fieldset", "figcaption", "figure", "footer", "header", "hgroup", "main", "menu", "nav", "ol",
  "p", "search", "section", "summary", "ul"]

/-- The blocks that an end tag in scope closes. -/
def closedBlockNames : List String :=
  ["button", "listing", "pre"] ++ blockNames.erase "p"

/-- The headings. -/
def headingNames : List String :=
  ["h1", "h2", "h3", "h4", "h5", "h6"]

/-- The formatting elements but for links and `nobr`. -/
def formattingNames : List String :=
  ["b", "big", "code", "em", "font", "i", "s", "small", "strike", "strong", "tt", "u"]

/-- The elements that hold content of their own, which formatting does not reach into. -/
def embeddedNames : List String :=
  ["applet", "marquee", "object"]

/-- The parts of tables and documents that mean nothing in a body. -/
def misplacedNames : List String :=
  ["caption", "col", "colgroup", "frame", "head", "tbody", "td", "tfoot", "th", "thead", "tr"]

/-- Whether an input field is not shown. -/
def isHidden (attributes : List (String × String)) : Bool :=
  (attribute? attributes "type").any fun v ↦ v.toList.map Char.toLower = "hidden".toList

namespace Builder

/-- Whether a template is open. -/
def inTemplate (b : Builder) : Bool :=
  b.stack.any (b.isOneOf ["template"])

/-- Notes that the body has content. -/
def noFrames (b : Builder) : Builder :=
  { b with framesetOk := false }

/-- The body among the open elements, if there is one. -/
def body? (b : Builder) : Option Nat :=
  (b.stack.reverse[1]?).filter (b.isOneOf ["body"])

/-- A character in the body. -/
def bodyChar (b : Builder) (c : Char) : Builder :=
  if c = '\x00' then b
  else
    let b := b.reconstruct.insertChar c
    if isSpace c then b else b.noFrames

/-- Closes an item among the open elements, given with the innermost first, unless a block other
than a paragraph or a plain division comes first. -/
def closeItem (b : Builder) (names : List String) : List Nat → Builder
  | [] => b
  | id :: outer =>
    if b.isOneOf names id then
      (b.closeImplied (b.cell id).name).popThrough (b.isOneOf [(b.cell id).name])
    else if isSpecial (b.cell id) && !b.isOneOf ["address", "div", "p"] id then b
    else b.closeItem names outer

/-- Opens an item of a list after closing the one before it. -/
def openItem (b : Builder) (names : List String) (name : String)
    (attributes : List (String × String)) : Builder :=
  let b := b.noFrames
  (b.closeItem names b.stack).endParagraph.insertElement name attributes

/-- Closes a link that is still open. -/
def closeLink (b : Builder) : Builder :=
  match b.formatting? "a" with
  | none => b
  | some id =>
    let b := b.adopt "a"
    { b with
      formatting := b.formatting.filter (· ≠ .element id)
      stack := b.stack.filter (· ≠ id) }

/-- Opens a formatting element. -/
def openFormatting (b : Builder) (name : String) (attributes : List (String × String)) : Builder :=
  (b.insertElement name attributes).noteFormatting

/-- Closes an element that must be in scope. -/
def closeScoped (b : Builder) (name : String) : Builder :=
  if b.inScope [name] then (b.closeImplied "").popThrough (b.isOneOf [name]) else b

/-- Closes a form. -/
def closeForm (b : Builder) : Builder :=
  if b.inTemplate then b.closeScoped "form"
  else
    match b.form with
    | none => b
    | some id =>
      let b := { b with form := none }
      if b.stack.contains id
          && !(b.stack.takeWhile (· ≠ id)).any (fun id ↦ isScopeEnd (b.cell id)) then
        let b := b.closeImplied ""
        { b with stack := b.stack.filter (· ≠ id) }
      else b

/-- The mode that a selection is read in. -/
def selectMode (b : Builder) : Mode :=
  if [.inTable, .inCaption, .inTableBody, .inRow, .inCell].contains b.mode then .inSelectInTable
  else .inSelect

/-- An opening tag of a block. -/
def openBlock? (b : Builder) (name : String) (attributes : List (String × String)) :
    Option Builder :=
  if blockNames.contains name then some (b.endParagraph.insertElement name attributes)
  else if headingNames.contains name then
    let b := b.endParagraph
    some ((if b.currentIs headingNames then b.pop else b).insertElement name attributes)
  else match name with
    | "pre" | "listing" =>
      some { (b.endParagraph.insertElement name attributes).noFrames with skipFeed := true }
    | "form" =>
      if b.form.isSome && !b.inTemplate then some b
      else
        let b := b.endParagraph.insertElement name attributes
        some (if b.inTemplate then b else { b with form := some b.current })
    | "li" => some (b.openItem ["li"] name attributes)
    | "dd" | "dt" => some (b.openItem ["dd", "dt"] name attributes)
    | "plaintext" =>
      some { b.endParagraph.insertElement name attributes with raw := some .everything }
    | "table" =>
      let b := if b.legacy then b else b.endParagraph
      some { (b.insertElement name attributes).noFrames with mode := .inTable }
    | "hr" => some (b.endParagraph.insertVoid name attributes).noFrames
    | "xmp" => some (b.endParagraph.reconstruct.noFrames.insertRaw .plain name attributes)
    | _ => none

/-- An opening tag of what stands within lines. -/
def openInline (b : Builder) (name : String) (attributes : List (String × String))
    (selfClosing : Bool) : Builder :=
  if formattingNames.contains name then b.reconstruct.openFormatting name attributes
  else if embeddedNames.contains name then
    let b := (b.reconstruct.insertElement name attributes).noFrames
    { b with formatting := .border :: b.formatting }
  else if misplacedNames.contains name then b
  else match name with
    | "a" => b.closeLink.reconstruct.openFormatting name attributes
    | "nobr" =>
      let b := b.reconstruct
      (if b.inScope ["nobr"] then (b.adopt "nobr").reconstruct else b).openFormatting
        name attributes
    | "button" =>
      ((b.closeScoped "button").reconstruct.insertElement name attributes).noFrames
    | "area" | "br" | "embed" | "img" | "keygen" | "wbr" =>
      (b.reconstruct.insertVoid name attributes).noFrames
    | "image" => (b.reconstruct.insertVoid "img" attributes).noFrames
    | "input" =>
      let b := b.reconstruct.insertVoid name attributes
      if isHidden attributes then b else b.noFrames
    | "param" | "source" | "track" => b.insertVoid name attributes
    | "textarea" =>
      { b.noFrames.insertRaw .withReferences name attributes with skipFeed := true }
    | "iframe" => b.noFrames.insertRaw .plain name attributes
    | "noembed" | "noscript" => b.insertRaw .plain name attributes
    | "select" =>
      { (b.reconstruct.insertElement name attributes).noFrames with mode := b.selectMode }
    | "optgroup" | "option" =>
      (if b.currentIs ["option"] then b.pop else b).reconstruct.insertElement name attributes
    | "rb" | "rtc" =>
      (if b.inScope ["ruby"] then b.closeImplied "" else b).insertElement name attributes
    | "rp" | "rt" =>
      (if b.inScope ["ruby"] then b.closeImplied "rtc" else b).insertElement name attributes
    | "math" => b.reconstruct.openForeign .mathml name attributes selfClosing
    | "svg" => b.reconstruct.openForeign .svg name attributes selfClosing
    | _ => b.reconstruct.insertElement name attributes

/-- An opening tag in the body. -/
def bodyOpening (b : Builder) (name : String) (attributes : List (String × String))
    (selfClosing : Bool) : Reaction :=
  if headNames.contains name then .follow .inHead b
  else match name with
    | "html" =>
      .done (if b.inTemplate then b else b.addMissing (b.stack.getLastD 0) attributes)
    | "body" =>
      .done (match b.body? with
        | some id => if b.inTemplate then b else b.noFrames.addMissing id attributes
        | none => b)
    | "frameset" =>
      match b.body? with
      | some id =>
        if b.framesetOk then
          let b := b.detach id
          let b := { b with stack := b.stack.drop (b.stack.length - 1) }
          .done { b.insertElement name attributes with mode := .inFrameset }
        else .done b
      | none => .done b
    | _ => .done ((b.openBlock? name attributes).getD (b.openInline name attributes selfClosing))

/-- A closing tag in the body. -/
def bodyClosing (b : Builder) (name : String) : Reaction :=
  if closedBlockNames.contains name then .done (b.closeScoped name)
  else if headingNames.contains name then
    .done (if b.inScope headingNames then
      (b.closeImplied "").popThrough (b.isOneOf headingNames) else b)
  else if name = "a" || name = "nobr" || formattingNames.contains name then .done (b.adopt name)
  else if embeddedNames.contains name then
    .done (if b.inScope [name] then (b.closeScoped name).clearFormatting else b)
  else match name with
    | "template" => .follow .inHead b
    | "body" => .done (if b.inScope ["body"] then { b with mode := .afterBody } else b)
    | "html" => if b.inScope ["body"] then .switch .afterBody b else .done b
    | "form" => .done b.closeForm
    | "p" =>
      .done (if b.inButtonScope ["p"] then b else b.insertElement "p" []).closeParagraph
    | "li" =>
      .done (if b.inListScope ["li"] then
        (b.closeImplied "li").popThrough (b.isOneOf ["li"]) else b)
    | "dd" | "dt" =>
      .done (if b.inScope [name] then
        (b.closeImplied name).popThrough (b.isOneOf [name]) else b)
    | "br" => .done (b.reconstruct.insertVoid "br" []).noFrames
    | _ => .done (b.closeOther name b.stack)

/-- What a token does in the body. -/
def bodyRule (b : Builder) : Token → Reaction
  | .char c => .done (b.bodyChar c)
  | .opening name attributes selfClosing => b.bodyOpening name attributes selfClosing
  | .closing name => b.bodyClosing name
  | .doctype _ => .done b
  | .ending => if b.templates = [] then .done b else .follow .inTemplate b

end Builder

end SiteSearch.Html
