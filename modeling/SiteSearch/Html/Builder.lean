import SiteSearch.Html.Token
import SiteSearch.Html.Tree

/-!
# Trees under construction

While a text is read, its elements are cells in a store: each knows its parent and its children, so
that it can be moved. The open elements form a stack, beside which stand the formatting elements
that are to be opened again when markup closes them out of turn.

Main definitions: `Builder`, `Builder.insertElement`, `Builder.insertChar`, `Builder.nodes`,
`Builder.roots`.
-/

set_option autoImplicit false
set_option relaxedAutoImplicit false

namespace SiteSearch.Html

/-- The languages that elements belong to. -/
inductive Space where
  | html
  | svg
  | mathml
deriving DecidableEq, Repr

/-- A child of an element: an element of the store, or text, the latest character first. -/
inductive Child where
  | element (id : Nat)
  | text (reversed : List Char)
deriving DecidableEq, Repr

/-- An element of the store, its children with the latest first. -/
structure Cell where
  space : Space
  name : String
  attributes : List (String × String)
  parent : Option Nat
  children : List Child
deriving Repr

/-- The document itself. -/
def Cell.document : Cell := ⟨.html, "", [], none, []⟩

instance : Inhabited Cell := ⟨Cell.document⟩

/-- Whether a cell is an HTML element with one of the names. -/
def Cell.isOneOf (c : Cell) (names : List String) : Bool :=
  c.space = .html && names.contains c.name

/-- A formatting element that may be opened again, or a border that none is looked for behind. -/
inductive Entry where
  | border
  | element (id : Nat)
deriving DecidableEq, Repr

/-- The element of an entry. -/
def Entry.id? : Entry → Option Nat
  | .border => none
  | .element id => some id

/-- What the reader of a document expects. -/
inductive Mode where
  | initial
  | beforeHtml
  | beforeHead
  | inHead
  | afterHead
  | inBody
  | text
  | inTable
  | inTableText
  | inCaption
  | inColumnGroup
  | inTableBody
  | inRow
  | inCell
  | inSelect
  | inSelectInTable
  | inTemplate
  | afterBody
  | inFrameset
  | afterFrameset
  | afterAfterBody
  | afterAfterFrameset
deriving DecidableEq, Repr

/-- A document under construction. -/
structure Builder where
  cells : Array Cell
  /-- The open elements, the innermost first. -/
  stack : List Nat
  /-- The formatting elements, the latest first. -/
  formatting : List Entry
  mode : Mode
  /-- The mode to go back to after a text. -/
  resume : Mode
  /-- The modes of open templates, the innermost first. -/
  templates : List Mode
  head : Option Nat
  form : Option Nat
  framesetOk : Bool
  /-- Whether what does not belong into a table is put in front of it. -/
  foster : Bool
  /-- Characters found in a table, the latest first. -/
  tableText : List Char
  /-- Whether the type of the document is an old one. -/
  legacy : Bool
  /-- Whether the first line feed of an element is still to be passed over. -/
  skipFeed : Bool
  /-- Whether only a fragment is read, whose place is the body of a document. -/
  fragment : Bool
  /-- How the content of the element just opened is read. -/
  raw : Option Raw

namespace Builder

/-- The cell of an element. -/
def cell (b : Builder) (id : Nat) : Cell :=
  b.cells.getD id .document

/-- Changes the cell of an element. -/
def modify (b : Builder) (id : Nat) (f : Cell → Cell) : Builder :=
  { b with cells := b.cells.modify id f }

/-- The innermost open element. -/
def current (b : Builder) : Nat :=
  b.stack.headD 0

/-- Whether the innermost open element is an HTML element with one of the names. -/
def currentIs (b : Builder) (names : List String) : Bool :=
  (b.cell b.current).isOneOf names

/-- Whether an element is an HTML element with one of the names. -/
def isOneOf (b : Builder) (names : List String) (id : Nat) : Bool :=
  (b.cell id).isOneOf names

/-- Closes the innermost open element. -/
def pop (b : Builder) : Builder :=
  { b with stack := b.stack.tail }

/-- Closes elements up to and including the first that satisfies `p`. -/
def popThrough (b : Builder) (p : Nat → Bool) : Builder :=
  { b with stack := (b.stack.dropWhile fun id ↦ !p id).tail }

/-- Closes elements up to, not including, the first with one of the names. -/
def popTo (b : Builder) (names : List String) : Builder :=
  { b with stack := b.stack.dropWhile fun id ↦ !b.isOneOf names id }

/-! ### Scopes -/

/-- The elements that end a scope. -/
def isScopeEnd (c : Cell) : Bool :=
  c.isOneOf ["applet", "caption", "html", "table", "td", "th", "marquee", "object", "template"]
    || (c.space = .mathml && ["mi", "mo", "mn", "ms", "mtext", "annotation-xml"].contains c.name)
    || (c.space = .svg && ["foreignObject", "desc", "title"].contains c.name)

/-- Whether an open element satisfies `p` before one satisfies `ends`. -/
def inScopeOf (b : Builder) (ends p : Cell → Bool) : Bool :=
  match b.stack.find? fun id ↦ p (b.cell id) || ends (b.cell id) with
  | some id => p (b.cell id)
  | none => false

/-- Whether one of the names is in scope. -/
def inScope (b : Builder) (names : List String) : Bool :=
  b.inScopeOf isScopeEnd (·.isOneOf names)

/-- Whether a name is in scope with buttons ending it. -/
def inButtonScope (b : Builder) (names : List String) : Bool :=
  b.inScopeOf (fun c ↦ isScopeEnd c || c.isOneOf ["button"]) (·.isOneOf names)

/-- Whether a name is in scope with lists ending it. -/
def inListScope (b : Builder) (names : List String) : Bool :=
  b.inScopeOf (fun c ↦ isScopeEnd c || c.isOneOf ["ol", "ul"]) (·.isOneOf names)

/-- Whether one of the names is in the scope of tables. -/
def inTableScope (b : Builder) (names : List String) : Bool :=
  b.inScopeOf (·.isOneOf ["html", "table", "template"]) (·.isOneOf names)

/-- Whether a name is in the scope of selections. -/
def inSelectScope (b : Builder) (names : List String) : Bool :=
  b.inScopeOf (fun c ↦ !c.isOneOf ["optgroup", "option"]) (·.isOneOf names)

/-! ### The store -/

/-- A new element that stands nowhere yet. -/
def create (b : Builder) (space : Space) (name : String) (attributes : List (String × String)) :
    Builder × Nat :=
  ({ b with cells := b.cells.push ⟨space, name, attributes, none, []⟩ }, b.cells.size)

/-- Takes an element from its place. -/
def detach (b : Builder) (id : Nat) : Builder :=
  match (b.cell id).parent with
  | none => b
  | some p =>
    let b := b.modify p fun c ↦ { c with children := c.children.filter (· ≠ .element id) }
    b.modify id fun c ↦ { c with parent := none }

/-- A place for a new child: its parent, and the child it comes before, if it is not the last. -/
structure Place where
  parent : Nat
  before : Option Nat

/-- Children, the latest first, with one more before the given element. -/
def insertBefore (new : Child) (id : Nat) : List Child → List Child
  | [] => [new]
  | c :: cs => if c = .element id then c :: new :: cs else c :: insertBefore new id cs

/-- Puts an element at a place. -/
def putElement (b : Builder) (place : Place) (id : Nat) : Builder :=
  let b := b.detach id
  let b := b.modify place.parent fun c ↦
    { c with children := match place.before with
        | none => .element id :: c.children
        | some other => insertBefore (.element id) other c.children }
  b.modify id fun c ↦ { c with parent := some place.parent }

/-- Children, the latest first, with one more character at the end. -/
def addChar (x : Char) : List Child → List Child
  | .text s :: cs => .text (x :: s) :: cs
  | cs => .text [x] :: cs

/-- Children, the latest first, with one more character before the given element. -/
def addCharBefore (x : Char) (id : Nat) : List Child → List Child
  | [] => [.text [x]]
  | c :: cs => if c = .element id then c :: addChar x cs else c :: addCharBefore x id cs

/-- Puts a character at a place. -/
def putChar (b : Builder) (place : Place) (x : Char) : Builder :=
  b.modify place.parent fun c ↦
    { c with children := match place.before with
        | none => addChar x c.children
        | some other => addCharBefore x other c.children }

/-- The elements of a table that hold no text of their own. -/
def tableParts : List String := ["table", "tbody", "tfoot", "thead", "tr"]

/-- The place in front of the innermost open table, or in the template that stands within it. -/
def fosterPlace (b : Builder) : Place :=
  match b.stack.find? (b.isOneOf ["template", "table"]) with
  | none => ⟨b.stack.getLastD 0, none⟩
  | some id =>
    if b.isOneOf ["template"] id then ⟨id, none⟩
    else match (b.cell id).parent with
      | some p => ⟨p, some id⟩
      | none => ⟨((b.stack.dropWhile (· ≠ id)).tail).headD 0, none⟩

/-- Where a new child of the target goes. -/
def placeIn (b : Builder) (target : Nat) : Place :=
  if b.foster && b.isOneOf tableParts target then b.fosterPlace else ⟨target, none⟩

/-- Puts a character into the innermost open element. -/
def insertChar (b : Builder) (x : Char) : Builder :=
  let place := b.placeIn b.current
  if place.parent = 0 then b else b.putChar place x

/-- Puts a new element into the innermost open one and opens it. -/
def insertForeign (b : Builder) (space : Space) (name : String)
    (attributes : List (String × String)) : Builder :=
  let place := b.placeIn b.current
  let (b, id) := b.create space name attributes
  let b := b.putElement place id
  { b with stack := id :: b.stack }

/-- Puts a new HTML element into the innermost open one and opens it. -/
def insertElement (b : Builder) (name : String) (attributes : List (String × String)) : Builder :=
  b.insertForeign .html name attributes

/-- Puts a new HTML element without content into the innermost open one. -/
def insertVoid (b : Builder) (name : String) (attributes : List (String × String)) : Builder :=
  (b.insertElement name attributes).pop

/-- Adds attributes that an element does not have. -/
def addMissing (b : Builder) (id : Nat) (attributes : List (String × String)) : Builder :=
  b.modify id fun c ↦
    { c with attributes := c.attributes ++
        attributes.filter fun a ↦ !c.attributes.any fun a' ↦ a'.1 = a.1 }

/-! ### Implied ends -/

/-- The elements whose end may be left out. -/
def impliedEnds : List String :=
  ["dd", "dt", "li", "optgroup", "option", "p", "rb", "rp", "rt", "rtc"]

/-- The elements whose end may be left out before the end of a template. -/
def thoroughEnds : List String :=
  impliedEnds ++ ["caption", "colgroup", "tbody", "td", "tfoot", "th", "thead", "tr"]

/-- Closes elements whose end may be left out, but for those with the name `except`. -/
def closeImplied (b : Builder) (except : String) : Builder :=
  { b with stack := b.stack.dropWhile fun id ↦
      b.isOneOf impliedEnds id && !b.isOneOf [except] id }

/-- Closes elements whose end may be left out before the end of a template. -/
def closeThoroughly (b : Builder) : Builder :=
  { b with stack := b.stack.dropWhile (b.isOneOf thoroughEnds) }

/-- Closes an open paragraph. -/
def closeParagraph (b : Builder) : Builder :=
  (b.closeImplied "p").popThrough (b.isOneOf ["p"])

/-- Closes a paragraph that is in scope. -/
def endParagraph (b : Builder) : Builder :=
  if b.inButtonScope ["p"] then b.closeParagraph else b

/-! ### Formatting elements -/

/-- Whether two elements have the same name and attributes. -/
def alike (a b : Cell) : Bool :=
  a.space = b.space && a.name = b.name && a.attributes.length = b.attributes.length
    && a.attributes.all b.attributes.contains

/-- Formatting elements without the earliest of those like a new one, if there are three. -/
def dropFourth (b : Builder) (new : Cell) (es : List Entry) : List Entry :=
  let recent := es.takeWhile (· ≠ .border)
  let same := recent.filter fun e ↦ e.id?.any fun id ↦ alike (b.cell id) new
  if 3 ≤ same.length then
    match same.getLast? with
    | some e => es.erase e
    | none => es
  else es

/-- Notes the innermost open element as a formatting element. -/
def noteFormatting (b : Builder) : Builder :=
  let id := b.current
  { b with formatting := .element id :: b.dropFourth (b.cell id) b.formatting }

/-- Forgets the formatting elements up to the last border. -/
def clearFormatting (b : Builder) : Builder :=
  { b with formatting := (b.formatting.dropWhile (· ≠ .border)).tail }

/-- Opens the formatting elements again, given with the earliest first, each in the place of the one
it repeats. -/
def reopen (b : Builder) : List Entry → Builder
  | [] => b
  | .border :: es => b.reopen es
  | .element id :: es =>
    let c := b.cell id
    let b := b.insertElement c.name c.attributes
    let new := b.current
    let formatting := b.formatting.map fun e ↦ if e.id? = some id then .element new else e
    { b with formatting }.reopen es

/-- Opens the formatting elements again that are not open, as far as the last one that is. -/
def reconstruct (b : Builder) : Builder :=
  let closed := b.formatting.takeWhile fun e ↦ e.id?.any fun id ↦ !b.stack.contains id
  b.reopen closed.reverse

/-- The last formatting element with a name, as far as the last border. -/
def formatting? (b : Builder) (name : String) : Option Nat :=
  ((b.formatting.takeWhile (· ≠ .border)).filterMap Entry.id?).find? (b.isOneOf [name])

/-! ### Elements that are treated apart -/

/-- The HTML elements that cannot be moved out of. -/
def specialNames : List String := [
  "address", "applet", "area", "article", "aside", "base", "basefont", "bgsound", "blockquote",
  "body", "br", "button", "caption", "center", "col", "colgroup", "dd", "details", "dir", "div",
  "dl", "dt", "embed", "fieldset", "figcaption", "figure", "footer", "form", "frame", "frameset",
  "h1", "h2", "h3", "h4", "h5", "h6", "head", "header", "hgroup", "hr", "html", "iframe", "img",
  "input", "keygen", "li", "link", "listing", "main", "marquee", "menu", "meta", "nav", "noembed",
  "noframes", "noscript", "object", "ol", "p", "param", "plaintext", "pre", "script", "search",
  "section", "select", "source", "style", "summary", "table", "tbody", "td", "template", "textarea",
  "tfoot", "th", "thead", "title", "tr", "track", "ul", "wbr", "xmp"]

/-- Whether an element cannot be moved out of. -/
def isSpecial (c : Cell) : Bool :=
  c.isOneOf specialNames
    || (c.space = .mathml && ["mi", "mo", "mn", "ms", "mtext", "annotation-xml"].contains c.name)
    || (c.space = .svg && ["foreignObject", "desc", "title"].contains c.name)

/-! ### Modes -/

/-- The mode that an open element asks for; `outer` holds the elements it stands in, the innermost
first. -/
def modeOf? (b : Builder) (id : Nat) (outer : List Nat) : Option Mode :=
  let c := b.cell id
  if c.space ≠ .html then none
  else match c.name with
    | "select" =>
      match outer.find? (b.isOneOf ["template", "table"]) with
      | some id => if b.isOneOf ["table"] id then some .inSelectInTable else some .inSelect
      | none => some .inSelect
    | "td" | "th" => some .inCell
    | "tr" => some .inRow
    | "tbody" | "thead" | "tfoot" => some .inTableBody
    | "caption" => some .inCaption
    | "colgroup" => some .inColumnGroup
    | "table" => some .inTable
    | "template" => some (b.templates.headD .inBody)
    | "head" => some .inHead
    | "body" => some .inBody
    | "frameset" => some .inFrameset
    | "html" =>
      some (if b.fragment then .inBody else if b.head.isSome then .afterHead else .beforeHead)
    | _ => none

/-- The mode that the innermost open elements ask for. -/
def modeOfStack (b : Builder) : List Nat → Mode
  | [] => .inBody
  | id :: outer => (b.modeOf? id outer).getD (b.modeOfStack outer)

/-- Takes up the mode that the open elements ask for. -/
def resetMode (b : Builder) : Builder :=
  { b with mode := b.modeOfStack b.stack }

/-- Opens an element whose content is read as a whole. -/
def insertRaw (b : Builder) (kind : Raw) (name : String) (attributes : List (String × String)) :
    Builder :=
  { b.insertElement name attributes with raw := some kind, resume := b.mode, mode := .text }

/-! ### The finished tree -/

/-- The nodes below an element that are nested no deeper than `depth`. -/
def nodesBelow (b : Builder) : Nat → Nat → List Node
  | 0, _ => []
  | depth + 1, id =>
    (b.cell id).children.reverse.map fun c ↦
      match c with
      | .text s => .text s.reverse
      | .element id => .element id (b.cell id).name (b.cell id).attributes (b.nodesBelow depth id)

/-- The finished nodes of the document. -/
def nodes (b : Builder) : List Node :=
  b.nodesBelow (b.cells.size + 1) 0

/-- The finished trees: the document, and behind it each element that was taken out of it. -/
def roots (b : Builder) : List Node :=
  ((List.range b.cells.size).filter fun id ↦ (b.cell id).parent.isNone).map fun id ↦
    .element id (b.cell id).name (b.cell id).attributes (b.nodesBelow (b.cells.size + 1) id)

end Builder

/-- What a rule makes of a token. -/
inductive Reaction where
  /-- The token is dealt with. -/
  | done (b : Builder)
  /-- The token is looked at once more, in the mode that the builder is in now. -/
  | again (b : Builder)
  /-- The token is left to the rules of another mode. -/
  | follow (mode : Mode) (b : Builder)

/-- Looks at a token once more in another mode. -/
def Reaction.switch (mode : Mode) (b : Builder) : Reaction :=
  .again { b with mode }

end SiteSearch.Html
