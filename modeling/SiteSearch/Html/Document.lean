import SiteSearch.Html.Table

/-!
# Documents

A text of HTML is read as a document or as a fragment of its body. Each token goes to the rules of
the mode that the builder is in, which may look at it again in another mode.

Main definitions: `parseDocument`, `parseFragment`.
-/

set_option autoImplicit false
set_option relaxedAutoImplicit false

namespace SiteSearch.Html

open Text

namespace Builder

/-! ### Selections -/

/-- Closes an option, and a group of options too if one is to be closed. -/
def closeOption (b : Builder) (group : Bool) : Builder :=
  let b := if b.currentIs ["option"] then b.pop else b
  if group && b.currentIs ["optgroup"] then b.pop else b

/-- Closes the selection that is open. -/
def closeSelect (b : Builder) : Builder :=
  (b.popThrough (b.isOneOf ["select"])).resetMode

/-- What a token does in a selection. -/
def selectRule (b : Builder) : Token → Reaction
  | .char c => .done (if c = '\x00' then b else b.insertChar c)
  | .doctype _ => .done b
  | .opening name attributes _ =>
    match name with
    | "html" => .follow .inBody b
    | "option" => .done ((b.closeOption false).insertElement name attributes)
    | "optgroup" => .done ((b.closeOption true).insertElement name attributes)
    | "hr" => .done ((b.closeOption true).insertVoid name attributes)
    | "select" => .done (if b.inSelectScope ["select"] then b.closeSelect else b)
    | "input" | "keygen" | "textarea" =>
      if b.inSelectScope ["select"] then .again b.closeSelect else .done b
    | "script" | "template" => .follow .inHead b
    | _ => .done b
  | .closing name =>
    match name with
    | "optgroup" =>
      let b' := if b.currentIs ["option"] && b.pop.currentIs ["optgroup"] then b.pop else b
      .done (if b'.currentIs ["optgroup"] then b'.pop else b)
    | "option" => .done (b.closeOption false)
    | "select" => .done (if b.inSelectScope ["select"] then b.closeSelect else b)
    | "template" => .follow .inHead b
    | _ => .done b
  | .ending => .follow .inBody b

/-- What a token does in a selection within a table. -/
def selectInTableRule (b : Builder) (t : Token) : Reaction :=
  let names := ["caption", "table", "tbody", "tfoot", "thead", "tr", "td", "th"]
  match t with
  | .opening name _ _ =>
    if names.contains name then .again b.closeSelect else .follow .inSelect b
  | .closing name =>
    if names.contains name then
      if b.inTableScope [name] then .again b.closeSelect else .done b
    else .follow .inSelect b
  | _ => .follow .inSelect b

/-! ### Templates -/

/-- Takes up another mode for the innermost template. -/
def templateMode (b : Builder) (mode : Mode) : Reaction :=
  .switch mode { b with templates := mode :: b.templates.tail }

/-- What a token does in a template. -/
def templateRule (b : Builder) : Token → Reaction
  | .opening name _ _ =>
    if headNames.contains name then .follow .inHead b
    else match name with
      | "caption" | "colgroup" | "tbody" | "tfoot" | "thead" => b.templateMode .inTable
      | "col" => b.templateMode .inColumnGroup
      | "tr" => b.templateMode .inTableBody
      | "td" | "th" => b.templateMode .inRow
      | _ => b.templateMode .inBody
  | .closing name => if name = "template" then .follow .inHead b else .done b
  | .ending =>
    if b.inTemplate then
      let b := (b.popThrough (b.isOneOf ["template"])).clearFormatting
      .again { b with templates := b.templates.tail }.resetMode
    else .done b
  | _ => .follow .inBody b

/-! ### Behind the body -/

/-- What a token does behind the body. -/
def afterBodyRule (b : Builder) : Token → Reaction
  | .char c => if isSpace c then .follow .inBody b else .switch .inBody b
  | .doctype _ => .done b
  | .opening "html" _ _ => .follow .inBody b
  | .closing "html" =>
    if b.mode = .afterBody then .done (if b.fragment then b else { b with mode := .afterAfterBody })
    else .switch .inBody b
  | .ending => .done b
  | _ => .switch .inBody b

/-- What a token does in a set of frames, or behind one. -/
def framesetRule (b : Builder) (t : Token) : Reaction :=
  match t, b.mode with
  | .char c, .afterAfterFrameset => if isSpace c then .follow .inBody b else .done b
  | .char c, _ => .done (if isSpace c then b.insertChar c else b)
  | .opening "html" _ _, _ => .follow .inBody b
  | .opening "noframes" _ _, _ => .follow .inHead b
  | .opening "frameset" attributes _, .inFrameset => .done (b.insertElement "frameset" attributes)
  | .opening "frame" attributes _, .inFrameset => .done (b.insertVoid "frame" attributes)
  | .closing "frameset", .inFrameset =>
    if b.stack.length ≤ 1 then .done b
    else
      let b := b.pop
      .done (if b.currentIs ["frameset"] then b else { b with mode := .afterFrameset })
  | .closing "html", .afterFrameset => .done { b with mode := .afterAfterFrameset }
  | _, _ => .done b

/-- What a token does in the text of an element that is read as a whole. -/
def textRule (b : Builder) : Token → Reaction
  | .char c => .done (b.insertChar c)
  | .closing _ => .done { b.pop with mode := b.resume }
  | .ending => .switch b.resume b.pop
  | _ => .done b

/-! ### Tokens -/

/-- What a token does in a mode. -/
def rule (b : Builder) (mode : Mode) (t : Token) : Reaction :=
  match mode with
  | .initial | .beforeHtml | .beforeHead => b.openingRule t
  | .inHead => b.headRule t
  | .afterHead => b.afterHeadRule t
  | .inBody => b.bodyRule t
  | .text => b.textRule t
  | .inTable => b.tableRule t
  | .inTableText => b.tableTextRule t
  | .inCaption => b.captionRule t
  | .inColumnGroup => b.columnRule t
  | .inTableBody => b.rowsRule t
  | .inRow => b.rowRule t
  | .inCell => b.cellRule t
  | .inSelect => b.selectRule t
  | .inSelectInTable => b.selectInTableRule t
  | .inTemplate => b.templateRule t
  | .afterBody | .afterAfterBody => b.afterBodyRule t
  | .inFrameset | .afterFrameset | .afterAfterFrameset => b.framesetRule t

/-- Carries a reaction to a token through, in at most `fuel` steps. -/
def settle (t : Token) : Nat → Reaction → Builder
  | _, .done b => { b with foster := false }
  | 0, .again b | 0, .follow _ b => { b with foster := false }
  | fuel + 1, .follow mode b => settle t fuel (b.rule mode t)
  | fuel + 1, .again b =>
    let b := { b with foster := false }
    settle t fuel (if b.isForeign t then b.foreignRule t else b.rule b.mode t)

/-- Takes a token. A token is looked at no more often than a few times for each open element. -/
def take (b : Builder) (t : Token) : Builder :=
  let skipped := b.skipFeed && t = .char '\n'
  let b := { b with skipFeed := false }
  if skipped then b else settle t (8 * (b.stack.length + b.templates.length) + 40) (.again b)

/-- Takes characters. -/
def takeChars (b : Builder) (s : List Char) : Builder :=
  s.foldl (fun b c ↦ b.take (.char c)) b

/-- Whether sections of characters may stand here. -/
def takesSections (b : Builder) : Bool :=
  b.stack ≠ [] && (b.cell b.current).space ≠ .html

/-- Reads a text in at most `fuel` pieces. -/
def read (b : Builder) : Nat → List Char → Builder
  | 0, _ => b.take .ending
  | fuel + 1, s =>
    match next? b.takesSections s with
    | none => b.take .ending
    | some (.nothing, rest) => { b with skipFeed := false }.read fuel rest
    | some (.chars cs, rest) => (b.takeChars cs).read fuel rest
    | some (.token t, rest) =>
      let b := b.take t
      match b.raw with
      | none => b.read fuel rest
      | some kind =>
        let (text, rest) := rawText kind (b.cell b.current).name rest
        ({ b with raw := none }.takeChars text).read fuel rest

end Builder

/-- The text as it is read: without a byte order mark, lines ended by line feeds. -/
def readable (text : String) : List Char :=
  match text.toList with
  | '\uFEFF' :: s => normalLines s
  | s => normalLines s

/-- A document of which nothing is read yet. -/
def Builder.start : Builder where
  cells := #[.document]
  stack := []
  formatting := []
  mode := .initial
  resume := .initial
  templates := []
  head := none
  form := none
  framesetOk := true
  foster := false
  tableText := []
  legacy := false
  skipFeed := false
  fragment := false
  raw := none

/-- A fragment of a body of which nothing is read yet. -/
def Builder.startFragment : Builder :=
  { Builder.start.insertElement "html" [] with mode := .inBody, fragment := true }

/-- A document, and what was taken out of it while it was read, as trees. -/
def parseDocument (text : String) : List Node :=
  let s := readable text
  (Builder.start.read (s.length + 1) s).roots

/-- The nodes of a fragment of a body. -/
def parseFragment (text : String) : List Node :=
  let s := readable text
  (Builder.startFragment.read (s.length + 1) s).nodes

end SiteSearch.Html
