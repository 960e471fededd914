import SiteSearch.Html.Head

/-!
# Tables

The rules for tables and their parts. What has no place in a table is read by the rules of the body
and put in front of the table.

Main definitions: `Builder.tableRule`, `Builder.tableTextRule`.
-/

set_option autoImplicit false
set_option relaxedAutoImplicit false

namespace SiteSearch.Html

/-- The elements that group rows. -/
def rowGroupNames : List String := ["tbody", "tfoot", "thead"]

/-- The parts of a table that end a row, a group of rows or a caption. -/
def tablePartNames : List String :=
  ["caption", "col", "colgroup", "tbody", "td", "tfoot", "th", "thead", "tr"]

namespace Builder

/-- Reads a token by the rules of the body, with its content put in front of the table. -/
def inFront (b : Builder) : Reaction :=
  .follow .inBody { b with foster := true }

/-- Closes elements up to the innermost table. -/
def clearToTable (b : Builder) : Builder :=
  b.popTo ["table", "template", "html"]

/-- Closes elements up to the innermost group of rows. -/
def clearToRows (b : Builder) : Builder :=
  b.popTo (rowGroupNames ++ ["template", "html"])

/-- Closes elements up to the innermost row. -/
def clearToRow (b : Builder) : Builder :=
  b.popTo ["tr", "template", "html"]

/-- An opening tag in a table. -/
def tableOpening (b : Builder) (name : String) (attributes : List (String × String)) : Reaction :=
  if rowGroupNames.contains name then
    .done { b.clearToTable.insertElement name attributes with mode := .inTableBody }
  else match name with
    | "caption" =>
      let b := b.clearToTable
      let b := { b with formatting := .border :: b.formatting }
      .done { b.insertElement name attributes with mode := .inCaption }
    | "colgroup" =>
      .done { b.clearToTable.insertElement name attributes with mode := .inColumnGroup }
    | "col" => .switch .inColumnGroup (b.clearToTable.insertElement "colgroup" [])
    | "td" | "th" | "tr" => .switch .inTableBody (b.clearToTable.insertElement "tbody" [])
    | "table" =>
      if b.inTableScope ["table"] then .again (b.popThrough (b.isOneOf ["table"])).resetMode
      else .done b
    | "style" | "script" | "template" => .follow .inHead b
    | "input" => if isHidden attributes then .done (b.insertVoid name attributes) else b.inFront
    | "form" =>
      .done (if b.inTemplate || b.form.isSome then b
        else
          let b := b.insertElement name attributes
          { b with form := some b.current }.pop)
    | _ => b.inFront

/-- What a token does in a table. -/
def tableRule (b : Builder) : Token → Reaction
  | .char _ =>
    if b.currentIs tableParts then
      .switch .inTableText { b with resume := b.mode, tableText := [] }
    else b.inFront
  | .doctype _ => .done b
  | .opening name attributes _ => b.tableOpening name attributes
  | .closing name =>
    if name = "table" then
      .done (if b.inTableScope ["table"] then
        (b.popThrough (b.isOneOf ["table"])).resetMode else b)
    else if ["body", "html"].contains name || tablePartNames.contains name then .done b
    else if name = "template" then .follow .inHead b
    else b.inFront
  | .ending => .follow .inBody b

/-- Puts the characters that were found in a table into it, or in front of it if they show. -/
def placeTableText (b : Builder) : Builder :=
  let text := b.tableText.reverse
  let b := { b with tableText := [] }
  if text.all isSpace then text.foldl insertChar b
  else { text.foldl bodyChar { b with foster := true } with foster := false }

/-- What a token does among the characters in a table. -/
def tableTextRule (b : Builder) : Token → Reaction
  | .char c => .done (if c = '\x00' then b else { b with tableText := c :: b.tableText })
  | _ => .switch b.resume b.placeTableText

/-- Closes a caption, if one is in scope. -/
def closeCaption? (b : Builder) : Option Builder :=
  if b.inTableScope ["caption"] then
    some { ((b.closeImplied "").popThrough (b.isOneOf ["caption"])).clearFormatting with
      mode := .inTable }
  else none

/-- What a token does in a caption. -/
def captionRule (b : Builder) : Token → Reaction
  | .opening name _ _ =>
    if tablePartNames.contains name then
      match b.closeCaption? with
      | some b => .again b
      | none => .done b
    else .follow .inBody b
  | .closing name =>
    if name = "caption" then .done (b.closeCaption?.getD b)
    else if name = "table" then
      match b.closeCaption? with
      | some b => .again b
      | none => .done b
    else if ["body", "html"].contains name || tablePartNames.contains name then .done b
    else .follow .inBody b
  | _ => .follow .inBody b

/-- What a token does in a group of columns. -/
def columnRule (b : Builder) (t : Token) : Reaction :=
  let leave : Reaction :=
    if b.currentIs ["colgroup"] then .switch .inTable b.pop else .done b
  match t with
  | .char c => if isSpace c then .done (b.insertChar c) else leave
  | .doctype _ => .done b
  | .opening "html" _ _ => .follow .inBody b
  | .opening "col" attributes _ => .done (b.insertVoid "col" attributes)
  | .opening "template" _ _ => .follow .inHead b
  | .closing "template" => .follow .inHead b
  | .closing "colgroup" =>
    .done (if b.currentIs ["colgroup"] then { b.pop with mode := .inTable } else b)
  | .closing "col" => .done b
  | .ending => .follow .inBody b
  | _ => leave

/-- What a token does in a group of rows. -/
def rowsRule (b : Builder) (t : Token) : Reaction :=
  let leave : Reaction :=
    if b.inTableScope rowGroupNames then .switch .inTable b.clearToRows.pop else .done b
  match t with
  | .opening "tr" attributes _ =>
    .done { b.clearToRows.insertElement "tr" attributes with mode := .inRow }
  | .opening name _ _ =>
    if name = "td" ∨ name = "th" then .switch .inRow (b.clearToRows.insertElement "tr" [])
    else if tablePartNames.contains name then leave
    else .follow .inTable b
  | .closing name =>
    if rowGroupNames.contains name then
      .done (if b.inTableScope [name] then { b.clearToRows.pop with mode := .inTable } else b)
    else if name = "table" then leave
    else if ["body", "html"].contains name || tablePartNames.contains name then .done b
    else .follow .inTable b
  | _ => .follow .inTable b

/-- What a token does in a row. -/
def rowRule (b : Builder) (t : Token) : Reaction :=
  let leave : Reaction :=
    if b.inTableScope ["tr"] then .switch .inTableBody b.clearToRow.pop else .done b
  match t with
  | .opening name attributes _ =>
    if name = "td" ∨ name = "th" then
      let b := { b.clearToRow.insertElement name attributes with mode := .inCell }
      .done { b with formatting := .border :: b.formatting }
    else if tablePartNames.contains name then leave
    else .follow .inTable b
  | .closing name =>
    if name = "tr" then
      .done (if b.inTableScope ["tr"] then { b.clearToRow.pop with mode := .inTableBody } else b)
    else if name = "table" then leave
    else if rowGroupNames.contains name then
      if b.inTableScope [name] then leave else .done b
    else if ["body", "html"].contains name || tablePartNames.contains name then .done b
    else .follow .inTable b
  | _ => .follow .inTable b

/-- Closes the cell that is open. -/
def closeCell (b : Builder) : Builder :=
  { ((b.closeImplied "").popThrough (b.isOneOf ["td", "th"])).clearFormatting with
    mode := .inRow }

/-- What a token does in a cell of a table. -/
def cellRule (b : Builder) : Token → Reaction
  | .opening name _ _ =>
    if tablePartNames.contains name then
      if b.inTableScope ["td", "th"] then .again b.closeCell else .done b
    else .follow .inBody b
  | .closing name =>
    if name = "td" ∨ name = "th" then
      .done (if b.inTableScope [name] then
        { ((b.closeImplied "").popThrough (b.isOneOf [name])).clearFormatting with
          mode := .inRow }
        else b)
    else if tableParts.contains name then
      if b.inTableScope [name] then .again b.closeCell else .done b
    else if ["body", "caption", "col", "colgroup", "html"].contains name then .done b
    else .follow .inBody b
  | _ => .follow .inBody b

end Builder

end SiteSearch.Html
