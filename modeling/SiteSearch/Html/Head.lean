import SiteSearch.Html.Body

/-!
# What comes before the body

The rules from the start of a document to its body. The document, its head and its body are begun
by the first token that needs them, whether or not their tags are there.

Main definitions: `Builder.headRule`, `Builder.openingRule`.
-/

set_option autoImplicit false
set_option relaxedAutoImplicit false

namespace SiteSearch.Html

/-- The closing tags that begin a missing part of a document. -/
def beginningNames : List String :=
  ["head", "body", "html", "br"]

/-- Whether a token belongs to a later part of a document, which it then begins. -/
def beginsPart : Token → Bool
  | .closing name => beginningNames.contains name
  | _ => true

namespace Builder

/-- Closes a template. -/
def closeTemplate (b : Builder) : Builder :=
  if b.inTemplate then
    let b := (b.closeThoroughly.popThrough (b.isOneOf ["template"])).clearFormatting
    { b with templates := b.templates.tail }.resetMode
  else b

/-- An opening tag of the head. -/
def openInHead? (b : Builder) (name : String) (attributes : List (String × String)) :
    Option Builder :=
  match name with
  | "base" | "basefont" | "bgsound" | "link" | "meta" => some (b.insertVoid name attributes)
  | "title" => some (b.insertRaw .withReferences name attributes)
  | "noframes" | "noscript" | "style" => some (b.insertRaw .plain name attributes)
  | "script" => some (b.insertRaw .script name attributes)
  | "template" =>
    let b := (b.insertElement name attributes).noFrames
    some { b with
      formatting := .border :: b.formatting
      mode := .inTemplate
      templates := .inTemplate :: b.templates }
  | "head" => some b
  | _ => none

/-- What a token does in the head. -/
def headRule (b : Builder) (t : Token) : Reaction :=
  let leave : Reaction := .switch .afterHead b.pop
  match t with
  | .char c => if isSpace c then .done (b.insertChar c) else leave
  | .doctype _ => .done b
  | .opening name attributes _ =>
    if name = "html" then .follow .inBody b
    else match b.openInHead? name attributes with
      | some b => .done b
      | none => leave
  | .closing "head" => .done { b.pop with mode := .afterHead }
  | .closing "template" => .done b.closeTemplate
  | .closing name => if ["body", "html", "br"].contains name then leave else .done b
  | .ending => leave

/-- What a token does behind the head. -/
def afterHeadRule (b : Builder) (t : Token) : Reaction :=
  let beginBody : Reaction := .switch .inBody (b.insertElement "body" [])
  match t with
  | .char c => if isSpace c then .done (b.insertChar c) else beginBody
  | .doctype _ => .done b
  | .opening name attributes _ =>
    match name with
    | "html" => .follow .inBody b
    | "body" => .done { (b.insertElement name attributes).noFrames with mode := .inBody }
    | "frameset" => .done { b.insertElement name attributes with mode := .inFrameset }
    | "head" => .done b
    | _ =>
      if headNames.contains name then
        match b.head with
        | none => .done b
        | some head =>
          let inside := { b with stack := head :: b.stack }
          match inside.openInHead? name attributes with
          | some b => .done { b with stack := b.stack.filter (· ≠ head) }
          | none => .done b
      else beginBody
  | .closing "template" => .follow .inHead b
  | .closing name => if ["body", "html", "br"].contains name then beginBody else .done b
  | .ending => beginBody

/-- Begins the part of a document that is missing in a mode before that of the head. -/
def beginPart (b : Builder) : Mode → Reaction
  | .initial => .switch .beforeHtml { b with legacy := true }
  | .beforeHtml => .switch .beforeHead (b.insertElement "html" [])
  | _ =>
    let b := b.insertElement "head" []
    .switch .inHead { b with head := some b.current }

/-- What a token does at the start of a document, before its head is open. -/
def openingRule (b : Builder) (t : Token) : Reaction :=
  match t, b.mode with
  | .char c, mode =>
    if isSpace c then .done b else b.beginPart mode
  | .doctype old, .initial => .done { b with legacy := old, mode := .beforeHtml }
  | .doctype _, _ => .done b
  | .opening "html" attributes _, .beforeHtml =>
    .done { b.insertElement "html" attributes with mode := .beforeHead }
  | .opening "html" _ _, .beforeHead => .follow .inBody b
  | .opening "head" attributes _, .beforeHead =>
    let b := b.insertElement "head" attributes
    .done { b with head := some b.current, mode := .inHead }
  | t, mode => if mode = .initial || beginsPart t then b.beginPart mode else .done b

end Builder

end SiteSearch.Html
