import SiteSearch.Html.Builder

/-!
# Foreign elements

Pictures and formulas within a document keep to rules of their own, until an element of HTML breaks
out of them or stands at a point where HTML is taken in again.

Main definitions: `Builder.isForeign`, `Builder.foreignRule`.
-/

set_option autoImplicit false
set_option relaxedAutoImplicit false

namespace SiteSearch.Html

/-- Whether text within an element of a formula is read as HTML. -/
def takesText (c : Cell) : Bool :=
  c.space = .mathml && ["mi", "mo", "mn", "ms", "mtext"].contains c.name

/-- Whether the content of an element of a picture is read as HTML. -/
def takesHtml (c : Cell) : Bool :=
  c.space = .svg && ["foreignObject", "desc", "title"].contains c.name

/-- The elements of HTML that break out of foreign ones. -/
def breakingNames : List String := [
  "b", "big", "blockquote", "body", "br", "center", "code", "dd", "div", "dl", "dt", "em", "embed",
  "h1", "h2", "h3", "h4", "h5", "h6", "head", "hr", "i", "img", "li", "listing", "menu", "meta",
  "nobr", "ol", "p", "pre", "ruby", "s", "small", "span", "strong", "strike", "sub", "sup", "table",
  "tt", "u", "ul", "var"]

/-- Whether an opening tag breaks out of foreign elements. -/
def breaksOut (name : String) (attributes : List (String × String)) : Bool :=
  breakingNames.contains name
    || (name = "font" && attributes.any fun a ↦ ["color", "face", "size"].contains a.1)

/-- The name of an element as its language spells it, where that matters here. -/
def foreignName (space : Space) (name : String) : String :=
  if space = .svg ∧ name = "foreignobject" then "foreignObject" else name

namespace Builder

/-- Whether a token is read by the rules of foreign elements. -/
def isForeign (b : Builder) (t : Token) : Bool :=
  let c := b.cell b.current
  if b.stack = [] ∨ c.space = .html then false
  else match t with
    | .ending => false
    | .char _ => !(takesText c || takesHtml c)
    | .opening name _ _ =>
      !(takesHtml c || (takesText c && name ≠ "mglyph" && name ≠ "malignmark")
        || (c.space = .mathml && c.name = "annotation-xml" && name = "svg"))
    | _ => true

/-- Leaves foreign elements up to one that takes HTML. -/
def leaveForeign (b : Builder) : Builder :=
  { b with stack := b.stack.dropWhile fun id ↦
      let c := b.cell id
      !(c.space = .html || takesText c || takesHtml c) }

/-- Opens a foreign element, which is closed at once if its tag says so. -/
def openForeign (b : Builder) (space : Space) (name : String) (attributes : List (String × String))
    (selfClosing : Bool) : Builder :=
  let b := b.insertForeign space (foreignName space name) attributes
  if selfClosing then b.pop else b

/-- Closes a foreign element among the innermost open ones, given with the innermost first; an
element of HTML that stands outside of them leaves the tag to the rules of its mode. -/
def closeForeign (b : Builder) (name : String) (first : Bool) : List Nat → Reaction
  | [] | [_] => .done b
  | id :: outer =>
    let c := b.cell id
    if !first && c.space = .html then .follow b.mode b
    else if c.name.toLower = name then .done { b with stack := outer }
    else b.closeForeign name false outer

/-- What a token does to foreign elements. -/
def foreignRule (b : Builder) : Token → Reaction
  | .char c =>
    if c = '\x00' then .done (b.insertChar '\uFFFD')
    else .done { b.insertChar c with framesetOk := b.framesetOk && isSpace c }
  | .opening name attributes selfClosing =>
    if breaksOut name attributes then
      let b := b.leaveForeign
      .follow b.mode b
    else .done (b.openForeign (b.cell b.current).space name attributes selfClosing)
  | .closing name =>
    if name = "br" ∨ name = "p" then
      let b := b.leaveForeign
      .follow b.mode b
    else b.closeForeign name true b.stack
  | _ => .done b

end Builder

end SiteSearch.Html
