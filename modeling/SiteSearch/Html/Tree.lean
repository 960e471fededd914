import SiteSearch.Text.Blank

/-!
# HTML trees

A document is a tree of elements and texts. Its elements are numbered in the order in which they
were made; this is not the order of the document where content was moved, as it is from a table to
the place in front of it. What is asked of a document here is the text below a node, the element
made first of those that satisfy a condition, and the text of the main part of a page.

Main definitions: `Node`, `Node.allText`, `Node.elements`, `earliest?`, `mainText?`.
-/

set_option autoImplicit false
set_option relaxedAutoImplicit false

namespace SiteSearch.Html

open Text

/-- A node of a document. Elements are numbered in the order in which they were made. -/
inductive Node where
  | text (s : List Char)
  | element (number : Nat) (name : String) (attributes : List (String × String))
      (children : List Node)
deriving Repr

/-- The number of an element. -/
def Node.number : Node → Nat
  | .text _ => 0
  | .element number _ _ _ => number

/-- The value of an attribute. -/
def attribute? (attributes : List (String × String)) (name : String) : Option String :=
  (attributes.find? fun a ↦ a.1 = name).map Prod.snd

/-- Whether attributes name a class. -/
def hasClass (attributes : List (String × String)) (name : String) : Bool :=
  match attribute? attributes "class" with
  | some value => (words value.toList).contains name.toList
  | none => false

mutual

/-- The text below a node in document order. -/
def Node.allText : Node → List Char
  | .text s => s
  | .element _ _ _ children => textOfAll children

/-- The text below several nodes. -/
def textOfAll : List Node → List Char
  | [] => []
  | n :: ns => n.allText ++ textOfAll ns

end

mutual

/-- The elements at and below a node with name and attributes as asked for, in document order, each
with whether one of its ancestors satisfies `mark`; `inside` tells whether one of those that the
node has does. -/
def Node.elements (asked mark : String → List (String × String) → Bool) (inside : Bool) :
    Node → List (Bool × Node)
  | .text _ => []
  | .element number name attributes children =>
    let below := elementsAmong asked mark (inside || mark name attributes) children
    if asked name attributes then (inside, .element number name attributes children) :: below
    else below

/-- Such elements at and below several nodes. -/
def elementsAmong (asked mark : String → List (String × String) → Bool) (inside : Bool) :
    List Node → List (Bool × Node)
  | [] => []
  | n :: ns => n.elements asked mark inside ++ elementsAmong asked mark inside ns

end

/-- Such elements below a node that has no ancestors. -/
def Node.elementsBelow (asked mark : String → List (String × String) → Bool) :
    Node → List (Bool × Node)
  | .text _ => []
  | .element _ name attributes children => elementsAmong asked mark (mark name attributes) children

/-- The element of those found that was made first. -/
def earliest? : List (Bool × Node) → Option (Bool × Node)
  | [] => none
  | found :: rest =>
    match earliest? rest with
    | some other => if other.2.number < found.2.number then some other else some found
    | none => some found

mutual

/-- The text below a node in document order, without that of elements that satisfy `mark`. -/
def Node.textOutside (mark : String → List (String × String) → Bool) : Node → List Char
  | .text s => s
  | .element _ name attributes children =>
    if mark name attributes then [] else textOutsideAll mark children

/-- The text below several nodes, without that of elements that satisfy `mark`. -/
def textOutsideAll (mark : String → List (String × String) → Bool) : List Node → List Char
  | [] => []
  | n :: ns => n.textOutside mark ++ textOutsideAll mark ns

end

/-- Whether an element is the main part of a page. -/
def isMain (_ : String) (attributes : List (String × String)) : Bool :=
  attribute? attributes "role" = some "main"

/-- Whether an element is a mark that links to the heading it stands in. -/
def isHeaderLink (_ : String) (attributes : List (String × String)) : Bool :=
  hasClass attributes "headerlink"

/-- The text of the main part made first below the roots of some trees, white space collapsed and
without the marks of headings, if there is any. -/
def mainText? (roots : List Node) : Option String :=
  match earliest? (roots.flatMap (Node.elementsBelow isMain isHeaderLink)) with
  | none => none
  | some (inside, main) =>
    let text := collapse (if inside then [] else main.textOutside isHeaderLink)
    if text = [] then none else some (.ofList text)

/-- Whether an element is a link with an address. -/
def isLink (name : String) (attributes : List (String × String)) : Bool :=
  name = "a" && (attribute? attributes "href").isSome

/-- The address of the link made first at and below some nodes. -/
def firstAddress? (nodes : List Node) : Option String :=
  match earliest? (elementsAmong isLink (fun _ _ ↦ false) false nodes) with
  | some (_, .element _ _ attributes _) => attribute? attributes "href"
  | _ => none

/-- The text below some nodes, white space collapsed. -/
def plainText (nodes : List Node) : String :=
  .ofList (collapse (textOfAll nodes))

end SiteSearch.Html
