import SiteSearch.Site.Index
import SiteSearch.Text.Escape
import SiteSearch.Text.WordChar

/-!
# Links to pages

In a piece of HTML, an anchor that points to a page of the site shows the title of that page. An
anchor is recognised by its text alone: `<a`, anything up to the first attribute `href` with a value
in double quotes, the next `>` behind that value, and everything up to the first `</a>`.

Main definitions: `Links`, `Links.titleFor`, `Links.rewrite`.
-/

set_option autoImplicit false
set_option relaxedAutoImplicit false

namespace SiteSearch.Site

open Text

/-- The pages that anchors are taken to point to: those of the index, below the base. -/
structure Links where
  base : String
  index : Index
deriving DecidableEq, Repr

/-- The ending of the address of a page. -/
def pageSuffix : List Char := ".html".toList

/-- The text without the first occurrence of a piece. -/
def removeFirst (piece : List Char) : List Char → List Char
  | [] => []
  | c :: s =>
    if piece.isPrefixOf (c :: s) then (c :: s).drop piece.length else c :: removeFirst piece s

/-- The title of the page that an address points to. -/
def Links.titleFor (l : Links) (href : String) : Option String :=
  if l.base.toList.isPrefixOf href.toList then
    let rest := href.toList.drop l.base.toList.length
    l.index.titleFor (.ofList (removeFirst pageSuffix rest))
  else none

/-- The front of an attribute with an address. -/
def hrefOpening : List Char := "href=\"".toList

/-- The end of an anchor. -/
def anchorClosing : List Char := "</a>".toList

/-- A text cut behind the first occurrence of a piece. -/
def cutBehind? (piece : List Char) : List Char → Option (List Char × List Char)
  | [] => if piece = [] then some ([], []) else none
  | c :: s =>
    if piece.isPrefixOf (c :: s) then some (piece, (c :: s).drop piece.length)
    else (cutBehind? piece s).map fun (front, rest) ↦ (c :: front, rest)

/-- A text cut behind the front of the first attribute with an address, when no `>` stands before
it; `inWord` tells whether a word character stands before the text. -/
def cutBehindHref? : Bool → List Char → Option (List Char × List Char)
  | _, [] => none
  | inWord, c :: s =>
    if !inWord && hrefOpening.isPrefixOf (c :: s) then
      some (hrefOpening, (c :: s).drop hrefOpening.length)
    else if c = '>' then none
    else (cutBehindHref? (isWordChar c) s).map fun (front, rest) ↦ (c :: front, rest)

/-- An anchor: what stands between `<a` and the end of its opening tag, the address, and what stands
between the tags. -/
structure Anchor where
  attributes : List Char
  href : List Char
  inner : List Char
deriving DecidableEq, Repr

/-- Whether a text starts with a word character. -/
def startsInWord (s : List Char) : Bool :=
  s.head?.any isWordChar

/-- The anchor of a text behind `<a`, and the text that follows it. -/
def anchor? (s : List Char) : Option (Anchor × List Char) := do
  if startsInWord s then none
  let (front, rest) ← cutBehindHref? true s
  let (href, rest) ← cutBehind? ['"'] rest
  let (back, rest) ← cutBehind? ['>'] rest
  let (inner, rest) ← cutBehind? anchorClosing rest
  return ({ attributes := front ++ href ++ back.dropLast, href := href.dropLast,
            inner := inner.take (inner.length - anchorClosing.length) }, rest)

/-- An anchor as it is written. -/
def Anchor.write (a : Anchor) : List Char :=
  '<' :: 'a' :: a.attributes ++ '>' :: a.inner ++ anchorClosing

/-- The title of a page as it stands in an anchor. -/
def titleMarkup (title : String) : List Char :=
  "[<b>".toList ++ (escapeHtml title).toList ++ "</b>]".toList

/-- The anchor with the title of the page it points to, if it points to one. -/
def Links.retitle (l : Links) (a : Anchor) : Anchor :=
  match l.titleFor (.ofList a.href) with
  | some title => { a with inner := titleMarkup title }
  | none => a

/-- Rewrites the anchors of a text of at most `fuel` characters. -/
def Links.rewriteFrom (l : Links) : Nat → List Char → List Char
  | 0, s => s
  | _, [] => []
  | fuel + 1, '<' :: 'a' :: s =>
    match anchor? s with
    | some (a, rest) => (l.retitle a).write ++ l.rewriteFrom fuel rest
    | none => '<' :: l.rewriteFrom fuel ('a' :: s)
  | fuel + 1, c :: s => c :: l.rewriteFrom fuel s

/-- A piece of HTML with the anchors that point to pages of the site showing their titles. -/
def Links.rewrite (l : Links) (html : String) : String :=
  .ofList (l.rewriteFrom html.toList.length html.toList)

end SiteSearch.Site
