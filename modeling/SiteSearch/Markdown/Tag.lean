import SiteSearch.Markdown.Line

/-!
# HTML inside Markdown

Tags, comments and other markup that Markdown passes over as one unit, and the two forms of
addresses in angle brackets. Each reader starts behind the opening angle bracket and gives the text
behind the closing one.

Main definitions: `tagEnd?`, `markupEnd?`, `readAddress?`.
-/

set_option autoImplicit false
set_option relaxedAutoImplicit false

namespace SiteSearch.Markdown

/-! ### Tags -/

/-- The text behind white space, which may hold ends of lines only if `wide`. -/
def skipTagSpace? (wide : Bool) (s : List Char) : Option (List Char) :=
  if !wide && (s.takeWhile isSpace).any isEol then none else some (s.dropWhile isSpace)

/-- The text behind the first occurrence of a quote, which ends of lines may precede only if
`wide`. -/
def skipQuoted? (wide : Bool) (quote : Char) : List Char → Option (List Char)
  | [] => none
  | c :: s =>
    if c = quote then some s
    else if isEol c && !wide then none
    else skipQuoted? wide quote s

/-- Whether a character can stand in an attribute value without quotes. -/
def isBareValue (c : Char) : Bool :=
  !(isEol c || [' ', '"', '\x27', '=', '<', '>', '\x60'].contains c)

/-- The text behind an attribute value. -/
def skipValue? (wide : Bool) (s : List Char) : Option (List Char) :=
  match s with
  | [] => none
  | c :: rest =>
    if c = '"' ∨ c = '\x27' then skipQuoted? wide c rest
    else if isBareValue c then some (s.dropWhile isBareValue)
    else none

/-- Whether a character can stand first in the name of an attribute. -/
def isNameStart (c : Char) : Bool :=
  c.isAlpha || c = '_' || c = ':'

/-- The text behind an attribute. -/
def skipAttribute? (wide : Bool) (s : List Char) : Option (List Char) :=
  match s with
  | [] => none
  | c :: rest =>
    if isNameStart c then
      let behind := rest.dropWhile fun x ↦ x.isAlphanum || ['_', '.', ':', '-'].contains x
      match skipTagSpace? wide behind with
      | none => none
      | some ('=' :: rest) => (skipTagSpace? wide rest).bind (skipValue? wide)
      | some _ => some behind
    else none

/-- The text behind the attributes of a tag, of which there are at most `fuel`, and the white space
around them. -/
def skipAttributes? (wide : Bool) : Nat → List Char → Option (List Char)
  | 0, _ => none
  | fuel + 1, s =>
    match skipTagSpace? wide s with
    | none => none
    | some rest =>
      match rest with
      | '/' :: _ => some rest
      | '>' :: _ => some rest
      | _ =>
        if rest.length = s.length then none
        else (skipAttribute? wide rest).bind (skipAttributes? wide fuel)

/-- The text without the name of a tag at its front. -/
def skipTagName (s : List Char) : List Char :=
  (s.dropWhile Char.isAlpha).dropWhile fun c ↦ c.isAlphanum || c = '-'

/-- The text behind an opening or closing tag, which may extend over lines only if `wide`. -/
def tagEnd? (wide : Bool) (s : List Char) : Option (List Char) :=
  match s with
  | '/' :: rest =>
    if rest.head?.any Char.isAlpha then
      match skipTagSpace? wide (skipTagName rest) with
      | some ('>' :: rest) => some rest
      | _ => none
    else none
  | _ =>
    if s.head?.any Char.isAlpha then
      match skipAttributes? wide (s.length + 1) (skipTagName s) with
      | some ('/' :: '>' :: rest) => some rest
      | some ('>' :: rest) => some rest
      | _ => none
    else none

/-! ### Comments and the like -/

/-- The text behind the first occurrence of a piece. -/
def behind? (piece : List Char) : List Char → Option (List Char)
  | [] => none
  | c :: s =>
    if piece.isPrefixOf (c :: s) then some ((c :: s).drop piece.length) else behind? piece s

/-- The text behind a comment, a processing instruction, a declaration or a `CDATA` section. -/
def specialEnd? (s : List Char) : Option (List Char) :=
  match s with
  | '?' :: rest => behind? ['?', '>'] rest
  | '!' :: '-' :: '-' :: '>' :: rest => some rest
  | '!' :: '-' :: '-' :: '-' :: '>' :: rest => some rest
  | '!' :: '-' :: '-' :: rest => behind? ['-', '-', '>'] rest
  | '!' :: '[' :: rest =>
    if "CDATA[".toList.isPrefixOf rest then behind? [']', ']', '>'] rest else none
  | '!' :: c :: rest => if c.isAlpha then behind? ['>'] rest else none
  | _ => none

/-- The text behind a piece of HTML within a paragraph. -/
def markupEnd? (s : List Char) : Option (List Char) :=
  match specialEnd? s with
  | some rest => some rest
  | none => tagEnd? true s

/-! ### Addresses -/

/-- A URL up to its closing bracket, and what follows. -/
def readUri? (s : List Char) : Option (List Char × List Char) :=
  let isSchemeChar (c : Char) : Bool := c.isAlphanum || c = '.' || c = '-' || c = '+'
  let scheme := s.takeWhile isSchemeChar
  let plain := s.takeWhile fun c ↦ c ≠ '>' && c ≠ '<' && 0x20 < c.toNat
  if s.head?.any Char.isAlpha && 2 ≤ scheme.length && scheme.length ≤ 32 then
    match s.drop scheme.length, s.drop plain.length with
    | ':' :: _, '>' :: rest => some (plain, rest)
    | _, _ => none
  else none

/-- Whether a character can stand in the local part of a mail address. -/
def isMailChar (c : Char) : Bool :=
  c.isAlphanum || ".!#$%&'*+/=?^_\x60\x7b|\x7d~-".toList.contains c

/-- The text behind the labels of a domain. -/
def skipLabels? : Nat → List Char → Option (List Char)
  | 0, _ => none
  | fuel + 1, s =>
    let label := s.takeWhile fun c ↦ c.isAlphanum || c = '-'
    if label = [] ∨ 63 < label.length ∨ label.head? = some '-' ∨ label.getLast? = some '-' then none
    else match s.drop label.length with
      | '.' :: rest => skipLabels? fuel rest
      | rest => some rest

/-- A mail address up to its closing bracket, and what follows. -/
def readMail? (s : List Char) : Option (List Char × List Char) :=
  match s.takeWhile isMailChar, s.dropWhile isMailChar with
  | _ :: _, '@' :: domain =>
    match skipLabels? (domain.length + 1) domain with
    | some ('>' :: rest) => some (s.take (s.length - rest.length - 1), rest)
    | _ => none
  | _, _ => none

/-- An address with its destination, and what follows. -/
def readAddress? (s : List Char) : Option (List Char × List Char × List Char) :=
  match readUri? s with
  | some (uri, rest) => some (uri, uri, rest)
  | none => (readMail? s).map fun (mail, rest) ↦ (mail, "mailto:".toList ++ mail, rest)

end SiteSearch.Markdown
