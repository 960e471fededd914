import SiteSearch.Text.Punycode
import SiteSearch.Url.DomainTable

/-!
# Domain names

A domain name is brought into one form, and its labels are written in ASCII: a label with other
characters in Punycode, behind a mark. A name whose labels are not well formed is refused.

Main definition: `domainToAscii?`.
-/

set_option autoImplicit false
set_option relaxedAutoImplicit false

namespace SiteSearch.Url

open Text

/-- Whether a character must not occur in a domain name. -/
def isForbiddenInDomain (c : Char) : Bool :=
  c.toNat ≤ 0x20 || c.toNat = 0x7F || "%#/:<>?@[\\]^|".toList.contains c

/-- What stands before a label in Punycode. -/
def punycodeMark : List Char := "xn--".toList

/-! ### Joiners -/

/-- Whether the last character of a text, given with the last first, is a sign that kills a vowel.
-/
def endsInVirama (before : List Char) : Bool :=
  before.head?.any fun c ↦ combiningClass c.toNat = 9

/-- Whether letters on both sides of a place join across it. -/
def joinsAcross (before after : List Char) : Bool :=
  ((before.dropWhile joinsThrough.contains).head?.any joinsNext.contains)
    && ((after.dropWhile joinsThrough.contains).head?.any joinsPrevious.contains)

/-- Whether the joiners of a label stand where they make a difference; `before` holds the characters
before, the last first. -/
def joinersFit (before : List Char) : List Char → Bool
  | [] => true
  | c :: s =>
    (if c = '\u200d' then endsInVirama before
      else if c = '\u200c' then endsInVirama before || joinsAcross before s
      else true)
      && joinersFit (c :: before) s

/-! ### Directions -/

/-- Whether the last character of a label, marks apart, has one of some directions. -/
def endsIn (directions label : List Direction) : Bool :=
  ((label.reverse.dropWhile (· = .mark)).head?).any directions.contains

/-- Whether a label can be read in one direction only. -/
def isOneWay (label : List Direction) : Bool :=
  match label.head? with
  | none => true
  | some .right =>
    !label.contains .left && endsIn [.right, .digit, .arabicDigit] label
      && !(label.contains .digit && label.contains .arabicDigit)
  | some .left =>
    !label.contains .right && !label.contains .arabicDigit && endsIn [.left, .digit] label
  | some _ => false

/-! ### Labels -/

/-- Whether a label with characters beyond ASCII is well formed. -/
def isLabel (s : List Char) : Bool :=
  s.all isDomainCharacter && !s.head?.any isMark && composed s = s && joinersFit [] s

/-- The characters that a label stands for; none if it is not well formed. -/
def readLabel? (s : List Char) : Option (List Char) :=
  if punycodeMark.isPrefixOf s then
    match Punycode.decode? (s.drop punycodeMark.length) with
    | none => none
    | some label =>
      if label.all (fun c ↦ c.toNat < 0x80) then none
      else if isLabel label then some label
      else none
  else if s.all (fun c ↦ c.toNat < 0x80) || isLabel s then some s
  else none

/-- A label in ASCII. -/
def writeLabel (s : List Char) : List Char :=
  if s.all fun c ↦ c.toNat < 0x80 then s else punycodeMark ++ Punycode.encode s

/-! ### Names -/

/-- The labels of a name that all can be read in one direction if one of them has to be. -/
def directed? (labels : List (List Char)) : Option (List (List Char)) :=
  let directions := labels.map (List.map directionOf)
  if directions.any (fun l ↦ l.contains .right || l.contains .arabicDigit)
      && !directions.all isOneWay then none
  else some labels

/-- The ASCII form of a domain name. -/
def domainToAscii? (s : List Char) : Option (List Char) := do
  let labels ← (splitOn '.' (composed (s.flatMap domainForm))).mapM readLabel?
  let name := ['.'].intercalate ((← directed? labels).map writeLabel)
  if name.any isForbiddenInDomain then none else some name

end SiteSearch.Url
