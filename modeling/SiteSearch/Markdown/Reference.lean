import SiteSearch.Markdown.Line
import SiteSearch.Text.Fold

/-!
# Destinations, titles and labels

The parts of links and of the definitions that links refer to. The readers that may cross the end of
a line take a function that says what the next line starts with: it gives the text from which to go
on, or nothing when the paragraph ends there.

Main definitions: `readReference?`, `unescape`, `readDestination?`, `readLabel?`, `Definition`.
-/

set_option autoImplicit false
set_option relaxedAutoImplicit false

namespace SiteSearch.Markdown

open Text

/-! ### Character references and escapes -/

/-- The digits of a number at the front of a text, at most `limit` of them, and what follows. -/
def takeDigits (isDigit : Char → Bool) (limit : Nat) (s : List Char) : List Char × List Char :=
  let digits := (s.take limit).takeWhile isDigit
  (digits, s.drop digits.length)

/-- Whether a character is a hexadecimal digit. -/
def isHex (c : Char) : Bool :=
  c.isDigit || ('a' ≤ c && c ≤ 'f') || ('A' ≤ c && c ≤ 'F')

/-- The number that decimal digits stand for. -/
def decimal (s : List Char) : Nat :=
  s.foldl (fun n c ↦ 10 * n + (c.toNat - '0'.toNat)) 0

/-- The characters that a reference stands for, from behind its ampersand, and what follows it. -/
def readReference? (s : List Char) : Option (List Char × List Char) :=
  match s with
  | '#' :: x :: rest =>
    let (number, tail) :=
      if x = 'x' ∨ x = 'X' then
        let (digits, tail) := takeDigits isHex 6 rest
        (if digits = [] then none else some (hexNumber (digits.map Char.toLower)), tail)
      else
        let (digits, tail) := takeDigits Char.isDigit 7 (x :: rest)
        (if digits = [] then none else some (decimal digits), tail)
    match number, tail with
    | some n, ';' :: tail => some ([charOfNumber n], tail)
    | _, _ => none
  | _ =>
    match s.dropWhile Char.isAlphanum with
    | ';' :: tail => (namedReference? (s.takeWhile Char.isAlphanum)).map fun cs ↦ (cs, tail)
    | _ => none

/-- A text of at most `fuel` characters without its escapes, references replaced. -/
def unescapeFrom : Nat → List Char → List Char
  | 0, _ => []
  | _, [] => []
  | fuel + 1, '\\' :: c :: s =>
    if isAsciiPunctuation c then c :: unescapeFrom fuel s else '\\' :: unescapeFrom fuel (c :: s)
  | fuel + 1, '&' :: s =>
    match readReference? s with
    | some (cs, rest) => cs ++ unescapeFrom fuel rest
    | none => '&' :: unescapeFrom fuel s
  | fuel + 1, '\r' :: s => unescapeFrom fuel s
  | fuel + 1, c :: s => c :: unescapeFrom fuel s

/-- A text without its escapes, references replaced. -/
def unescape (s : List Char) : List Char :=
  unescapeFrom s.length s

/-! ### Destinations -/

/-- A destination behind an angle bracket, still escaped, and what follows its closing bracket. -/
def readPointed? : List Char → Option (List Char × List Char)
  | [] => none
  | '>' :: s => some ([], s)
  | '\\' :: c :: s =>
    if isAsciiPunctuation c then
      (readPointed? s).map fun (dest, rest) ↦ ('\\' :: c :: dest, rest)
    else if c = '>' ∨ c = '<' ∨ isEol c then none
    else (readPointed? s).map fun (dest, rest) ↦ ('\\' :: c :: dest, rest)
  | c :: s =>
    if c = '<' ∨ isEol c then none
    else (readPointed? s).map fun (dest, rest) ↦ (c :: dest, rest)

/-- A destination without brackets inside `nest` open parentheses, of which there may be `depth`
more. -/
def readBare? (depth nest : Nat) : List Char → Option (List Char × List Char)
  | [] => if nest = 0 then some ([], []) else none
  | '\\' :: c :: s =>
    if isAsciiPunctuation c then
      (readBare? depth nest s).map fun (dest, rest) ↦ ('\\' :: c :: dest, rest)
    else if c.toNat ≤ 0x20 then
      if nest = 0 then some (['\\'], c :: s) else none
    else (readBare? depth nest s).map fun (dest, rest) ↦ ('\\' :: c :: dest, rest)
  | '(' :: s =>
    if depth < nest then none
    else (readBare? depth (nest + 1) s).map fun (dest, rest) ↦ ('(' :: dest, rest)
  | ')' :: s =>
    if nest = 0 then some ([], ')' :: s)
    else (readBare? depth (nest - 1) s).map fun (dest, rest) ↦ (')' :: dest, rest)
  | c :: s =>
    if c.toNat ≤ 0x20 then if nest = 0 then some ([], c :: s) else none
    else (readBare? depth nest s).map fun (dest, rest) ↦ (c :: dest, rest)

/-- A destination, still escaped, and what follows it. -/
def readDestination? (depth : Nat) (s : List Char) : Option (List Char × List Char) :=
  match s with
  | '<' :: rest => readPointed? rest
  | _ => readBare? depth 0 s

/-! ### Labels -/

/-- What a new line inside a label or a title starts with: the text to go on from, if the paragraph
does not end there. -/
abbrev Continue := List Char → Option (List Char)

/-- The text behind white space that holds at most one end of a line; `broken` tells whether it has
been passed. -/
def skipSpace? (next : Continue) : Nat → Bool → List Char → Option (List Char)
  | 0, _, s => some s
  | _, _, [] => some []
  | fuel + 1, broken, c :: s =>
    if isEol c then
      if broken then none
      else match (endOfLine? (c :: s)).bind next with
        | none => none
        | some rest => skipSpace? next fuel true rest
    else if isGap c then skipSpace? next fuel broken s
    else some (c :: s)

/-- A label from behind its opening bracket to its closing one: the characters, white space
collapsed, and what follows. `room` bounds the length. -/
def readLabelFrom? (next : Continue) : Nat → Nat → List Char → Option (List Char × List Char)
  | 0, _, _ => none
  | _, _, [] => none
  | fuel + 1, room, c :: s =>
    if room = 0 ∨ c = '[' then none
    else if c = ']' then some ([], s)
    else if c = '\\' then
      match s with
      | [] => none
      | d :: rest =>
        (readLabelFrom? next fuel (room - 2) rest).map fun (label, rest) ↦ (c :: d :: label, rest)
    else if isSpace c then
      match skipSpace? next (s.length + 1) false (c :: s) with
      | none => none
      | some rest =>
        (readLabelFrom? next fuel (room - 1) rest).map fun (label, rest) ↦ (' ' :: label, rest)
    else (readLabelFrom? next fuel (room - 1) s).map fun (label, rest) ↦ (c :: label, rest)

/-- The text without blanks at both ends. -/
def trimBlanks (s : List Char) : List Char :=
  ((s.dropWhile (· = ' ')).reverse.dropWhile (· = ' ')).reverse

/-- A label that is not blank, in the form in which labels are compared, and what follows it. -/
def readLabel? (next : Continue) (s : List Char) : Option (List Char × List Char) :=
  match readLabelFrom? next (s.length + 1) 1000 s with
  | none => none
  | some (label, rest) =>
    if label.all (· = ' ') then none else some (foldCase (trimBlanks label), rest)

/-! ### Definitions -/

/-- What a label stands for. -/
structure Definition where
  label : List Char
  destination : List Char
  title : List Char
deriving Repr

/-- The definition of a label: the first one counts. -/
def lookup? (defs : List Definition) (label : List Char) : Option Definition :=
  defs.find? fun d ↦ d.label = label

end SiteSearch.Markdown
