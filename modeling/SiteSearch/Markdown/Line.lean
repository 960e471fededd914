import SiteSearch.Text.Punctuation

/-!
# Lines of Markdown

A line is read from its front: blanks are counted in columns, a tab reaching to the next multiple of
four, and a tab may be used up in part. The tests for what a line starts with, such as a heading, a
rule or a code fence, are functions of the text from that point on.

Main definitions: `Cursor`, `Cursor.blanks`, `endOfLine?`, `blankLine?`, `isRule`, `headingLevel?`,
`underlineLevel?`, `codeFence?`, `closesFence?`.
-/

set_option autoImplicit false
set_option relaxedAutoImplicit false

namespace SiteSearch.Markdown

/-! ### Ends of lines -/

/-- White space within a line. -/
def isGap (c : Char) : Bool :=
  c = ' ' || c = '\t' || c = '\x0b' || c = '\x0c'

/-- The characters that end a line. -/
def isEol (c : Char) : Bool :=
  c = '\n' || c = '\r'

/-- White space of any kind that Markdown knows. -/
def isSpace (c : Char) : Bool :=
  isGap c || isEol c

/-- The text behind the end of a line, if the line ends here; the end of the text ends a line. -/
def endOfLine? : List Char → Option (List Char)
  | [] => some []
  | '\n' :: s => some s
  | '\r' :: '\n' :: s => some s
  | '\r' :: s => some s
  | _ => none

/-- The text behind the line, if nothing but white space is left of the line. -/
def blankLine? (s : List Char) : Option (List Char) :=
  endOfLine? (s.dropWhile isGap)

/-- The rest of the line and the text behind its end. -/
def splitLine (s : List Char) : List Char × List Char :=
  (s.takeWhile (!isEol ·), (endOfLine? (s.dropWhile (!isEol ·))).getD [])

/-- The text up to a line feed, without a carriage return before it, and what follows. -/
def splitFeed : List Char → List Char × List Char
  | [] => ([], [])
  | '\n' :: s => (['\n'], s)
  | '\r' :: '\n' :: s => (['\n'], s)
  | c :: s =>
    let (line, rest) := splitFeed s
    (c :: line, rest)

/-- The number of copies of a character at the front of a text. -/
def countFront (c : Char) (s : List Char) : Nat :=
  (s.takeWhile (· = c)).length

/-- The text without the white space at its end. -/
def trimGap (s : List Char) : List Char :=
  (s.reverse.dropWhile isGap).reverse

/-! ### Columns -/

/-- A place in a line: the text from there on, the columns since the last tab, and the columns of
that tab that have not been used up. -/
structure Cursor where
  rest : List Char
  column : Nat
  owed : Nat
deriving Repr

/-- The place at the start of a line. -/
def Cursor.start (s : List Char) : Cursor := ⟨s, 0, 0⟩

/-- Passes up to `n` columns of blanks; gives the number that was missing. -/
def blanksFrom (n column : Nat) : List Char → Nat × Cursor
  | ' ' :: s => if n = 0 then (0, ⟨' ' :: s, column, 0⟩) else blanksFrom (n - 1) (column + 1) s
  | '\t' :: s =>
    if n = 0 then (0, ⟨'\t' :: s, column, 0⟩)
    else
      let width := 4 - column % 4
      if width ≤ n then blanksFrom (n - width) 0 s else (0, ⟨s, 0, width - n⟩)
  | s => (n, ⟨s, column, 0⟩)

/-- Passes up to `n` columns of blanks; gives the number that was passed. -/
def Cursor.blanks (n : Nat) (c : Cursor) : Nat × Cursor :=
  if n ≤ c.owed then (n, { c with owed := c.owed - n })
  else
    let (missing, after) := blanksFrom (n - c.owed) c.column c.rest
    (n - missing, after)

/-- Passes all blanks. -/
def Cursor.allBlanks (c : Cursor) : Cursor :=
  ⟨c.rest.dropWhile fun x ↦ x = ' ' || x = '\t', 0, 0⟩

/-- Passes one character. -/
def Cursor.skip (n : Nat) (c : Cursor) : Cursor :=
  ⟨c.rest.drop n, c.column + n, 0⟩

/-- Whether the line ends here. -/
def Cursor.atEnd (c : Cursor) : Bool :=
  match c.rest with
  | [] => true
  | x :: _ => isEol x

/-! ### What a line starts with -/

/-- Whether the line is a thematic break: three or more of one mark, with blanks between them. -/
def isRule (s : List Char) : Bool :=
  let line := (splitLine s).1
  match line with
  | c :: _ =>
    (c = '*' || c = '-' || c = '_') && line.all (fun x ↦ x = c || x = ' ' || x = '\t')
      && 3 ≤ line.count c
  | [] => false

/-- The level of a heading that number signs open. -/
def headingLevel? (s : List Char) : Option Nat :=
  let level := countFront '#' s
  let ends := match s.drop level with
    | [] => true
    | c :: _ => isSpace c
  if 1 ≤ level && level ≤ 6 && ends then some level else none

/-- The level of the heading that a line underlines, and the text behind that line. -/
def underlineLevel? (s : List Char) : Option (Nat × List Char) :=
  match s with
  | c :: _ =>
    let level := if c = '=' then 1 else 2
    if c = '=' ∨ c = '-' then
      (blankLine? (s.dropWhile (· = c))).map fun rest ↦ (level, rest)
    else none
  | [] => none

/-- The mark and the length of a code fence. A fence of backticks has none behind it. -/
def codeFence? (s : List Char) : Option (Char × Nat) :=
  match s with
  | c :: _ =>
    let n := countFront c s
    if (c = '\x60' ∨ c = '~') ∧ 3 ≤ n then
      if c = '\x60' ∧ (splitFeed (s.drop n)).1.contains '\x60' then none else some (c, n)
    else none
  | [] => none

/-- The text behind a closing fence, up to which only blanks follow. -/
def closesFence? (mark : Char) (n : Nat) (s : List Char) : Option (List Char) :=
  if s = [] then some []
  else
    let found := countFront mark s
    if found < n then none else endOfLine? ((s.drop found).dropWhile (· = ' '))

end SiteSearch.Markdown
