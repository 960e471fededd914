import SiteSearch.Markdown.Block
import SiteSearch.Markdown.Inline

/-!
# Sorting the lines of a document

A document is read block by block. The front of each line is first matched with the open quotes and
items; the marks of new ones may follow, and what is left of the line starts a block or goes on with
a paragraph. A paragraph goes on over lines that match no longer, unless they start another block.

Main definitions: `containers`, `interrupts`, `readDefinition?`, `Reader.block`, `readDocument`.
-/

set_option autoImplicit false
set_option relaxedAutoImplicit false

namespace SiteSearch.Markdown

open Text

/-! ### Quotes and items -/

/-- Passes the mark of a quote. -/
def Cursor.quoteMark? (c : Cursor) : Option Cursor :=
  match c.rest with
  | '>' :: _ => some ((c.skip 1).blanks 1).2
  | _ => none

/-- Passes what the frames, the outermost first, ask of the front of a line; gives the number of
frames that match. -/
def matchFrames : List Frame → Cursor → Nat × Cursor
  | [], c => (0, c)
  | f :: fs, c =>
    let matched : Option Cursor := match f with
      | .list .. => some c
      | .quote _ => (c.blanks 3).2.quoteMark?
      | .item indent _ =>
        let (n, after) := c.blanks indent
        if n = indent ∨ after.atEnd then some after else none
    match matched with
    | none => (0, c)
    | some c =>
      let (n, c) := matchFrames fs c
      (n + 1, c)

/-- Passes what the open frames ask of the front of a line. -/
def containers (st : Sorting) (s : List Char) : Nat × Cursor :=
  matchFrames st.frames.reverse (.start s)

/-- Whether all open frames match the front of a line, and the place behind it. -/
def continues (st : Sorting) (s : List Char) : Bool × Cursor :=
  let (n, c) := containers st s
  (n = st.frames.length, c)

/-- The mark of an item: the character that tells lists apart, the number, and the columns to the
content. -/
structure Marker where
  mark : Char
  number : Option Nat
  indent : Nat
deriving Repr

/-- The marker after which a place `c` is reached, `width` columns from the front of the line: up to
four blanks belong to it, but five or more start indented code. -/
def finishMarker (mark : Char) (number : Option Nat) (width : Nat) (c : Cursor) :
    Marker × Cursor :=
  if (blankLine? c.rest).isSome then (⟨mark, number, width⟩, c)
  else
    let (n, after) := c.blanks 4
    if n < 4 then (⟨mark, number, width + n⟩, after) else (⟨mark, number, width⟩, c)

/-- Passes the marker of an item that starts after `indent` columns. -/
def Cursor.marker? (indent : Nat) (c : Cursor) : Option (Marker × Cursor) :=
  match c.rest with
  | [] => none
  | x :: _ =>
    if x = '-' ∨ x = '+' ∨ x = '*' then
      if isRule c.rest then none
      else
        let (n, after) := (c.skip 1).blanks 1
        if n = 1 ∨ after.atEnd then some (finishMarker x none (indent + 2) after) else none
    else
      let (digits, tail) := takeDigits Char.isDigit 9 c.rest
      match tail with
      | y :: _ =>
        if digits ≠ [] ∧ (y = '.' ∨ y = ')') then
          let width := digits.length + 1
          let (n, after) := (c.skip width).blanks 1
          if n = 1 ∨ after.atEnd then
            some (finishMarker y (some (decimal digits)) (indent + 1 + width) after)
          else none
        else none
      | [] => none

/-- Passes the box of a task. -/
def Cursor.taskBox? (c : Cursor) : Option (Bool × Cursor) :=
  let inner := (c.blanks 3).2
  match inner.rest with
  | '[' :: x :: ']' :: y :: _ =>
    if isGap y then
      if isGap x then some (false, inner.skip 3)
      else if x = 'x' ∨ x = 'X' then some (true, inner.skip 3)
      else none
    else none
  | _ => none

/-! ### What ends a paragraph -/

/-- The closing text of a piece of HTML that lasts until it occurs. -/
def htmlEnding? (s : List Char) : Option (List Char) :=
  let named (name : String) : Bool :=
    name.toList.isPrefixOf ((s.take name.length).map Char.toLower)
      && match s.drop name.length with
        | [] => true
        | c :: _ => isSpace c || c = '>'
  if named "pre" then some "</pre>".toList
  else if named "style" then some "</style>".toList
  else if named "script" then some "</script>".toList
  else if named "textarea" then some "</textarea>".toList
  else match s with
    | '!' :: '-' :: '-' :: _ => some "-->".toList
    | '?' :: _ => some "?>".toList
    | '!' :: c :: rest =>
      if c = '[' && "CDATA[".toList.isPrefixOf rest then some "]]>".toList
      else if c.isAlpha then some ">".toList
      else none
    | _ => none

/-- The names of the elements that stand as blocks. -/
def blockNames : List String := [
  "address", "article", "aside", "base", "basefont", "blockquote", "body", "caption", "center",
  "col", "colgroup", "dd", "details", "dialog", "dir", "div", "dl", "dt", "fieldset", "figcaption",
  "figure", "footer", "form", "frame", "frameset", "h1", "h2", "h3", "h4", "h5", "h6", "head",
  "header", "hr", "html", "iframe", "legend", "li", "link", "main", "menu", "menuitem", "nav",
  "noframes", "ol", "optgroup", "option", "p", "param", "search", "section", "summary", "table",
  "tbody", "td", "tfoot", "th", "thead", "title", "tr", "track", "ul"]

/-- Whether a tag of a block element starts here, behind the angle bracket. -/
def startsBlockTag (s : List Char) : Bool :=
  let s := match s with
    | '/' :: rest => rest
    | _ => s
  let name := s.takeWhile Char.isAlphanum
  blockNames.contains (.ofList (name.map Char.toLower))
    && match s.drop name.length with
      | [] => true
      | '/' :: '>' :: _ => true
      | c :: _ => isSpace c || c = '>'

/-- Whether a line starts a piece of HTML that can end a paragraph. -/
def startsHtml (s : List Char) : Bool :=
  match s with
  | '<' :: rest => (htmlEnding? rest).isSome || startsBlockTag rest
  | _ => false

/-- Whether a line starts an item that can end a paragraph: outside of the frames and in a table any
item, within a paragraph one that is not empty and, if it has a number, has the number one. -/
def startsItem (matched inTable : Bool) (s : List Char) : Bool :=
  match (Cursor.start s).marker? 0 with
  | none => false
  | some (m, c) =>
    !matched || inTable || (m.number.getD 1 = 1 && (blankLine? c.rest).isNone)

/-- Whether a line ends the paragraph before it. -/
def interrupts (matched inTable : Bool) (s : List Char) : Bool :=
  (endOfLine? s).isSome || isRule s || (headingLevel? s).isSome || (codeFence? s).isSome
    || s.head? = some '>' || startsItem matched inTable s || startsHtml s

/-! ### Tables -/

/-- The cells of a row: the pieces between bars that no backslash stands before, without the white
space around them. A bar at either end of the row is no border between two cells. -/
def splitCells : Nat → List Char → List (List Char)
  | 0, _ => []
  | fuel + 1, s =>
    let s := match s with
      | '|' :: rest => rest
      | _ => s
    match s.dropWhile isGap with
    | [] => []
    | s =>
      let (cell, rest) := cellFrom false s
      trimGap cell :: splitCells fuel rest
where
  /-- The text up to the next bar that `escaped` does not protect, and the rest. -/
  cellFrom (escaped : Bool) : List Char → List Char × List Char
    | [] => ([], [])
    | c :: s =>
      if c = '|' && !escaped then ([], c :: s)
      else
        let (cell, rest) := cellFrom (c = '\\') s
        (c :: cell, rest)

/-- A cell with its protected bars as plain ones. -/
def plainBars : List Char → List Char
  | '\\' :: '|' :: s => '|' :: plainBars s
  | c :: s => c :: plainBars s
  | [] => []

/-- The cells of a row, as many as there are columns. -/
def readRow (columns : Nat) (line : List Char) : List (List Char) :=
  let cells := (splitCells (line.length + 1) line).map plainBars
  (cells ++ List.replicate columns []).take columns

/-- What the marks of a cell below the header say so far: nothing yet, or an alignment. -/
def Alignment.mark (seen : Bool) (a : Alignment) : Alignment :=
  match seen, a with
  | false, .none => .left
  | true, .left => .center
  | true, .none => .right
  | _, _ => a

/-- The alignment that a cell below the header asks for; a cell without a hyphen is none. -/
def readAlignment? (cell : List Char) : Option Alignment :=
  let marks := cell.filter (· ≠ ' ')
  let step (st : Bool × Alignment) (c : Char) : Bool × Alignment :=
    (true, if c = ':' then st.2.mark st.1 else st.2)
  if marks.contains '-' && marks.all (fun c ↦ c = '-' || c = ':') then
    some (marks.foldl step (false, .none)).2
  else none

/-- The pieces of a line between bars. -/
def splitBars : List Char → List (List Char)
  | [] => [[]]
  | c :: s =>
    match splitBars s with
    | [] => [[c]]
    | p :: ps => if c = '|' then [] :: p :: ps else (c :: p) :: ps

/-- The columns that the line below a header lays out. -/
def readColumns? (s : List Char) : Option (List Alignment) :=
  let (n, c) := (Cursor.start s).blanks 4
  let line := (splitLine c.rest).1
  let cells := splitBars (match line with
    | '|' :: rest => rest
    | _ => line)
  let cells := if cells.getLast?.any (fun cell ↦ cell.all (· = ' ')) then cells.dropLast else cells
  if n = 4 ∨ !line.contains '|' ∨ cells = [] then none else cells.mapM readAlignment?

/-- The number of bars that are not escaped, and the text behind the last of them. -/
def countBars : List Char → Nat × List Char
  | [] => (0, [])
  | '\\' :: c :: s => if isAsciiPunctuation c then countBars s else countBars (c :: s)
  | c :: s =>
    let (n, behind) := countBars s
    if c = '|' then (n + 1, if n = 0 then s else behind) else (n, behind)

/-- The number of cells of a header. -/
def countCells (line : List Char) : Nat :=
  let (bars, behind) := countBars line
  let bars := if (line.dropWhile isGap).head? = some '|' then bars - 1 else bars
  if behind.all isGap then bars else bars + 1

/-- The columns of the table whose header is the line that a text starts with, the header, and the
text behind the line that lays the columns out. -/
def readHeader? (st : Sorting) (s : List Char) :
    Option (List Alignment × List Char × List Char) :=
  let (line, next) := splitLine s
  let (matched, c) := continues st next
  if (countBars line).1 = 0 ∨ !matched then none
  else match readColumns? c.rest with
    | none => none
    | some columns =>
      if columns.length = countCells line then some (columns, line, (splitLine c.rest).2) else none

/-- The rows of a table, of which there are at most `fuel`, and the text behind them. -/
def readRows (st : Sorting) (columns : Nat) : Nat → List Char →
    List (List (List Char)) × List Char
  | 0, s => ([], s)
  | fuel + 1, s =>
    let (matched, c) := continues st s
    let c := c.allBlanks
    if !matched || interrupts true true c.rest then ([], s)
    else
      let (line, next) := splitLine c.rest
      let (rows, rest) := readRows st columns fuel next
      (readRow columns line :: rows, rest)

/-! ### Definitions of labels -/

/-- The text behind white space with at most one end of a line, and whether there was one. -/
def skipGap? (st : Sorting) (s : List Char) : Option (List Char × Bool) :=
  match s.dropWhile isGap with
  | [] => some ([], false)
  | c :: s =>
    if isEol c then
      let (matched, next) := continues st ((endOfLine? (c :: s)).getD [])
      let rest := next.rest.dropWhile isGap
      if !matched || rest.head?.any isEol then none else some (rest, true)
    else some (c :: s, false)

/-- What a further line of a definition starts with, unless it starts another block. -/
def definitionLine (st : Sorting) : Continue := fun s ↦
  let (matched, c) := continues st s
  if interrupts matched false c.rest || (matched && (underlineLevel? c.rest).isSome) then none
  else some c.rest

/-- A title of a definition up to its closing mark, still escaped, and what follows. -/
def readRawTitle? (next : Continue) (closing : Char) : Nat → List Char →
    Option (List Char × List Char)
  | 0, _ => none
  | _, [] => none
  | fuel + 1, c :: s =>
    if c = closing then some ([], s)
    else if c = '\n' then
      match next s with
      | none => none
      | some rest =>
        (readRawTitle? next closing fuel rest).map fun (title, rest) ↦ (c :: title, rest)
    else if c = '\\' then
      match s with
      | [] => none
      | d :: rest =>
        (readRawTitle? next closing fuel rest).map fun (title, rest) ↦ (c :: d :: title, rest)
    else (readRawTitle? next closing fuel s).map fun (title, rest) ↦ (c :: title, rest)

/-- A title with nothing behind it on its line, and the text behind that line. -/
def readLastTitle? (st : Sorting) (s : List Char) : Option (List Char × List Char) :=
  match s with
  | [] => none
  | c :: rest =>
    match titleClosing? c with
    | none => none
    | some closing =>
      match readRawTitle? (definitionLine st) closing (s.length + 1) rest with
      | none => none
      | some (title, rest) => (blankLine? rest).map fun rest ↦ (unescape title, rest)

/-- A definition of a label, and the text behind it. The title may stand on a line of its own; what
is no title there does not belong to the definition. -/
def readDefinition? (st : Sorting) (s : List Char) : Option (Definition × List Char) := do
  let '[' :: inside := s | none
  let (label, rest) ← readLabel? (definitionLine st) inside
  let ':' :: rest := rest | none
  let (start, _) ← skipGap? st rest
  let (destination, rest) ← readDestination? 1 start
  if rest.length = start.length then none
  let bare : Definition := { label, destination := unescape destination, title := [] }
  match skipGap? st rest with
  | none => return (bare, (blankLine? rest).getD rest)
  | some (behind, broken) =>
    if behind.length = rest.length ∧ !broken ∧ rest ≠ [] then none
    match readLastTitle? st behind with
    | some (title, rest) => return ({ bare with title }, rest)
    | none =>
      match blankLine? rest with
      | some rest => return (bare, rest)
      | none => none

/-! ### Literal blocks -/

/-- Blanks for columns of a tab that have not been used up. -/
def owedBlanks (n : Nat) : List Char :=
  List.replicate n ' '

/-- The lines behind a code fence of `n` marks that stood `indent` columns in, and the text behind
the closing fence; there are at most `fuel` lines. -/
def readFenced (st : Sorting) (mark : Char) (n indent : Nat) : Nat → List Char →
    List Char × List Char
  | 0, s => ([], s)
  | fuel + 1, s =>
    let (matched, c) := continues st s
    if !matched then ([], s)
    else
      let c := (c.blanks indent).2
      let (k, inner) := c.blanks (4 - indent)
      match if k < 4 - indent then closesFence? mark n inner.rest else none with
      | some rest => ([], rest)
      | none =>
        let (line, next) := splitFeed c.rest
        let (text, rest) := readFenced st mark n indent fuel next
        (owedBlanks c.owed ++ line ++ text, rest)

/-- The lines of indented code from a place behind the indentation on, the text behind them, and
whether the last line passed is blank. Blank lines at the end are passed but do not belong to the
code: `held` are those that may. -/
def readIndented (st : Sorting) : Nat → Cursor → List Char → List Char × List Char × Bool
  | 0, c, _ => ([], c.rest, false)
  | fuel + 1, c, held =>
    let blank := (blankLine? c.rest).isSome
    let (line, next) := splitFeed c.rest
    let line := held ++ owedBlanks c.owed ++ line
    let (matched, after) := continues st next
    let (n, inner) := after.blanks 4
    if !matched || (n < 4 && !inner.atEnd) || inner.rest = [] then
      (if blank then [] else line, next, blank)
    else if blank then readIndented st fuel inner line
    else
      let (text, rest, blank) := readIndented st fuel inner []
      (line ++ text, rest, blank)

/-- Whether a text occurs in another. -/
def occurs (piece s : List Char) : Bool :=
  (behind? piece s).isSome

/-- The lines of a piece of HTML, `owed` blanks before the first, and the text behind it. With an
ending, the line it occurs in is the last; without one, a blank line follows. -/
def readHtml (st : Sorting) (ending : Option (List Char)) : Nat → Nat → List Char →
    List Char × List Char
  | 0, _, s => ([], s)
  | fuel + 1, owed, s =>
    let (line, next) := splitFeed s
    let (matched, c) := continues st next
    let ends := match ending with
      | some piece => occurs piece line
      | none => c.atEnd || (blankLine? c.rest).isSome
    let line := owedBlanks owed ++ line
    if !matched || ends || c.rest = [] then (line, next)
    else
      let (text, rest) := readHtml st ending fuel c.owed c.rest
      (line ++ text, rest)

/-! ### Headings and paragraphs -/

/-- The text of a heading that number signs opened, without those that close it. -/
def headingText (line : List Char) : List Char :=
  let line := dropEndWhile (· = ' ') (line.dropWhile isGap)
  let front := dropEndWhile (· = '#') line
  if front = [] then []
  else if front.getLast? = some ' ' then dropEndWhile (· = ' ') front
  else line

/-- The lines of a paragraph from its start on, the level of the heading they are if they are
underlined, and the text behind them; there are at most `fuel` lines. -/
def readParagraph (st : Sorting) : Nat → List Char → List Char × Option Nat × List Char
  | 0, s => ([], none, s)
  | fuel + 1, s =>
    let line := s.takeWhile (!isEol ·)
    match s.dropWhile (!isEol ·) with
    | [] => (line, none, [])
    | c :: rest =>
      let next := (endOfLine? (c :: rest)).getD []
      let (matched, place) := continues st next
      let (n, inner) := place.blanks 4
      let underlined := if n < 4 && matched then underlineLevel? inner.rest else none
      match underlined with
      | some (level, rest) => (line, some level, rest)
      | none =>
        if n < 4 && (interrupts matched false inner.rest
            || (matched && (readHeader? st inner.rest).isSome)) then (line, none, next)
        else if inner.allBlanks.atEnd then (line, none, next)
        else
          let gap := place.rest.takeWhile fun x ↦ x = ' ' || x = '\t'
          let (text, level, rest) := readParagraph st fuel inner.allBlanks.rest
          (line ++ '\n' :: gap ++ text, level, rest)

/-! ### Blocks -/

/-- A sorting with the definitions found so far. -/
structure Reader where
  sorting : Sorting
  definitions : List Definition

/-- Opens the quotes and items whose marks stand at a place, of which there are at most `fuel`. The
second part is where the line goes on, or the text behind it if the line ends with such a mark. -/
def openFrames : Nat → Sorting → Cursor → Sorting × (Cursor ⊕ List Char)
  | 0, st, c => (st, .inl c)
  | fuel + 1, st, c =>
    let (outer, inner) := c.blanks 4
    if outer = 4 then (st, .inl c)
    else match inner.marker? outer with
      | some (m, after) =>
        let st := (st.continueList m.mark m.number).enter (.item m.indent [])
        match blankLine? after.rest with
        | some rest => ({ st with hollow := true }, .inr rest)
        | none =>
          match after.taskBox? with
          | none => openFrames fuel st after
          | some (checked, behind) =>
            match blankLine? behind.rest with
            | some rest => ({ st.add (.task checked) with hollow := true }, .inr rest)
            | none => openFrames fuel { st with task := some checked } behind
      | none =>
        match inner.quoteMark? with
        | some after => openFrames fuel (st.endList.enter (.quote [])) after
        | none => (st, .inl c)

/-- The block that starts with text other than a paragraph or a definition, behind `indent` columns
of blanks of which `owed` are those of a tab. -/
def readMarked? (st : Sorting) (owed indent : Nat) (s : List Char) :
    Option (Block × List Char) :=
  let size := s.length + 1
  let html (ending : Option (List Char)) : Option (Block × List Char) :=
    let (text, rest) := readHtml st ending size (max owed indent) s
    some (.html text, rest)
  let tag := match s with
    | '<' :: rest => some rest
    | _ => none
  match tag.bind htmlEnding? with
  | some ending => html (some ending)
  | none =>
    if tag.any fun rest ↦ startsBlockTag rest || ((tagEnd? false rest).bind blankLine?).isSome then
      html none
    else if isRule s then some (.rule, (splitLine s).2)
    else match headingLevel? s with
      | some level =>
        let (line, rest) := splitLine (s.drop level)
        some (.heading level none (headingText line), rest)
      | none =>
        match codeFence? s with
        | some (mark, n) =>
          let (info, next) := splitFeed (s.drop n)
          let info := unescape (dropEndWhile isSpace (info.dropWhile isGap))
          let language := info.takeWhile (· ≠ ' ')
          let (text, rest) := readFenced st mark n indent size next
          some (.code language text, rest)
        | none => none

/-- The paragraph, heading or table that a text starts with. -/
def readText (st : Sorting) (s : List Char) : Block × List Char :=
  match readHeader? st s with
  | some (columns, header, next) =>
    let (rows, rest) := readRows st columns.length (next.length + 1) next
    (.table columns (readRow columns.length header) rows, rest)
  | none =>
    let (text, level, rest) := readParagraph st (s.length + 1) s
    match level with
    | some level => (.heading level st.task text, rest)
    | none => (.paragraph st.task text, rest)

/-- Reads the block at the front of a text, or a line that is blank. -/
def Reader.block (r : Reader) (s : List Char) : Reader × List Char :=
  let (n, c) := containers r.sorting s
  let st := r.sorting.closeMany (r.sorting.frames.length - n)
  match openFrames (s.length + 1) st c with
  | (st, .inr rest) => ({ r with sorting := st }, rest)
  | (st, .inl c) =>
    match blankLine? c.rest with
    | some rest => ({ r with sorting := st.noteBlank }, rest)
    | none =>
      let st := st.endList
      let (indent, inner) := c.blanks 4
      if indent = 4 then
        let (text, rest, blank) := readIndented st (s.length + 1) inner []
        ({ r with sorting := { st.add (.code [] text) with blank } }, rest)
      else match readMarked? st c.owed indent inner.rest with
        | some (b, rest) => ({ r with sorting := st.add b }, rest)
        | none =>
          match readDefinition? st inner.rest with
          | some (d, rest) => ({ sorting := st, definitions := r.definitions ++ [d] }, rest)
          | none =>
            let (b, rest) := readText st inner.rest
            ({ r with sorting := { st.add b with task := none } }, rest)

/-- Reads the blocks of a text, of which there are at most `fuel`. -/
def Reader.all : Nat → Reader → List Char → Reader
  | 0, r, _ => r
  | _, r, [] => r
  | fuel + 1, r, s =>
    let (r, rest) := r.block s
    r.all fuel rest

/-- The blocks and the definitions of a document. -/
def readDocument (s : List Char) : List Block × List Definition :=
  let r := Reader.all (s.length + 1) ⟨.initial, []⟩ s
  (r.sorting.blocks, r.definitions)

end SiteSearch.Markdown
