import SiteSearch.Markdown.Emphasis
import SiteSearch.Markdown.Reference
import SiteSearch.Markdown.Tag

/-!
# Text within paragraphs

The text of a paragraph is read from left to right: escapes, character references, code, HTML,
addresses and links are found in passing, emphasis afterwards and within each link on its own. A
closing bracket makes a link of what stands behind the nearest opening one, if a destination or a
known label follows or if that text is a known label; links do not contain links.

Main definitions: `readInline`.
-/

set_option autoImplicit false
set_option relaxedAutoImplicit false

namespace SiteSearch.Markdown

open Text

/-! ### Code -/

/-- The text up to a run of exactly `n` backticks, `run` of which have been passed, and the text
behind that run. -/
def readTicks? (n : Nat) : Nat → List Char → Option (List Char × List Char)
  | run, [] => if run = n then some ([], []) else none
  | run, '\x60' :: s => readTicks? n (run + 1) s
  | run, c :: s =>
    if run = n then some ([], c :: s)
    else (readTicks? n 0 s).map fun (code, rest) ↦ (List.replicate run '\x60' ++ c :: code, rest)

/-- The text with a blank for each end of a line. -/
def joinLines : List Char → List Char
  | [] => []
  | '\r' :: '\n' :: s => ' ' :: joinLines s
  | c :: s => (if isEol c then ' ' else c) :: joinLines s

/-- What a code span shows: one blank at both ends is dropped, unless there are only blanks. -/
def codeText (s : List Char) : List Char :=
  let isEdge (c : Char) : Bool := c = ' ' || isEol c
  if !s.all (· = ' ') && s.head?.any isEdge && s.getLast?.any isEdge then
    joinLines (s.drop 1).dropLast
  else joinLines s

/-! ### Links -/

/-- Inside a paragraph, a label goes on with the next line. -/
def nextLine : Continue := some

/-- A title up to its closing mark, references replaced, and what follows. -/
def readTitle? (opening closing : Char) : Nat → List Char → Option (List Char × List Char)
  | 0, _ => none
  | _, [] => none
  | fuel + 1, c :: s =>
    if c = closing then some ([], s)
    else if c = opening then none
    else if isEol c then
      match endOfLine? (c :: s) with
      | none => none
      | some rest =>
        (readTitle? opening closing fuel (rest.dropWhile fun x ↦ x = ' ' || x = '\t')).map
          fun (title, rest) ↦ ('\n' :: title, rest)
    else if c = '&' then
      match readReference? s with
      | some (cs, rest) =>
        (readTitle? opening closing fuel rest).map fun (title, rest) ↦ (cs ++ title, rest)
      | none => (readTitle? opening closing fuel s).map fun (title, rest) ↦ (c :: title, rest)
    else if c = '\\' then
      match s with
      | [] => none
      | d :: rest =>
        if isAsciiPunctuation d then
          (readTitle? opening closing fuel rest).map fun (title, rest) ↦ (d :: title, rest)
        else (readTitle? opening closing fuel s).map fun (title, rest) ↦ (c :: title, rest)
    else (readTitle? opening closing fuel s).map fun (title, rest) ↦ (c :: title, rest)

/-- The closing mark of a title. -/
def titleClosing? (c : Char) : Option Char :=
  if c = '"' ∨ c = '\x27' then some c else if c = '(' then some ')' else none

/-- The text behind white space with at most one end of a line. -/
def skipSeparator (s : List Char) : List Char :=
  let s := s.dropWhile isGap
  match s with
  | [] => []
  | c :: _ => if isEol c then ((endOfLine? s).getD []).dropWhile isGap else s

/-- The title that a text starts with, or an empty one, and what follows. -/
def readOptionalTitle (s : List Char) : List Char × List Char :=
  match s with
  | [] => ([], [])
  | c :: rest =>
    match titleClosing? c with
    | none => ([], s)
    | some closing =>
      match readTitle? c closing (s.length + 1) rest with
      | none => ([], s)
      | some (title, rest) => (title, skipSeparator rest)

/-- Destination and title in parentheses, from behind the opening one, and what follows. -/
def readTarget? (s : List Char) : Option ((List Char × List Char) × List Char) :=
  match readDestination? 32 (skipSeparator s) with
  | none => none
  | some (destination, rest) =>
    let (title, rest) := readOptionalTitle (skipSeparator rest)
    match rest with
    | ')' :: rest => some ((unescape destination, title), rest)
    | _ => none

/-! ### Reading -/

/-- A bracket that waits to be closed: whether it opens an image, whether it still can open a link,
the text behind it, and what stands before it, the latest first. -/
structure Bracket where
  image : Bool
  active : Bool
  after : List Char
  before : List Piece

/-- What has been read: the open brackets, the innermost first; the pieces behind the innermost, the
latest first; and the length of the text behind a bracket that closes a label already found
unknown. -/
structure Reading where
  brackets : List Bracket
  pieces : List Piece
  tried : Option Nat

namespace Reading

/-- One more piece. -/
def add (r : Reading) (p : Piece) : Reading :=
  { r with pieces := p :: r.pieces }

/-- More text. -/
def addText (r : Reading) (s : List Char) : Reading :=
  r.add (.node (.text s))

/-- An opening bracket with `after` behind it. -/
def openBracket (r : Reading) (image : Bool) (after : List Char) : Reading :=
  { r with brackets := ⟨image, true, after, r.pieces⟩ :: r.brackets, pieces := [] }

/-- An opening bracket as text. -/
def bracketText (image : Bool) : List Char :=
  if image then ['!', '['] else ['[']

/-- The reading with its innermost bracket as text. -/
def dropBracket (r : Reading) : Reading :=
  match r.brackets with
  | [] => r
  | b :: brackets =>
    { r with brackets,
             pieces := r.pieces ++ .node (.text (bracketText b.image)) :: b.before }

/-- The reading without its `n` innermost brackets. -/
def dropBrackets (r : Reading) : Nat → Reading
  | 0 => r
  | n + 1 => r.dropBracket.dropBrackets n

/-- The reading with a link or an image in place of its innermost bracket and what follows it. -/
def makeLink (r : Reading) (destination title : List Char) : Reading :=
  match r.brackets with
  | [] => r
  | b :: brackets =>
    let content := pairMarks r.pieces.reverse
    let node := if b.image then .image destination title content
      else .link destination title content
    let brackets := if b.image then brackets
      else brackets.map fun b ↦ if b.image then b else { b with active := false }
    { r with brackets, pieces := .node node :: b.before }

/-- The label that a closing bracket followed by `rest` stands for by itself. -/
def ownLabel? (b : Bracket) (rest : List Char) : Option (List Char) :=
  match readLabel? nextLine b.after with
  | some (label, behind) => if behind.length = rest.length then some label else none
  | none => none

/-- The definition that a closing bracket refers to, and what follows the reference; where a label
follows that is not known, the length of the text behind it. -/
def referTo (defs : List Definition) (r : Reading) (b : Bracket) (rest : List Char) :
    Option (Definition × List Char) × Option Nat :=
  let own : Option Definition :=
    if r.tried = some rest.length then none else (ownLabel? b rest).bind (lookup? defs)
  match rest with
  | '[' :: ']' :: behind => (own.map fun d ↦ (d, behind), r.tried)
  | '[' :: label =>
    match readLabel? nextLine label with
    | some (label, behind) =>
      match lookup? defs label with
      | some d => (some (d, behind), r.tried)
      | none => (none, some behind.length)
    | none => (own.map fun d ↦ (d, rest), r.tried)
  | _ => (own.map fun d ↦ (d, rest), r.tried)

/-- The reading behind a closing bracket, and the text to go on with. -/
def closeBracket (defs : List Definition) (r : Reading) (rest : List Char) :
    Reading × List Char :=
  match r.brackets with
  | [] => (r.addText [']'], rest)
  | b :: _ =>
    let failed : Reading × List Char := (r.dropBracket.addText [']'], rest)
    if !b.active then failed
    else
      let target := match rest with
        | '(' :: inside => readTarget? inside
        | _ => none
      match target with
      | some ((destination, title), behind) => (r.makeLink destination title, behind)
      | none =>
        match r.referTo defs b rest with
        | (some (d, behind), _) => (r.makeLink d.destination d.title, behind)
        | (none, tried) => ({ r with tried }.dropBracket.addText [']'], rest)

end Reading

/-- The text without the blanks at its front. -/
def skipBlanks (s : List Char) : List Char :=
  s.dropWhile fun c ↦ c = ' ' || c = '\t'

/-- Reads text behind the character `before`. -/
def readFrom (defs : List Definition) : Nat → Char → List Char → Reading → Reading
  | 0, _, _, r => r
  | _, _, [], r => r
  | fuel + 1, before, c :: s, r =>
    let again (last : Char) (rest : List Char) (r : Reading) : Reading :=
      readFrom defs fuel last rest r
    if isGap c then
      let gap := (c :: s).takeWhile isGap
      match (c :: s).dropWhile isGap with
      | [] => r
      | d :: rest =>
        if isEol d then
          let broken := .node (if 2 ≤ gap.length then .hardBreak else .softBreak)
          again '\n' (skipBlanks ((endOfLine? (d :: rest)).getD [])) (r.add broken)
        else again ' ' (d :: rest) (r.addText gap)
    else if isEol c then
      again '\n' (skipBlanks ((endOfLine? (c :: s)).getD [])) (r.add (.node .softBreak))
    else if c = '\\' then
      match s with
      | [] => r.addText ['\\']
      | d :: rest =>
        if isEol d then
          again '\n' (skipBlanks ((endOfLine? s).getD [])) (r.add (.node .hardBreak))
        else if d = '\x60' then
          let n := countFront '\x60' rest
          let r := r.addText ['\x60']
          let behind := rest.drop n
          if n = 0 then again d rest r
          else match readTicks? n 0 behind with
            | some (code, rest) => again '\x60' rest (r.add (.node (.code (codeText code))))
            | none => again '\x60' behind (r.addText (List.replicate n '\x60'))
        else if isAsciiPunctuation d then again d rest (r.addText [d])
        else again c s (r.addText ['\\'])
    else if c = '\x60' then
      let n := countFront '\x60' (c :: s)
      let behind := (c :: s).drop n
      match readTicks? n 0 behind with
      | some (code, rest) => again '\x60' rest (r.add (.node (.code (codeText code))))
      | none => again '\x60' behind (r.addText (List.replicate n '\x60'))
    else if c = '&' then
      match readReference? s with
      | some (cs, rest) => again ';' rest (r.addText cs)
      | none => again c s (r.addText ['&'])
    else if c = '<' then
      match readAddress? s with
      | some (shown, destination, rest) =>
        again '>' rest (r.add (.node (.link destination [] [.text shown])))
      | none =>
        match markupEnd? s with
        | some rest => again '>' rest (r.addText ('<' :: s.take (s.length - rest.length)))
        | none => again c s (r.addText ['<'])
    else if c = '*' ∨ c = '_' ∨ c = '~' then
      let n := countFront c (c :: s)
      let behind := (c :: s).drop n
      again c behind (r.add (readMarks c n before behind.head?))
    else if c = '!' then
      match s with
      | '[' :: rest => again '[' rest (r.openBracket true rest)
      | _ => again c s (r.addText ['!'])
    else if c = '[' then again c s (r.openBracket false s)
    else if c = ']' then
      let (r, rest) := r.closeBracket defs s
      again (if rest.length = s.length then c else ')') rest r
    else again c s (r.addText [c])

/-- The content of a text, given the definitions of labels. -/
def readInline (defs : List Definition) (s : List Char) : List Inline :=
  let r := readFrom defs (s.length + 1) '\n' s ⟨[], [], none⟩
  pairMarks (r.dropBrackets r.brackets.length).pieces.reverse

end SiteSearch.Markdown
