import SiteSearch.Text.Blank
import SiteSearch.Text.Utf8
import SiteSearch.Text.WordChar

/-!
# Files of variables

A file gives variables line by line, as a name, an equals sign and a value. Quotes and backslashes
in a value have a meaning, and a dollar sign stands before the name of a variable whose value is to
be inserted. A quoted value may go on over several lines. Reading ends at the first line that is
malformed, and a variable that is set already keeps its value.

Main definitions: `lines`, `readLine?`, `load`.
-/

set_option autoImplicit false
set_option relaxedAutoImplicit false

namespace SiteSearch.EnvironmentFile

open Text

/-! ### Lines -/

/-- Where one is in a line, as far as its end is concerned. -/
inductive Place where
  | plain
  /-- Behind white space, where a comment may begin. -/
  | blank
  | escaped
  | weak
  | weakEscaped
  | strong
  | strongEscaped
deriving DecidableEq, Repr

/-- The place behind a character outside of quotes. -/
def Place.outside (c : Char) : Place :=
  if c = '\\' then .escaped
  else if c = '"' then .weak
  else if c = '\x27' then .strong
  else .plain

/-- The place behind a character. -/
def Place.next (p : Place) (c : Char) : Place :=
  match p with
  | .plain => if isBlank c && c ≠ '\n' && c ≠ '\r' then .blank else .outside c
  | .blank => .outside c
  | .escaped => .plain
  | .weak => if c = '\\' then .weakEscaped else if c = '"' then .plain else .weak
  | .weakEscaped => .weak
  | .strong => if c = '\\' then .strongEscaped else if c = '\x27' then .plain else .strong
  | .strongEscaped => .strong

/-- The place behind a line, or the part of the line before its comment. -/
def scan : Place → List Char → Except (List Char) Place
  | p, [] => .ok p
  | p, c :: s =>
    if p = .blank ∧ c = '#' then .error []
    else match scan (p.next c) s with
      | .ok p => .ok p
      | .error front => .error (c :: front)

/-- A line without the characters that end it. -/
def withoutEnd (s : List Char) : List Char :=
  match s.reverse with
  | '\n' :: '\r' :: r => r.reverse
  | '\n' :: r => r.reverse
  | _ => s

/-- The lines of a file, given by its rows, where a line of several rows is put together; `read` is
what was read of a line under way, and `p` the place behind it. A file that ends within a line, or a
row that is no text, gives nothing as its last line. -/
def lines (read : List Char) (p : Place) : List (Option (List Char)) → List (Option (List Char))
  | [] => if p = .plain then [] else [none]
  | none :: _ => [none]
  | some row :: rows =>
    let line := read ++ row
    if (trimFront line).head? = some '#' then some [] :: lines [] .plain rows
    else match scan p row with
      | .error front => some (read ++ front) :: lines [] .plain rows
      | .ok .plain => some (withoutEnd line) :: lines [] .plain rows
      | .ok p => lines line p rows

/-! ### Values -/

/-- What the next character of a value is read as. -/
inductive Reading where
  | text
  /-- After a blank nothing but blanks and a comment may follow. -/
  | ending
  | escaped
  | strong
  /-- The name of a variable, the latest character first. -/
  | name (reversed : List Char)
  /-- The name of a variable in braces. -/
  | braced (reversed : List Char)
  /-- A comment, up to the end of the line. -/
  | comment
deriving DecidableEq, Repr

/-- A value of which a part is read. -/
structure Progress where
  /-- What was read, the latest character first. -/
  written : List Char
  weak : Bool
  reading : Reading

/-- The progress with a text added to what was read. -/
def Progress.write (p : Progress) (s : List Char) : Progress :=
  { p with written := s.reverse ++ p.written }

/-- The progress with the value of the variable of a name. -/
def Progress.insert (value : String → String) (p : Progress) (reversed : List Char) : Progress :=
  p.write (value (.ofList reversed.reverse)).toList

/-- The progress behind a character outside of names, escapes and single quotes. -/
def Progress.nextText (p : Progress) (c : Char) : Progress :=
  if c = '$' then { p with reading := .name [] }
  else if c = '\\' then { p with reading := .escaped }
  else if c = '"' then { p with weak := !p.weak }
  else if p.weak then p.write [c]
  else if c = '\x27' then { p with reading := .strong }
  else if c = ' ' ∨ c = '\t' then { p with reading := .ending }
  else p.write [c]

/-- The progress behind a character that may belong to a name without braces. -/
def Progress.nextName (value : String → String) (p : Progress) (name : List Char) (c : Char) :
    Progress :=
  if isWordChar c && c ≠ '_' then { p with reading := .name (c :: name) }
  else if c = '\x7b' ∧ name = [] then { p with reading := .braced [] }
  else
    let p := p.insert value name
    if c = '$' then { p with reading := .name [] }
    else { p.write [c] with reading := .text }

/-- The progress behind a character, if it may stand there. -/
def Progress.next? (value : String → String) (p : Progress) (c : Char) : Option Progress :=
  match p.reading with
  | .text => some (p.nextText c)
  | .ending =>
    if c = ' ' ∨ c = '\t' then some p
    else if c = '#' then some { p with reading := .comment }
    else none
  | .escaped =>
    if ['\\', '\x27', '"', '$', ' '].contains c then some { p.write [c] with reading := .text }
    else if c = 'n' then some { p.write ['\n'] with reading := .text }
    else none
  | .strong => some (if c = '\x27' then { p with reading := .text } else p.write [c])
  | .name name => some (p.nextName value name c)
  | .braced name =>
    some (if c = '\x7d' then { p.insert value name with reading := .text }
      else { p with reading := .braced (c :: name) })
  | .comment => some p

/-- The value at the end of a line, unless quotes or braces are open. -/
def Progress.finish? (value : String → String) (p : Progress) : Option String :=
  if p.weak then none
  else match p.reading with
    | .strong | .braced _ => none
    | .name name => some (.ofList (p.insert value name).written.reverse)
    | _ => some (.ofList p.written.reverse)

/-- The value that a text stands for; `value` gives those of variables. -/
def readValue? (value : String → String) (s : List Char) : Option String :=
  (s.foldl (fun (p : Option Progress) c ↦ p.bind (·.next? value c)) (some ⟨[], false, .text⟩)).bind
    (·.finish? value)

/-! ### Variables -/

/-- The characters of names. -/
def isNameChar (c : Char) : Bool :=
  c.isAlphanum || c = '_' || c = '.'

/-- A name and what follows it. -/
def readName? (s : List Char) : Option (List Char × List Char) :=
  if s.head?.any fun c ↦ c.isAlpha || c = '_' then
    some (s.takeWhile isNameChar, trimFront (s.dropWhile isNameChar))
  else none

/-- The name that a line gives a value to, and what follows the equals sign. The word `export` may
precede the name. -/
def readTarget? (s : List Char) : Option (List Char × List Char) := do
  let (name, rest) ← readName? s
  match rest with
  | '=' :: rest => return (name, trimFront rest)
  | _ =>
    if name = "export".toList then
      match ← readName? rest with
      | (name, '=' :: rest) => return (name, trimFront rest)
      | _ => none
    else none

/-- What a line amounts to: nothing, or a name and its value; it may also be malformed. -/
def readLine? (value : String → String) (line : List Char) : Option (Option (String × String)) :=
  match trim line with
  | [] | '#' :: _ => some none
  | s => do
    let (name, rest) ← readTarget? s
    match rest with
    | [] | '#' :: _ => return some (.ofList name, "")
    | rest => return some (.ofList name, ← readValue? value rest)

/-- The variables that a file has given so far: those that have become set by it, and the values
given last. -/
structure Given where
  loaded : List (String × String)
  latest : List (String × String)

/-- The value of a name among pairs. -/
def valueIn? (pairs : List (String × String)) (name : String) : Option String :=
  (pairs.find? fun p ↦ p.1 = name).map Prod.snd

/-- The value of a variable that a line may insert. -/
def Given.value (g : Given) (known : String → Option String) (name : String) : String :=
  (((known name).or (valueIn? g.loaded name)).or (valueIn? g.latest name)).getD ""

/-- What is given after one more variable. -/
def Given.add (g : Given) (known : String → Option String) (name value : String) : Given :=
  { loaded := if ((known name).or (valueIn? g.loaded name)).isSome then g.loaded
      else (name, value) :: g.loaded
    latest := (name, value) :: g.latest }

/-- What lines give, up to the first that is malformed. -/
def readLines (known : String → Option String) (g : Given) : List (Option (List Char)) → Given
  | [] => g
  | none :: _ => g
  | some line :: rest =>
    match readLine? (g.value known) line with
    | none => g
    | some none => readLines known g rest
    | some (some (name, value)) => readLines known (g.add known name value) rest

/-- The rows of a file with the line feeds that end them. -/
def rows : List UInt8 → List (List UInt8)
  | [] => []
  | b :: s =>
    if b = 0x0A then [b] :: rows s
    else match rows s with
      | [] => [[b]]
      | r :: rs => (b :: r) :: rs

/-- The file without the byte order mark at its front. -/
def withoutMark : List UInt8 → List UInt8
  | 0xEF :: 0xBB :: 0xBF :: s => s
  | s => s

/-- The variables that are set once a file is loaded. -/
def load (known : String → Option String) (bytes : List UInt8) : String → Option String :=
  let read := (rows (withoutMark bytes)).map Utf8.decode?
  let given := readLines known ⟨[], []⟩ (lines [] .plain read)
  fun name ↦ (known name).or (valueIn? given.loaded name)

end SiteSearch.EnvironmentFile
