import SiteSearch.Toml.Scalar

/-!
# Reading TOML

A document is read line by line: a header opens a table, and every other line gives a value to a
key of the table that is open. Values may span lines within brackets, braces and triple quotes.

Main definitions: `readValue?`, `read?`.
-/

set_option autoImplicit false
set_option relaxedAutoImplicit false

namespace SiteSearch.Toml

/-- How deep arrays and tables in braces may nest. -/
def maxDepth : Nat := 80

/-! ### Blanks, comments and ends of lines -/

/-- The text without the blanks at its front. -/
def skip (s : List Char) : List Char :=
  s.dropWhile isGap

/-- The text from the end of the line on, if a comment may stand before it. -/
def skipComment? (s : List Char) : Option (List Char) :=
  if (s.takeWhile (· ≠ '\n')).any isControl then none else some (s.dropWhile (· ≠ '\n'))

/-- The text behind the end of the line, before which only blanks and a comment may stand. -/
def endLine? (s : List Char) : Option (List Char) :=
  match skip s with
  | [] => some []
  | '\n' :: s => some s
  | '#' :: s => (skipComment? s).map (·.drop 1)
  | _ => none

/-- The text behind blanks, comments and ends of at most `fuel` lines. -/
def skipLines? : Nat → List Char → Option (List Char)
  | 0, _ => none
  | fuel + 1, s =>
    match skip s with
    | '\n' :: s => skipLines? fuel s
    | '#' :: s => (skipComment? s).bind (skipLines? fuel)
    | s => some s

/-- The text behind blanks, comments and ends of lines. -/
def skipAll? (s : List Char) : Option (List Char) :=
  skipLines? (s.length + 1) s

/-! ### Keys -/

/-- The characters of keys without quotes. -/
def isKeyChar (c : Char) : Bool :=
  c.isAlphanum || c = '_' || c = '-'

/-- One part of a key, and what follows it. -/
def readPart? (s : List Char) : Option (String × List Char) :=
  match s with
  | [] => none
  | c :: rest =>
    if c = '"' ∨ c = '\x27' then
      (readString? c (rest.length + 1) rest).map fun (text, rest) ↦ (.ofList text, rest)
    else
      let name := s.takeWhile isKeyChar
      if name = [] then none else some (.ofList name, s.dropWhile isKeyChar)

/-- A dotted key of at most `fuel` parts: all parts but the last, the last, and what follows. -/
def readKey? : Nat → List Char → Option (List String × String × List Char)
  | 0, _ => none
  | fuel + 1, s => do
    let (part, rest) ← readPart? (skip s)
    match skip rest with
    | '.' :: rest =>
      let (path, last, rest) ← readKey? fuel rest
      return (part :: path, last, rest)
    | rest => return ([], part, rest)

/-! ### Values -/

/-- The characters of words. -/
def isWordChar (c : Char) : Bool :=
  c.isAlphanum || ['_', '-', '+', '.', ':'].contains c

/-- A word and what follows it. A date takes in a time behind one blank. -/
def readWord (s : List Char) : List Char × List Char :=
  let word := s.takeWhile isWordChar
  match behindDate? word, s.dropWhile isWordChar with
  | some [], ' ' :: c :: rest =>
    if c.isDigit then
      (word ++ ' ' :: (c :: rest).takeWhile isWordChar, (c :: rest).dropWhile isWordChar)
    else (word, ' ' :: c :: rest)
  | _, rest => (word, rest)

mutual

/-- A value whose parts nest no deeper than `depth`, and what follows it. -/
def readValue? (fuel depth : Nat) (s : List Char) : Option (Value × List Char) :=
  match fuel with
  | 0 => none
  | fuel + 1 =>
    match s with
    | '"' :: '"' :: '"' :: s =>
      (readTriple? '"' s).map fun (text, rest) ↦ (.text (.ofList text), rest)
    | '\x27' :: '\x27' :: '\x27' :: s =>
      (readTriple? '\x27' s).map fun (text, rest) ↦ (.text (.ofList text), rest)
    | '"' :: s =>
      (readString? '"' (s.length + 1) s).map fun (text, rest) ↦ (.text (.ofList text), rest)
    | '\x27' :: s =>
      (readString? '\x27' (s.length + 1) s).map fun (text, rest) ↦ (.text (.ofList text), rest)
    | '[' :: s =>
      if depth = 0 then none
      else (readItems? fuel (depth - 1) s).map fun (items, rest) ↦ (.array items, rest)
    | '{' :: s =>
      if depth = 0 then none
      else (readMembers? fuel (depth - 1) ⟨.braces, []⟩ s).map fun (t, rest) ↦ (t.toValue, rest)
    | s =>
      let (word, rest) := readWord s
      (scalar? word).map fun v ↦ (v, rest)

/-- The items of an array with its closing bracket, and what follows. -/
def readItems? (fuel depth : Nat) (s : List Char) : Option (List Value × List Char) :=
  match fuel with
  | 0 => none
  | fuel + 1 => do
    match ← skipAll? s with
    | ']' :: rest => return ([], rest)
    | s =>
      let (item, rest) ← readValue? fuel depth s
      match ← skipAll? rest with
      | ']' :: rest => return ([item], rest)
      | ',' :: rest =>
        let (items, rest) ← readItems? fuel depth rest
        return (item :: items, rest)
      | _ => none

/-- The members of a table in braces with its closing brace, added to those read so far, and what
follows. -/
def readMembers? (fuel depth : Nat) (t : Table) (s : List Char) : Option (Table × List Char) :=
  match fuel with
  | 0 => none
  | fuel + 1 => do
    match ← skipAll? s with
    | '}' :: rest => return (t, rest)
    | s =>
      let (path, key, rest) ← readKey? (s.length + 1) s
      match rest with
      | '=' :: rest =>
        let (v, rest) ← readValue? fuel depth (skip rest)
        let t ← t.add? path key v
        match ← skipAll? rest with
        | '}' :: rest => return (t, rest)
        | ',' :: rest => readMembers? fuel depth t rest
        | _ => none
      | _ => none

end

/-! ### Documents -/

/-- What a document says so far, and the path of the table that is open. -/
structure Progress where
  root : Table
  opened : List String

/-- A line that gives a value to a key, and the text behind it. -/
def readMember? (p : Progress) (s : List Char) : Option (Progress × List Char) := do
  let (path, key, rest) ← readKey? (s.length + 1) s
  match rest with
  | '=' :: rest =>
    let (v, rest) ← readValue? (rest.length + 1) maxDepth (skip rest)
    let root ← p.root.update? false (·.add? path key v) p.opened
    return ({ p with root }, ← endLine? rest)
  | _ => none

/-- A header from behind its opening brackets, and the text behind its line. -/
def readHeader? (p : Progress) (double : Bool) (s : List Char) :
    Option (Progress × List Char) := do
  let (path, key, rest) ← readKey? (s.length + 1) s
  match double, rest with
  | true, ']' :: ']' :: rest =>
    return (⟨← p.root.openItem? path key, path ++ [key]⟩, ← endLine? rest)
  | false, ']' :: rest =>
    return (⟨← p.root.openTable? path key, path ++ [key]⟩, ← endLine? rest)
  | _, _ => none

/-- A document of at most `fuel` lines. -/
def readDocument? : Nat → Progress → List Char → Option Table
  | 0, _, _ => none
  | fuel + 1, p, s => do
    match ← skipAll? s with
    | [] => return p.root
    | '[' :: '[' :: s =>
      let (p, rest) ← readHeader? p true s
      readDocument? fuel p rest
    | '[' :: s =>
      let (p, rest) ← readHeader? p false s
      readDocument? fuel p rest
    | s =>
      let (p, rest) ← readMember? p s
      readDocument? fuel p rest

/-- The text with each carriage return before a line feed left out. -/
def normalLines : List Char → List Char
  | [] => []
  | '\r' :: '\n' :: s => '\n' :: normalLines s
  | c :: s => c :: normalLines s

/-- The table that a document is written for. A byte order mark may stand at its front. -/
def read? (text : String) : Option Table :=
  let s := normalLines (match text.toList with
    | '\uFEFF' :: s => s
    | s => s)
  readDocument? (s.length + 1) ⟨⟨.header, []⟩, []⟩ s

end SiteSearch.Toml
