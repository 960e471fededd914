import SiteSearch.Text.CharacterReference

/-!
# Tokens of HTML

An HTML text is read token by token: tags, characters and document types; comments are passed over.
The content of some elements is read as a whole up to their end tag.

Main definitions: `Token`, `next?`, `rawText`.
-/

set_option autoImplicit false
set_option relaxedAutoImplicit false

namespace SiteSearch.Html

open Text

/-- A token. -/
inductive Token where
  /-- A document type; `old` if it asks for the habits of old readers. -/
  | doctype (old : Bool)
  | opening (name : String) (attributes : List (String × String)) (selfClosing : Bool)
  | closing (name : String)
  | char (c : Char)
  | ending
deriving DecidableEq, Repr

/-- White space of HTML. -/
def isSpace (c : Char) : Bool :=
  c = ' ' || c = '\t' || c = '\n' || c = '\x0c' || c = '\r'

/-- The text with every kind of line end as a line feed. -/
def normalLines : List Char → List Char
  | [] => []
  | '\r' :: '\n' :: s => '\n' :: normalLines s
  | '\r' :: s => '\n' :: normalLines s
  | c :: s => c :: normalLines s

/-- A character with NUL replaced. -/
def visible (c : Char) : Char :=
  if c = '\x00' then '\uFFFD' else c

/-! ### Character references -/

/-- The characters that numbers of control characters are taken to mean. -/
def controlMeaning : List (Nat × Nat) := [
  (0x80, 0x20AC), (0x82, 0x201A), (0x83, 0x0192), (0x84, 0x201E), (0x85, 0x2026), (0x86, 0x2020),
  (0x87, 0x2021), (0x88, 0x02C6), (0x89, 0x2030), (0x8A, 0x0160), (0x8B, 0x2039), (0x8C, 0x0152),
  (0x8E, 0x017D), (0x91, 0x2018), (0x92, 0x2019), (0x93, 0x201C), (0x94, 0x201D), (0x95, 0x2022),
  (0x96, 0x2013), (0x97, 0x2014), (0x98, 0x02DC), (0x99, 0x2122), (0x9A, 0x0161), (0x9B, 0x203A),
  (0x9C, 0x0153), (0x9E, 0x017E), (0x9F, 0x0178)]

/-- The character that a number in a reference means. -/
def numbered (n : Nat) : Char :=
  match controlMeaning.find? fun m ↦ m.1 = n with
  | some m => Char.ofNat m.2
  | none => charOfNumber n

/-- The text without a semicolon at its front. -/
def dropSemicolon : List Char → List Char
  | ';' :: s => s
  | s => s

/-- Whether a character is a hexadecimal digit. -/
def isHex (c : Char) : Bool :=
  c.isDigit || ('a' ≤ c && c ≤ 'f') || ('A' ≤ c && c ≤ 'F')

/-- The character of a reference by number, from behind the number sign, and what follows it. -/
def readNumbered? (s : List Char) : Option (List Char × List Char) :=
  let hex := match s with
    | x :: rest => if x = 'x' ∨ x = 'X' then some rest else none
    | [] => none
  match hex with
  | some rest =>
    let digits := rest.takeWhile isHex
    if digits = [] then none
    else
      some ([numbered (hexNumber (digits.map Char.toLower))], dropSemicolon (rest.dropWhile isHex))
  | none =>
    let digits := s.takeWhile Char.isDigit
    if digits = [] then none
    else
      let n := digits.foldl (fun n c ↦ 10 * n + (c.toNat - '0'.toNat)) 0
      some ([numbered n], dropSemicolon (s.dropWhile Char.isDigit))

/-- The characters of the longest name with at most `n` characters that a text starts with, and what
follows it; `lookup` knows the names, and `isBare` those that need no semicolon. In an attribute, a
name without a semicolon must not be followed by an equals sign or a letter or digit. -/
def readNamed? (lookup : List Char → Option (List Char)) (isBare : List Char → Bool)
    (inAttribute : Bool) (s : List Char) : Nat → Option (List Char × List Char)
  | 0 => none
  | n + 1 =>
    let name := s.take (n + 1)
    let rest := s.drop (n + 1)
    match lookup name with
    | none => readNamed? lookup isBare inAttribute s n
    | some cs =>
      match rest with
      | ';' :: rest => some (cs, rest)
      | _ =>
        if isBare name then
          if inAttribute && rest.head?.any (fun c ↦ c = '=' || c.isAlphanum) then none
          else some (cs, rest)
        else readNamed? lookup isBare inAttribute s n

/-- The characters of a reference, from behind its ampersand, and what follows it. -/
def readReference? (inAttribute : Bool) (s : List Char) : Option (List Char × List Char) :=
  match s with
  | '#' :: rest => readNumbered? rest
  | _ =>
    readNamed? namedReference? isBareName inAttribute s
      (min 32 (s.takeWhile Char.isAlphanum).length)

/-- A text of at most `fuel` characters with its references replaced. -/
def replaceReferences (inAttribute : Bool) : Nat → List Char → List Char
  | 0, _ => []
  | _, [] => []
  | fuel + 1, '&' :: s =>
    match readReference? inAttribute s with
    | some (cs, rest) => cs ++ replaceReferences inAttribute fuel rest
    | none => '&' :: replaceReferences inAttribute fuel s
  | fuel + 1, c :: s => visible c :: replaceReferences inAttribute fuel s

/-! ### Tags -/

/-- The text of an attribute value, references replaced. -/
def attributeText (s : List Char) : String :=
  .ofList (replaceReferences true s.length s)

/-- A name in lower case. -/
def nameText (s : List Char) : String :=
  .ofList (s.map fun c ↦ visible c.toLower)

/-- The value of an attribute, from behind its equals sign, and what follows it; nothing if the text
ends within it. -/
def readValue? (s : List Char) : Option (String × List Char) :=
  match s.dropWhile isSpace with
  | [] => none
  | c :: rest =>
    if c = '"' ∨ c = '\x27' then
      match rest.dropWhile (· ≠ c) with
      | [] => none
      | _ :: behind => some (attributeText (rest.takeWhile (· ≠ c)), behind)
    else if c = '>' then some ("", c :: rest)
    else
      let isPart (c : Char) : Bool := !isSpace c && c ≠ '>'
      some (attributeText ((c :: rest).takeWhile isPart), (c :: rest).dropWhile isPart)

/-- One attribute, and what follows it; nothing if the text ends within it. The first character of a
name may be an equals sign. -/
def readAttribute? (s : List Char) : Option ((String × String) × List Char) :=
  match s with
  | [] => none
  | c :: s =>
    let isPart (c : Char) : Bool := !isSpace c && c ≠ '/' && c ≠ '>' && c ≠ '='
    let name := nameText (c :: s.takeWhile isPart)
    let behind := s.dropWhile isPart
    match behind.dropWhile isSpace with
    | '=' :: rest => (readValue? rest).map fun (value, rest) ↦ ((name, value), rest)
    | _ => some ((name, ""), behind)

/-- The attributes of a tag, of which there are at most `fuel`, whether the tag closes itself, and
what follows it; nothing if the text ends within it. Of attributes with one name the first counts.
-/
def readAttributes? : Nat → List (String × String) → List Char →
    Option (List (String × String) × Bool × List Char)
  | 0, _, _ => none
  | fuel + 1, read, s =>
    match s.dropWhile isSpace with
    | [] => none
    | '>' :: rest => some (read, false, rest)
    | '/' :: '>' :: rest => some (read, true, rest)
    | '/' :: rest => readAttributes? fuel read rest
    | rest =>
      match readAttribute? rest with
      | none => none
      | some (a, rest) =>
        readAttributes? fuel (if read.any (·.1 = a.1) then read else read ++ [a]) rest

/-- The characters of the name of a tag. -/
def isTagName (c : Char) : Bool :=
  !isSpace c && c ≠ '/' && c ≠ '>'

/-- A tag from its name on, and what follows it; the end of the text if that comes first. -/
def readTag (closing : Bool) (s : List Char) : Token × List Char :=
  let name := nameText (s.takeWhile isTagName)
  match readAttributes? (s.length + 1) [] (s.dropWhile isTagName) with
  | none => (.ending, [])
  | some (attributes, selfClosing, rest) =>
    (if closing then .closing name else .opening name attributes selfClosing, rest)

/-! ### Comments and document types -/

/-- The text behind a comment, from behind its opening dashes on. -/
def commentEnd : List Char → List Char
  | [] => []
  | '-' :: '-' :: '>' :: s => s
  | '-' :: '-' :: '!' :: '>' :: s => s
  | _ :: s => commentEnd s

/-- The text behind the first closing angle bracket. -/
def behindBracket (s : List Char) : List Char :=
  (s.dropWhile (· ≠ '>')).drop 1

/-- Whether a text starts with a word in any case. -/
def startsWith (word : String) (s : List Char) : Bool :=
  word.toList.isPrefixOf ((s.take word.length).map Char.toLower)

/-- The characters of a `CDATA` section up to its end, and what follows it. -/
def readSection : List Char → List Char × List Char
  | [] => ([], [])
  | ']' :: ']' :: '>' :: s => ([], s)
  | c :: s =>
    let (text, rest) := readSection s
    (c :: text, rest)

/-- What the public identifiers of old document types say behind their owner, in lower case. -/
def oldTypes : List String := [
  "dtd html 2.0", "dtd html 2.1e//", "dtd html 3 1995-03-24//", "dtd html 3.0//",
  "dtd html 3.2 draft//", "dtd html 3.2 final//", "dtd html 3.2//", "dtd html 3.2s draft//",
  "dtd html 3//", "dtd html 4.0 frameset//", "dtd html 4.0 transitional//",
  "dtd html experimental 19960712//", "dtd html experimental 970421//", "dtd html extended",
  "dtd html level ", "dtd html strict", "dtd html//", "dtd strict html//", "dtd w3 html//",
  "dtd w3 html 3.0//", "dtd w3 html strict 3.0//en//"]

/-- What they say where a system identifier would make the type a recent one. -/
def oldWithoutSystem : List String :=
  ["dtd html 4.01 frameset//", "dtd html 4.01 transitional//"]

/-- What a public identifier says behind its owner. -/
def behindOwner (s : List Char) : List Char :=
  ((s.drop 3).dropWhile (· ≠ '/')).drop 2

/-- A quoted identifier in lower case, and what follows it; if it is not closed, the type is broken.
-/
def readIdentifier? (s : List Char) : Option (List Char × List Char) :=
  match s.dropWhile isSpace with
  | [] => none
  | c :: s =>
    if c = '"' ∨ c = '\x27' then
      match s.dropWhile (· ≠ c) with
      | [] => none
      | _ :: rest => some ((s.takeWhile (· ≠ c)).map Char.toLower, rest)
    else none

/-- Whether a public identifier, to which there may be a system identifier, is that of an old
document type. -/
def isOldPublic (hasSystem : Bool) (s : List Char) : Bool :=
  s = "html".toList || ("-//".toList.isPrefixOf s
    && (oldTypes ++ if hasSystem then [] else oldWithoutSystem).any
      fun t ↦ t.toList.isPrefixOf (behindOwner s))

/-- Whether what stands in a document type asks for old habits. -/
def isOldType (s : List Char) : Bool :=
  let s := s.dropWhile isSpace
  let name := (s.takeWhile (!isSpace ·)).map Char.toLower
  let rest := (s.dropWhile (!isSpace ·)).dropWhile isSpace
  if name ≠ "html".toList then true
  else if rest = [] then false
  else if startsWith "public" rest then
    match readIdentifier? (rest.drop 6) with
    | none => true
    | some (publicId, rest) =>
      if rest.dropWhile isSpace = [] then isOldPublic false publicId
      else (readIdentifier? rest).isNone || isOldPublic true publicId
  else if startsWith "system" rest then (readIdentifier? (rest.drop 6)).isNone
  else true

/-- What a piece of markup amounts to. -/
inductive Markup where
  | token (t : Token)
  | nothing
  | chars (s : List Char)
deriving Repr

/-- Markup behind `<!`, and what follows it. Sections exist only within foreign elements. -/
def readDeclaration (foreign : Bool) (s : List Char) : Markup × List Char :=
  match s with
  | '-' :: '-' :: rest =>
    match rest with
    | '>' :: rest => (.nothing, rest)
    | '-' :: '>' :: rest => (.nothing, rest)
    | _ => (.nothing, commentEnd rest)
  | _ =>
    if startsWith "doctype" s then
      let rest := s.drop 7
      (.token (.doctype (isOldType (rest.takeWhile (· ≠ '>')))), behindBracket rest)
    else if foreign && "[CDATA[".toList.isPrefixOf s then
      let (text, rest) := readSection (s.drop 7)
      (.chars text, rest)
    else (.nothing, behindBracket s)

/-- The next piece of a text, and what follows it. -/
def next? (foreign : Bool) (s : List Char) : Option (Markup × List Char) :=
  match s with
  | [] => none
  | '<' :: '/' :: '>' :: rest => some (.nothing, rest)
  | '<' :: '/' :: c :: rest =>
    some (if c.isAlpha then
        let (t, rest) := readTag true (c :: rest)
        (.token t, rest)
      else (.nothing, behindBracket (c :: rest)))
  | '<' :: '!' :: rest => some (readDeclaration foreign rest)
  | '<' :: '?' :: rest => some (.nothing, behindBracket rest)
  | '<' :: c :: rest =>
    some (if c.isAlpha then
        let (t, rest) := readTag false (c :: rest)
        (.token t, rest)
      else (.chars ['<'], c :: rest))
  | '&' :: rest =>
    match readReference? false rest with
    | some (cs, rest) => some (.chars cs, rest)
    | none => some (.chars ['&'], rest)
  | c :: rest => some (.chars [c], rest)

/-! ### Raw text -/

/-- How the content of an element is read as a whole. -/
inductive Raw where
  /-- Up to the end tag. -/
  | plain
  /-- Up to the end tag, references replaced. -/
  | withReferences
  /-- Up to the end tag, which a comment with a script may hide. -/
  | script
  /-- Up to the end of the text. -/
  | everything
deriving DecidableEq, Repr

/-- Whether the end tag of an element starts here. -/
def startsEndTag (name : String) (s : List Char) : Bool :=
  match s with
  | '<' :: '/' :: rest =>
    startsWith name rest &&
      (rest.drop name.length).head?.any fun c ↦ isSpace c || c = '/' || c = '>'
  | _ => false

/-- Whether the opening tag of a script starts here. -/
def startsScript (s : List Char) : Bool :=
  match s with
  | '<' :: rest =>
    startsWith "script" rest && (rest.drop 6).head?.any fun c ↦ isSpace c || c = '/' || c = '>'
  | _ => false

/-- The text before the end tag of an element, and the text from that tag on. -/
def beforeEndTag (name : String) : List Char → List Char × List Char
  | [] => ([], [])
  | c :: s =>
    if startsEndTag name (c :: s) then ([], c :: s)
    else
      let (text, rest) := beforeEndTag name s
      (c :: text, rest)

/-- Where in a script one is: outside of comments, in a comment, or in a script in a comment. -/
inductive ScriptPlace where
  | outside
  | comment
  | hidden
deriving DecidableEq, Repr

/-- The text of a script before its end tag, and the text from that tag on. -/
def beforeScriptEnd : ScriptPlace → List Char → List Char × List Char
  | _, [] => ([], [])
  | place, c :: s =>
    let here := c :: s
    if place ≠ .hidden ∧ startsEndTag "script" here then ([], here)
    else
      let after : ScriptPlace :=
        match place with
        | .outside => if "!--".toList.isPrefixOf s && c = '<' then .comment else .outside
        | .comment =>
          if "-->".toList.isPrefixOf here then .outside
          else if startsScript here then .hidden
          else .comment
        | .hidden =>
          if "-->".toList.isPrefixOf here then .outside
          else if startsEndTag "script" here then .comment
          else .hidden
      let (text, rest) := beforeScriptEnd after s
      (c :: text, rest)

/-- The content of an element that is read as a whole, and the text from its end tag on. -/
def rawText (kind : Raw) (name : String) (s : List Char) : List Char × List Char :=
  match kind with
  | .plain =>
    let (text, rest) := beforeEndTag name s
    (text.map visible, rest)
  | .withReferences =>
    let (text, rest) := beforeEndTag name s
    (replaceReferences false text.length text, rest)
  | .script =>
    let (text, rest) := beforeScriptEnd .outside s
    (text.map visible, rest)
  | .everything => (s.map visible, [])

end SiteSearch.Html
