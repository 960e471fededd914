import SiteSearch.Url.Address
import SiteSearch.Url.Domain

/-!
# Reading URLs

A text is read as an absolute URL, or against a base as a relative one. Blanks and control
characters at both ends are dropped first, and tabs and line ends everywhere; after that the text
is taken apart from left to right: scheme, authority, path, query, fragment.

Main definitions: `Url.parse`, `Url.join`.
-/

set_option autoImplicit false
set_option relaxedAutoImplicit false

namespace SiteSearch.Url

open Text

/-! ### Queries and fragments -/

/-- A fragment, which is the whole text. -/
def readFragment (s : List Char) : String :=
  .ofList (percentEncode fragmentSet s)

/-- The query and the fragment that a text starts with, behind a path. -/
def readTail (special : Bool) (s : List Char) : Option String × Option String :=
  let set := if special then specialQuerySet else querySet
  match s with
  | '?' :: s =>
    let query := some (.ofList (percentEncode set (s.takeWhile (· ≠ '#'))))
    match s.dropWhile (· ≠ '#') with
    | '#' :: s => (query, some (readFragment s))
    | _ => (query, none)
  | '#' :: s => (none, some (readFragment s))
  | _ => (none, none)

/-! ### Paths -/

/-- Whether a character separates the segments of a path. -/
def isSlash (special : Bool) (c : Char) : Bool :=
  c = '/' || (special && c = '\\')

/-- Whether a character ends a path. -/
def endsPath (c : Char) : Bool :=
  c = '?' || c = '#'

/-- Whether a segment stands for the directory it is in. -/
def isSingleDot (s : List Char) : Bool :=
  s = ['.'] || (s.map Char.toLower) = ['%', '2', 'e']

/-- Whether a segment stands for the directory above. -/
def isDoubleDot (s : List Char) : Bool :=
  ["..", ".%2e", "%2e.", "%2e%2e"].any fun d ↦ d.toList = s.map Char.toLower

/-- A letter and a colon or a bar, which name a drive. -/
def isDrive (s : List Char) : Bool :=
  match s with
  | [a, b] => a.isAlpha && (b = ':' || b = '|')
  | _ => false

/-- A letter and a colon. -/
def isNormalDrive (s : List Char) : Bool :=
  match s with
  | [a, b] => a.isAlpha && b = ':'
  | _ => false

/-- Whether a text starts with a drive that fills a segment. -/
def startsWithDrive (s : List Char) : Bool :=
  match s with
  | [a, b] => isDrive [a, b]
  | a :: b :: c :: _ => isDrive [a, b] && (c = '/' || c = '\\' || endsPath c)
  | _ => false

/-- The segments, the last first, without their last one. The drive of a file stays. -/
def shorten (file : Bool) (l : List (List Char)) : List (List Char) :=
  match l with
  | [] => []
  | [s] => if file && isNormalDrive s then [s] else []
  | _ :: l => l

/-- The segments, the last first, after one more segment of the text. -/
def addSegment (file : Bool) (l : List (List Char)) (s : List Char) (last : Bool) :
    List (List Char) :=
  if isDoubleDot s then
    let l := shorten file l
    if last then [] :: l else l
  else if isSingleDot s then
    if last then [] :: l else l
  else if file && l.isEmpty && isDrive s then
    (s.take 1 ++ [':']) :: l
  else s :: l

/-- The segments, the last first, after all segments of a text. -/
def addSegments (file : Bool) : List (List Char) → List (List Char) → List (List Char)
  | l, [] => l
  | l, [s] => addSegment file l s true
  | l, s :: rest => addSegments file (addSegment file l s false) rest

/-- The pieces of a text between the characters that satisfy `p`. -/
def splitWhere (p : Char → Bool) : List Char → List (List Char)
  | [] => [[]]
  | c :: s =>
    match splitWhere p s with
    | [] => [[c]]
    | q :: qs => if p c then [] :: q :: qs else (c :: q) :: qs

/-- The list without its empty first segments, as long as another one follows. -/
def dropEmptySegments : List (List Char) → List (List Char)
  | [] :: s :: l => dropEmptySegments (s :: l)
  | l => l

/-- The path of a text that continues the given segments, and what follows the path. -/
def readPath (scheme : String) (start : List (List Char)) (s : List Char) :
    Path × List Char :=
  let special := isSpecial scheme
  let file := scheme = "file"
  let pieces := splitWhere (isSlash special) (s.takeWhile (!endsPath ·))
  let segments :=
    (addSegments file start.reverse (pieces.map (percentEncode pathSet))).reverse
  let segments := if file then dropEmptySegments segments else segments
  (.segments (segments.map .ofList), s.dropWhile (!endsPath ·))

/-- The path behind an authority. A special scheme has at least the root; another one has no path
when the text has none. -/
def readPathStart (scheme : String) (s : List Char) : Path × List Char :=
  match s with
  | [] => if isSpecial scheme then (.segments [""], []) else (.segments [], [])
  | c :: rest =>
    if isSlash (isSpecial scheme) c then readPath scheme [] rest
    else if !isSpecial scheme && endsPath c then (.segments [], s)
    else readPath scheme [] s

/-- The segments of a path; none when it has no structure. -/
def Path.list : Path → List (List Char)
  | .segments l => l.map String.toList
  | .rigid _ => []

/-- A URL from its front and what remains of the text. -/
def finish (scheme : String) (authority : Option Authority) (rest : Path × List Char) : Url :=
  let (query, fragment) := readTail (isSpecial scheme) rest.2
  { scheme, authority, path := rest.1, query, fragment }

/-! ### Authorities -/

/-- Whether a character ends an authority. -/
def endsAuthority (special : Bool) (c : Char) : Bool :=
  c = '/' || endsPath c || (special && c = '\\')

/-- The text before and after the last at sign. -/
def splitLastAt (s : List Char) : Option (List Char × List Char) :=
  if s.contains '@' then
    let back := s.reverse.takeWhile (· ≠ '@')
    some ((s.reverse.drop (back.length + 1)).reverse, back.reverse)
  else none

/-- User name and password, each encoded; an empty password counts as none. -/
def readUser (s : List Char) : String × Option String :=
  let user := .ofList (percentEncode userSet (s.takeWhile (· ≠ ':')))
  match s.dropWhile (· ≠ ':') with
  | _ :: c :: rest => (user, some (.ofList (percentEncode userSet (c :: rest))))
  | _ => (user, none)

/-- The text of a host and what follows it: it ends at the first colon outside brackets. -/
def splitHost : Bool → List Char → List Char × List Char
  | _, [] => ([], [])
  | inside, c :: s =>
    if c = ':' && !inside then ([], c :: s)
    else
      let inside := if c = '[' then true else if c = ']' then false else inside
      let (host, rest) := splitHost inside s
      (c :: host, rest)

/-- The text inside the brackets of an IPv6 host. -/
def bracketed (s : List Char) : Except Fault Host :=
  if s.getLast? = some ']' then (readIpv6 (s.dropLast)).map .ipv6 else .error .ipv6

/-- A host of a special scheme: a domain name or an address. -/
def readHost (s : List Char) : Except Fault Host :=
  match s with
  | '[' :: rest => bracketed rest
  | _ =>
    match domainToAscii? (Utf8.decode (percentDecode (Utf8.encode s))) with
    | none => .error .domain
    | some name =>
      if name = [] then .error .emptyHost
      else if endsInNumber name then (readIpv4 name).map .ipv4
      else .ok (.name (.ofList name))

/-- Whether a character must not occur in the host of a scheme that is not special. -/
def isForbiddenInHost (c : Char) : Bool :=
  ['\x00', '\t', '\n', '\r', ' ', '#', '/', ':', '<', '>', '?', '@', '[', '\\', ']', '^',
    '|'].contains c

/-- A host of a scheme that is not special. -/
def readOpaqueHost (s : List Char) : Except Fault Host :=
  match s with
  | '[' :: rest => bracketed rest
  | _ =>
    if s.any isForbiddenInHost then .error .domainCharacter
    else .ok (.name (.ofList (percentEncode controlSet s)))

/-- A port behind its colon. -/
def readPort (scheme : String) (s : List Char) : Except Fault (Option Nat) :=
  match s.foldl (fun n c ↦ do return 10 * (← n) + (← digit? 10 c)) (some 0) with
  | none => .error .port
  | some n =>
    if 65535 < n then .error .port
    else .ok (if s = [] ∨ defaultPort scheme = some n then none else some n)

/-- Host and port. -/
def readHostPort (scheme : String) (s : List Char) : Except Fault (Host × Option Nat) := do
  let (host, rest) := splitHost false s
  if isSpecial scheme && host = [] then throw .emptyHost
  let host ← if isSpecial scheme then readHost host else readOpaqueHost host
  match rest with
  | _ :: port =>
    if host = .name "" then throw .emptyHost
    return (host, ← readPort scheme port)
  | [] => return (host, none)

/-- The URL whose authority and path are the text. -/
def readAuthority (scheme : String) (s : List Char) : Except Fault Url := do
  let special := isSpecial scheme
  let text := s.takeWhile (!endsAuthority special ·)
  let rest := s.dropWhile (!endsAuthority special ·)
  let (user, hostPort) := match splitLastAt text with
    | some (user, hostPort) => (user, hostPort)
    | none => ([], text)
  let named := splitLastAt text = some ([], []) ∧ rest ≠ []
  if named then throw .emptyHost
  let (name, password) := readUser user
  let (host, port) ← readHostPort scheme hostPort
  if host = .name "" ∧ (name ≠ "" ∨ password ≠ none) then throw .emptyHost
  return finish scheme (some { user := name, password, host, port }) (readPathStart scheme rest)

/-! ### Files -/

/-- An authority that is nothing but a host. -/
def plainHost (host : Host) : Authority :=
  { user := "", password := none, host, port := none }

/-- A file at the root of a host. -/
def fileAt (host : Host) (rest : Path × List Char) : Url :=
  finish "file" (some (plainHost host)) rest

/-- The host of a file URL; the local one has no name. -/
def readFileHost (s : List Char) : Except Fault Host := do
  if s = [] then return .name ""
  let host ← readHost s
  return if host = .name "localhost" then .name "" else host

/-- The file that a text behind two slashes names. -/
def readFileAuthority (s : List Char) : Except Fault Url := do
  let text := s.takeWhile (!endsAuthority true ·)
  let rest := s.dropWhile (!endsAuthority true ·)
  if isDrive text then
    return fileAt (.name "") (readPath "file" [] s)
  let host ← readFileHost text
  let (path, tail) := readPathStart "file" rest
  let drive := match path.list with
    | s :: _ => isNormalDrive s
    | [] => false
  return fileAt (if drive then .name "" else host) (path, tail)

/-- The host of a base, or none. -/
def hostOf (base : Option Url) : Host :=
  match base with
  | some { authority := some a, .. } => a.host
  | _ => .name ""

/-- The file that a text behind one slash names: it is on the host, and on the drive, of the base.
-/
def readFileRoot (base : Option Url) (s : List Char) : Url :=
  if startsWithDrive s then fileAt (.name "") (readPath "file" [] s)
  else match base with
    | none => fileAt (.name "") (readPath "file" [] s)
    | some b =>
      match b.path.list with
      | drive :: _ =>
        if isNormalDrive drive then fileAt (.name "") (readPath "file" [drive] s)
        else fileAt (hostOf base) (readPath "file" [] s)
      | [] => fileAt (hostOf base) (readPath "file" [] s)

/-! ### Relative references -/

/-- The base with another fragment. -/
def withFragment (base : Url) (s : List Char) : Url :=
  { base with fragment := some (readFragment s) }

/-- The segments that a relative path continues: those of the base but the last, which may not be a
drive. -/
def parentSegments (base : Url) : List (List Char) :=
  (shorten (base.scheme = "file") base.path.list.reverse).reverse

/-- A reference of the scheme of the base, from behind any authority on. -/
def readRelative (base : Url) (s : List Char) : Url :=
  match s with
  | [] => { base with fragment := none }
  | '#' :: s => withFragment base s
  | '?' :: _ => finish base.scheme base.authority (base.path, s)
  | _ => finish base.scheme base.authority (readPath base.scheme (parentSegments base) s)

/-- A reference of the file scheme without a slash at its front. -/
def readFileReference (base : Option Url) (s : List Char) : Url :=
  match base with
  | none => fileAt (.name "") (readPath "file" [] s)
  | some b =>
    if startsWithDrive s then fileAt (.name "") (readPath "file" [] s) else readRelative b s

/-- A reference of the file scheme, against a file if there is a base. -/
def readFile (base : Option Url) (s : List Char) : Except Fault Url :=
  match s with
  | a :: b :: rest =>
    if !isSlash true a then .ok (readFileReference base s)
    else if isSlash true b then readFileAuthority rest
    else .ok (readFileRoot base (b :: rest))
  | [a] => .ok (if isSlash true a then readFileRoot base [] else readFileReference base s)
  | [] => .ok (readFileReference base s)

/-- The text without the slashes at its front. -/
def dropSlashes (s : List Char) : List Char :=
  s.dropWhile (isSlash true)

/-- The number of slashes at the front of a text. -/
def countSlashes (s : List Char) : Nat :=
  (s.takeWhile (isSlash true)).length

/-- A reference without a scheme, against a base that is neither a file nor rigid. -/
def readReference (base : Url) (s : List Char) : Except Fault Url :=
  if isSpecial base.scheme then
    if 2 ≤ countSlashes s then readAuthority base.scheme (dropSlashes s)
    else if countSlashes s = 1 then
      .ok (finish base.scheme base.authority (readPath base.scheme [] (s.drop 1)))
    else .ok (readRelative base s)
  else match s with
    | '/' :: '/' :: rest => readAuthority base.scheme rest
    | '/' :: rest => .ok (finish base.scheme base.authority (readPath base.scheme [] rest))
    | _ => .ok (readRelative base s)

/-! ### Whole texts -/

/-- The scheme of a text, in lower case, and what follows its colon. -/
def splitScheme (s : List Char) : Option (String × List Char) :=
  let isSchemeChar (c : Char) : Bool := c.isAlphanum || c = '+' || c = '-' || c = '.'
  match s with
  | [] => none
  | c :: _ =>
    if c.isAlpha then
      match s.dropWhile isSchemeChar with
      | ':' :: rest => some (.ofList ((s.takeWhile isSchemeChar).map Char.toLower), rest)
      | _ => none
    else none

/-- The URL of a scheme that is not special. -/
def readOther (scheme : String) (s : List Char) : Except Fault Url :=
  match s with
  | '/' :: '/' :: rest => readAuthority scheme rest
  | '/' :: rest => .ok (finish scheme none (readPath scheme [] rest))
  | _ =>
    let path := .ofList (percentEncode controlSet (s.takeWhile (!endsPath ·)))
    .ok (finish scheme none (.rigid path, s.dropWhile (!endsPath ·)))

/-- The text behind a scheme. -/
def readWithScheme (base : Option Url) (scheme : String) (s : List Char) : Except Fault Url :=
  if scheme = "file" then readFile (base.filter (·.scheme = "file")) s
  else if isSpecial scheme then
    match base with
    | some b =>
      if b.scheme = scheme ∧ countSlashes s < 2 then readReference b s
      else readAuthority scheme (dropSlashes s)
    | none => readAuthority scheme (dropSlashes s)
  else readOther scheme s

/-- The text without the characters that carry no meaning in it. -/
def strip (s : List Char) : List Char :=
  let isEdge (c : Char) : Bool := c.toNat ≤ 0x20
  let s := ((s.dropWhile isEdge).reverse.dropWhile isEdge).reverse
  s.filter fun c ↦ c ≠ '\t' ∧ c ≠ '\n' ∧ c ≠ '\r'

/-- A text against a base, if there is one. -/
def read (base : Option Url) (text : String) : Except Fault Url :=
  let s := strip text.toList
  match splitScheme s with
  | some (scheme, rest) => readWithScheme base scheme rest
  | none =>
    match base with
    | none => .error .noBase
    | some b =>
      match s with
      | '#' :: rest => .ok (withFragment b rest)
      | _ =>
        if b.isRigid then .error .baseWithoutPath
        else if b.scheme = "file" then readFile (some b) s
        else readReference b s

/-- The URL that a text is the written form of. -/
def parse (text : String) : Except Fault Url :=
  read none text

/-- The URL that a text names when it is found in a document at the base. -/
def join (base : Url) (text : String) : Except Fault Url :=
  read (some base) text

end SiteSearch.Url
