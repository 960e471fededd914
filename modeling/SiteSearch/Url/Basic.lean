/-!
# URLs

A URL as a record of its parts, all of them in their normal spelling, and its written form.

Main definitions: `Url`, `Url.write`, `Url.Fault`.
-/

set_option autoImplicit false
set_option relaxedAutoImplicit false

namespace SiteSearch

namespace Url

/-- Why a text is no URL. -/
inductive Fault where
  | emptyHost
  | domain
  | port
  | ipv4
  | ipv6
  | domainCharacter
  | noBase
  | baseWithoutPath
deriving DecidableEq, Repr

/-- The wording of a fault. -/
def Fault.message : Fault → String
  | .emptyHost => "empty host"
  | .domain => "invalid international domain name"
  | .port => "invalid port number"
  | .ipv4 => "invalid IPv4 address"
  | .ipv6 => "invalid IPv6 address"
  | .domainCharacter => "invalid domain character"
  | .noBase => "relative URL without a base"
  | .baseWithoutPath => "relative URL with a cannot-be-a-base base"

/-- The machine that a URL names. An IPv6 address is its eight 16-bit pieces. -/
inductive Host where
  | name (s : String)
  | ipv4 (address : Nat)
  | ipv6 (pieces : List Nat)
deriving DecidableEq, Repr

/-- What stands between the two slashes and the path. -/
structure Authority where
  user : String
  password : Option String
  host : Host
  port : Option Nat
deriving DecidableEq, Repr

/-- A path is a list of segments, or one text without structure, which nothing can be
resolved against. -/
inductive Path where
  | segments (l : List String)
  | rigid (s : String)
deriving DecidableEq, Repr

end Url

/-- A URL. -/
structure Url where
  scheme : String
  authority : Option Url.Authority
  path : Url.Path
  query : Option String
  fragment : Option String
deriving DecidableEq, Repr

namespace Url

/-! ### Schemes -/

/-- The port that a special scheme uses unless another is given. -/
def defaultPort (scheme : String) : Option Nat :=
  if scheme = "http" || scheme = "ws" then some 80
  else if scheme = "https" || scheme = "wss" then some 443
  else if scheme = "ftp" then some 21
  else none

/-- The schemes whose URLs have a host or are files. -/
def isSpecial (scheme : String) : Bool :=
  scheme = "file" || (defaultPort scheme).isSome

/-- Whether the scheme is that of the web. -/
def isWeb (u : Url) : Bool :=
  u.scheme = "http" || u.scheme = "https"

/-! ### The written form -/

/-- The decimal digits of a number. -/
def writeNat (n : Nat) : String :=
  .ofList (Nat.toDigits 10 n)

/-- An IPv4 address as four numbers. -/
def writeIpv4 (a : Nat) : String :=
  ".".intercalate ([a / 0x1000000, a / 0x10000, a / 0x100, a].map fun n ↦ writeNat (n % 0x100))

/-- The number of zeros at the front of a list. -/
def leadingZeros : List Nat → Nat
  | 0 :: l => leadingZeros l + 1
  | _ => 0

/-- Where the first of the longest runs of zeros starts, and its length. -/
def longestZeros : Nat → List Nat → Nat × Nat
  | _, [] => (0, 0)
  | i, a :: l =>
    let here := leadingZeros (a :: l)
    let (start, length) := longestZeros (i + 1) l
    if length ≤ here then (i, here) else (start, length)

/-- Pieces of an IPv6 address between colons. -/
def writePieces (l : List Nat) : String :=
  ":".intercalate (l.map fun n ↦ .ofList (Nat.toDigits 16 n))

/-- An IPv6 address, its first longest run of two or more zeros left out. -/
def writeIpv6 (l : List Nat) : String :=
  let (start, length) := longestZeros 0 l
  if length < 2 then writePieces l
  else writePieces (l.take start) ++ "::" ++ writePieces (l.drop (start + length))

/-- A host as it stands in a URL. -/
def Host.write : Host → String
  | .name s => s
  | .ipv4 a => writeIpv4 a
  | .ipv6 l => "[" ++ writeIpv6 l ++ "]"

/-- User name and password, with the sign that ends them. -/
def Authority.writeUser (a : Authority) : String :=
  match a.password with
  | some p => a.user ++ ":" ++ p ++ "@"
  | none => if a.user = "" then "" else a.user ++ "@"

/-- An authority as it stands in a URL. -/
def Authority.write (a : Authority) : String :=
  a.writeUser ++ a.host.write ++ match a.port with
    | some p => ":" ++ writeNat p
    | none => ""

/-- A path as it stands in a URL. -/
def Path.write : Path → String
  | .segments l => .join (l.map fun s ↦ "/" ++ s)
  | .rigid s => s

/-- What keeps a path that starts with two slashes from being read as an authority. -/
def guardPath (u : Url) : String :=
  match u.authority, u.path with
  | none, .segments ("" :: _ :: _) => "/."
  | _, _ => ""

/-- The URL without its fragment, as it is sent to a server. -/
def writeWithoutFragment (u : Url) : String :=
  u.scheme ++ ":" ++ (match u.authority with | some a => "//" ++ a.write | none => "")
    ++ u.guardPath ++ u.path.write ++ (match u.query with | some q => "?" ++ q | none => "")

/-- The written form of a URL. -/
def write (u : Url) : String :=
  u.writeWithoutFragment ++ match u.fragment with | some f => "#" ++ f | none => ""

/-- Whether nothing can be resolved against the URL. -/
def isRigid (u : Url) : Bool :=
  match u.path with
  | .rigid _ => true
  | .segments _ => false

end Url

end SiteSearch
