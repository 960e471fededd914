import SiteSearch.Url.Basic
import SiteSearch.Url.Percent

/-!
# Numeric hosts

A host whose last part is a number is an IPv4 address, of one to four numbers in base 8, 10 or 16;
a host in square brackets is an IPv6 address.
-/

set_option autoImplicit false
set_option relaxedAutoImplicit false

namespace SiteSearch.Url

/-- The pieces of a text between the separators. -/
def splitOn (sep : Char) : List Char → List (List Char)
  | [] => [[]]
  | c :: s =>
    match splitOn sep s with
    | [] => [[c]]
    | p :: ps => if c = sep then [] :: p :: ps else (c :: p) :: ps

/-- The value of a digit in a base of at most 16. -/
def digit? (base : Nat) (c : Char) : Option Nat :=
  let v := if '0' ≤ c ∧ c ≤ '9' then c.toNat - 0x30
    else if 'a' ≤ c ∧ c ≤ 'f' then c.toNat - 0x61 + 10
    else if 'A' ≤ c ∧ c ≤ 'F' then c.toNat - 0x41 + 10
    else 16
  if v < base then some v else none

/-- The number that digits stand for. -/
def number? (base : Nat) (s : List Char) : Option Nat :=
  s.foldl (fun n c ↦ do return base * (← n) + (← digit? base c)) (some 0)

/-- One number of an IPv4 address, with a mark for its base in front. -/
def ipv4Number? (s : List Char) : Option Nat :=
  match s with
  | [] => none
  | '0' :: 'x' :: rest => number? 16 rest
  | '0' :: 'X' :: rest => number? 16 rest
  | '0' :: c :: rest => number? 8 (c :: rest)
  | _ => number? 10 s

/-- The parts of a host between dots, one empty last part left out. -/
def dottedParts (s : List Char) : List (List Char) :=
  let parts := splitOn '.' s
  if parts.length ≠ 1 ∧ parts.getLast? = some [] then parts.dropLast else parts

/-- Whether the last part of a host is a number, so that the host has to be an address. -/
def endsInNumber (s : List Char) : Bool :=
  match (dottedParts s).getLast? with
  | none => false
  | some [] => false
  | some part => part.all Char.isDigit || (ipv4Number? part).isSome

/-- The address that one to four numbers make: each but the last is a byte, and the last fills the
bytes that are left. -/
def ipv4OfNumbers? : List Nat → Nat → Option Nat
  | [], _ => none
  | [last], room => if last < room then some last else none
  | n :: rest, room =>
    if n < 256 then (ipv4OfNumbers? rest (room / 256)).map (n * (room / 256) + ·) else none

/-- An IPv4 address. -/
def readIpv4 (s : List Char) : Except Fault Nat :=
  let parts := dottedParts s
  if 4 < parts.length then .error .ipv4
  else match parts.mapM ipv4Number? with
    | none => .error .ipv4
    | some numbers =>
      match ipv4OfNumbers? numbers UInt32.size with
      | none => .error .ipv4
      | some a => .ok a

/-- A decimal number below 256 without superfluous zeros. -/
def byte? (s : List Char) : Option Nat :=
  match s with
  | [] => none
  | ['0'] => some 0
  | '0' :: _ => none
  | _ => if s.length ≤ 3 then (number? 10 s).filter (· < 256) else none

/-- The two pieces that an IPv4 address at the end of an IPv6 address stands for. -/
def embeddedIpv4? (s : List Char) : Option (List Nat) := do
  match ← (splitOn '.' s).mapM byte? with
  | [a, b, c, d] => return [256 * a + b, 256 * c + d]
  | _ => none

/-- A piece of an IPv6 address: one to four hexadecimal digits. -/
def ipv6Piece? (s : List Char) : Option Nat :=
  if s = [] ∨ 4 < s.length then none else number? 16 s

/-- Pieces between colons, the last of which may be an IPv4 address. -/
def ipv6Pieces? : List (List Char) → Option (List Nat)
  | [] => some []
  | [last] => if last.contains '.' then embeddedIpv4? last else (ipv6Piece? last).map ([·])
  | p :: ps => do return (← ipv6Piece? p) :: (← ipv6Pieces? ps)

/-- The text before and after the first double colon. -/
def splitDoubleColon : List Char → Option (List Char × List Char)
  | ':' :: ':' :: rest => some ([], rest)
  | c :: rest => (splitDoubleColon rest).map fun (a, b) ↦ (c :: a, b)
  | [] => none

/-- The pieces of a part of an IPv6 address, none for an empty part. -/
def ipv6Part? (s : List Char) : Option (List Nat) :=
  if s = [] then some [] else ipv6Pieces? (splitOn ':' s)

/-- An IPv6 address: eight pieces, or fewer around one double colon. -/
def readIpv6? (s : List Char) : Option (List Nat) :=
  match splitDoubleColon s with
  | none => (ipv6Part? s).filter (·.length = 8)
  | some (front, back) => do
    if front.contains '.' then none
    let front ← ipv6Part? front
    let back ← ipv6Part? back
    if front.length + back.length < 8 then
      return front ++ List.replicate (8 - front.length - back.length) 0 ++ back
    else none

/-- An IPv6 address. -/
def readIpv6 (s : List Char) : Except Fault (List Nat) :=
  match readIpv6? s with
  | some l => .ok l
  | none => .error .ipv6

end SiteSearch.Url
