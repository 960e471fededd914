import SiteSearch.Text.Utf8

/-!
# Percent encoding

Which characters are written as percent-encoded UTF-8 bytes depends on the part of a URL that they
stand in: each part has its set. Decoding works on bytes and leaves a percent sign alone when no
two hexadecimal digits follow it.
-/

set_option autoImplicit false
set_option relaxedAutoImplicit false

namespace SiteSearch.Url

open Text

/-- Control characters and all characters beyond ASCII. -/
def controlSet (c : Char) : Bool :=
  c.toNat < 0x20 || 0x7E < c.toNat

/-- The characters encoded in a fragment. -/
def fragmentSet (c : Char) : Bool :=
  controlSet c || [' ', '"', '<', '>', '\x60'].contains c

/-- The characters encoded in a query. -/
def querySet (c : Char) : Bool :=
  controlSet c || [' ', '"', '#', '<', '>'].contains c

/-- The characters encoded in the query of a URL with a special scheme. -/
def specialQuerySet (c : Char) : Bool :=
  querySet c || c == '\x27'

/-- The characters encoded in a path. -/
def pathSet (c : Char) : Bool :=
  fragmentSet c || ['#', '?', '\x7b', '\x7d'].contains c

/-- The characters encoded in a user name or a password. -/
def userSet (c : Char) : Bool :=
  pathSet c || ['/', ':', ';', '=', '@', '[', '\\', ']', '^', '|'].contains c

/-- An upper-case hexadecimal digit. -/
def hexUpper (n : Nat) : Char :=
  if n < 10 then Char.ofNat (0x30 + n) else Char.ofNat (0x41 + (n - 10))

/-- A byte as a percent sign and two digits. -/
def percentByte (b : UInt8) : List Char :=
  ['%', hexUpper (b.toNat / 16), hexUpper (b.toNat % 16)]

/-- A character, encoded when it is in the set. -/
def encodeChar (set : Char → Bool) (c : Char) : List Char :=
  if set c then (String.utf8EncodeChar c).flatMap percentByte else [c]

/-- A text with the characters of the set encoded. -/
def percentEncode (set : Char → Bool) (s : List Char) : List Char :=
  s.flatMap (encodeChar set)

/-- The value of a byte that is a hexadecimal digit in either case. -/
def hexValue? (b : UInt8) : Option Nat :=
  if 0x30 ≤ b ∧ b ≤ 0x39 then some (b.toNat - 0x30)
  else if 0x41 ≤ b ∧ b ≤ 0x46 then some (b.toNat - 0x41 + 10)
  else if 0x61 ≤ b ∧ b ≤ 0x66 then some (b.toNat - 0x61 + 10)
  else none

/-- The bytes with every percent-encoded one decoded. -/
def percentDecode : List UInt8 → List UInt8
  | [] => []
  | 0x25 :: h :: l :: rest =>
    match hexValue? h, hexValue? l with
    | some h, some l => (16 * h + l).toUInt8 :: percentDecode rest
    | _, _ => 0x25 :: percentDecode (h :: l :: rest)
  | b :: rest => b :: percentDecode rest

end SiteSearch.Url
