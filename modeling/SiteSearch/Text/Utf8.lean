/-!
# UTF-8

Encoding of texts, and decoding of any bytes at all: each maximal piece that cannot be part of a
well-formed sequence is read as one replacement character.
-/

set_option autoImplicit false
set_option relaxedAutoImplicit false

namespace SiteSearch.Text.Utf8

/-- The bytes of a text. -/
def encode (s : List Char) : List UInt8 :=
  s.flatMap String.utf8EncodeChar

/-- A sequence whose first bytes have been read: the value of those bytes, how many more are
owed beside the next one, and the least and greatest next byte. -/
structure Unfinished where
  value : Nat
  owed : Nat
  low : UInt8
  high : UInt8
deriving DecidableEq, Repr

/-- What a byte at the start of a sequence amounts to. -/
inductive Lead where
  /-- A whole sequence. -/
  | char (c : Char)
  /-- The first byte of a longer sequence. -/
  | opens (u : Unfinished)
  /-- A byte that starts no sequence. -/
  | invalid
deriving DecidableEq, Repr

/-- The meaning of a first byte. -/
def lead (b : UInt8) : Lead :=
  if b ≤ 0x7F then .char (Char.ofNat b.toNat)
  else if 0xC2 ≤ b ∧ b ≤ 0xDF then .opens ⟨b.toNat - 0xC0, 0, 0x80, 0xBF⟩
  else if b = 0xE0 then .opens ⟨0, 1, 0xA0, 0xBF⟩
  else if b = 0xED then .opens ⟨0xD, 1, 0x80, 0x9F⟩
  else if 0xE1 ≤ b ∧ b ≤ 0xEF then .opens ⟨b.toNat - 0xE0, 1, 0x80, 0xBF⟩
  else if b = 0xF0 then .opens ⟨0, 2, 0x90, 0xBF⟩
  else if 0xF1 ≤ b ∧ b ≤ 0xF3 then .opens ⟨b.toNat - 0xF0, 2, 0x80, 0xBF⟩
  else if b = 0xF4 then .opens ⟨4, 2, 0x80, 0x8F⟩
  else .invalid

/-- The character that stands for ill-formed bytes. -/
def replacement : Char := '\uFFFD'

/-- Reads bytes, with a sequence possibly under way. -/
def decodeFrom : Option Unfinished → List UInt8 → List Char
  | none, [] => []
  | some _, [] => [replacement]
  | none, b :: s =>
    match lead b with
    | .char c => c :: decodeFrom none s
    | .opens u => decodeFrom (some u) s
    | .invalid => replacement :: decodeFrom none s
  | some u, b :: s =>
    if u.low ≤ b ∧ b ≤ u.high then
      let value := 64 * u.value + (b.toNat - 0x80)
      match u.owed with
      | 0 => Char.ofNat value :: decodeFrom none s
      | n + 1 => decodeFrom (some ⟨value, n, 0x80, 0xBF⟩) s
    else
      replacement :: match lead b with
        | .char c => c :: decodeFrom none s
        | .opens u => decodeFrom (some u) s
        | .invalid => replacement :: decodeFrom none s

/-- The text that bytes stand for, ill-formed pieces replaced. -/
def decode (s : List UInt8) : List Char :=
  decodeFrom none s

/-- The text that bytes stand for when all of them are well-formed. -/
def decode? (s : List UInt8) : Option (List Char) :=
  let text := decode s
  if encode text = s then some text else none

end SiteSearch.Text.Utf8
