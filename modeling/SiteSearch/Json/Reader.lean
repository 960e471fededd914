import SiteSearch.Json.Value

/-!
# Reading JSON

The grammar of JSON texts over lists of characters. Every reader takes the text and gives what it
read together with the text that follows; `Json.read` demands that nothing but blanks follows.

Main definitions: `readString?`, `readValue?`, `read?`.
-/

set_option autoImplicit false
set_option relaxedAutoImplicit false

namespace SiteSearch.Json

/-- The characters between the parts of a JSON text. -/
def isSpace (c : Char) : Bool :=
  c = ' ' || c = '\t' || c = '\n' || c = '\r'

/-- The text without the blanks at its front. -/
def skip (s : List Char) : List Char :=
  s.dropWhile isSpace

/-- The value of a hexadecimal digit in either case. -/
def hexDigit? (c : Char) : Option Nat :=
  if '0' ≤ c ∧ c ≤ '9' then some (c.toNat - '0'.toNat)
  else if 'a' ≤ c ∧ c ≤ 'f' then some (c.toNat - 'a'.toNat + 10)
  else if 'A' ≤ c ∧ c ≤ 'F' then some (c.toNat - 'A'.toNat + 10)
  else none

/-- The unit written by four hexadecimal digits. -/
def hexUnit? (a b c d : Char) : Option Nat := do
  let a ← hexDigit? a
  let b ← hexDigit? b
  let c ← hexDigit? c
  let d ← hexDigit? d
  return ((a * 16 + b) * 16 + c) * 16 + d

/-- The part of a string that a unit stands for. -/
def pieceOfUnit (u : Nat) : Piece :=
  if 0xD800 ≤ u ∧ u ≤ 0xDFFF then .half u else .char (Char.ofNat u)

/-- The character that a one-letter escape stands for. -/
def shortEscape? (c : Char) : Option Char :=
  if c = '"' then some '"'
  else if c = '\\' then some '\\'
  else if c = '/' then some '/'
  else if c = 'b' then some '\x08'
  else if c = 'f' then some '\x0c'
  else if c = 'n' then some '\n'
  else if c = 'r' then some '\r'
  else if c = 't' then some '\t'
  else none

/-- The parts of a string, from behind its opening quote to its closing one. -/
def readPieces? : List Char → Option (List Piece × List Char)
  | [] => none
  | '"' :: rest => some ([], rest)
  | '\\' :: 'u' :: a :: b :: c :: d :: rest => do
    let u ← hexUnit? a b c d
    let (pieces, rest) ← readPieces? rest
    return (pieceOfUnit u :: pieces, rest)
  | '\\' :: e :: rest => do
    let c ← shortEscape? e
    let (pieces, rest) ← readPieces? rest
    return (.char c :: pieces, rest)
  | c :: rest =>
    if c.toNat < 0x20 ∨ c = '\\' then none
    else do
      let (pieces, rest) ← readPieces? rest
      return (.char c :: pieces, rest)

/-- The decimal digits at the front of a text. -/
def readDigits (s : List Char) : List Nat × List Char :=
  ((s.takeWhile Char.isDigit).map fun c ↦ c.toNat - '0'.toNat, s.dropWhile Char.isDigit)

/-- The value of a row of decimal digits. -/
def natOfDigits (ds : List Nat) : Nat :=
  ds.foldl (fun n d ↦ 10 * n + d) 0

/-- The digits after a point, at least one of them, if there is a point. -/
def readFraction? (s : List Char) : Option (List Nat × List Char) :=
  match s with
  | '.' :: rest =>
    match readDigits rest with
    | ([], _) => none
    | (ds, rest) => some (ds, rest)
  | _ => some ([], s)

/-- The exponent, if there is one. -/
def readExponent? (s : List Char) : Option (Int × List Char) :=
  match s with
  | c :: rest =>
    if c = 'e' ∨ c = 'E' then
      let (negative, rest) := match rest with
        | '-' :: rest => (true, rest)
        | '+' :: rest => (false, rest)
        | _ => (false, rest)
      match readDigits rest with
      | ([], _) => none
      | (ds, rest) =>
        let n : Int := natOfDigits ds
        some (if negative then -n else n, rest)
    else some (0, s)
  | [] => some (0, s)

/-- A number, which has no superfluous zero at its front. -/
def readNumeral? (s : List Char) : Option (Numeral × List Char) := do
  let (negative, s) := match s with
    | '-' :: rest => (true, rest)
    | _ => (false, s)
  let (whole, s) := readDigits s
  if whole = [] ∨ (whole.head? = some 0 ∧ whole.length ≠ 1) then none
  let (fraction, s) ← readFraction? s
  let (exponent, s) ← readExponent? s
  return ({ negative, whole, fraction, exponent }, s)

mutual

/-- A value, whose parts nest no deeper than `fuel`. -/
def readValue? (fuel : Nat) (s : List Char) : Option (Value × List Char) :=
  match fuel with
  | 0 => none
  | fuel + 1 =>
    match skip s with
    | '"' :: rest => (readPieces? rest).map fun (pieces, rest) ↦ (.string pieces, rest)
    | '[' :: rest =>
      match skip rest with
      | ']' :: rest => some (.array [], rest)
      | rest => (readItems? fuel rest).map fun (items, rest) ↦ (.array items, rest)
    | '{' :: rest =>
      match skip rest with
      | '}' :: rest => some (.object [], rest)
      | rest => (readMembers? fuel rest).map fun (members, rest) ↦ (.object members, rest)
    | 'n' :: 'u' :: 'l' :: 'l' :: rest => some (.null, rest)
    | 't' :: 'r' :: 'u' :: 'e' :: rest => some (.bool true, rest)
    | 'f' :: 'a' :: 'l' :: 's' :: 'e' :: rest => some (.bool false, rest)
    | rest => (readNumeral? rest).map fun (n, rest) ↦ (.number n, rest)

/-- The items of an array, at least one, with its closing bracket. -/
def readItems? (fuel : Nat) (s : List Char) : Option (List Value × List Char) :=
  match fuel with
  | 0 => none
  | fuel + 1 => do
    let (item, rest) ← readValue? fuel s
    match skip rest with
    | ']' :: rest => return ([item], rest)
    | ',' :: rest =>
      let (items, rest) ← readItems? fuel rest
      return (item :: items, rest)
    | _ => none

/-- The members of an object, at least one, with its closing brace. -/
def readMembers? (fuel : Nat) (s : List Char) : Option (List (List Piece × Value) × List Char) :=
  match fuel with
  | 0 => none
  | fuel + 1 =>
    match skip s with
    | '"' :: rest => do
      let (key, rest) ← readPieces? rest
      match skip rest with
      | ':' :: rest =>
        let (value, rest) ← readValue? fuel rest
        match skip rest with
        | '}' :: rest => return ([(key, value)], rest)
        | ',' :: rest =>
          let (members, rest) ← readMembers? fuel rest
          return ((key, value) :: members, rest)
        | _ => none
      | _ => none
    | _ => none

end

/-- The value that a whole text is written for. -/
def read? (text : String) : Option Value :=
  let s := text.toList
  match readValue? (s.length + 1) s with
  | some (v, rest) => if skip rest = [] then some v else none
  | none => none

end SiteSearch.Json
