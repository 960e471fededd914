/-!
# JSON values

Values as they are written: a numeral keeps its digits, and a string keeps escaped halves of
surrogate pairs, so that a part of a text nobody asks for may hold numbers out of range and
unpaired surrogates. The readings `Numeral.toFloat?` and `Value.text?` are where those fail.
-/

set_option autoImplicit false
set_option relaxedAutoImplicit false

namespace SiteSearch.Json

/-- A number as written: the digits before and after the point, and the exponent. -/
structure Numeral where
  negative : Bool
  whole : List Nat
  fraction : List Nat
  exponent : Int
deriving DecidableEq, Repr

/-- One part of a written string: a character, or one escaped half of a surrogate pair. -/
inductive Piece where
  | char (c : Char)
  | half (unit : Nat)
deriving DecidableEq, Repr

/-- A value as written. -/
inductive Value where
  | null
  | bool (b : Bool)
  | number (n : Numeral)
  | string (s : List Piece)
  | array (items : List Value)
  | object (members : List (List Piece × Value))
deriving Repr

/-- The text of a written string, unless a half of a surrogate pair stands alone in it. -/
def textOf? : List Piece → Option (List Char)
  | [] => some []
  | .char c :: rest => (textOf? rest).map (c :: ·)
  | .half u :: .half v :: rest =>
    if u < 0xDC00 ∧ 0xDC00 ≤ v then
      (textOf? rest).map (Char.ofNat (0x10000 + 0x400 * (u - 0xD800) + (v - 0xDC00)) :: ·)
    else none
  | .half _ :: _ => none

/-- The text of a string value. -/
def Value.text? : Value → Option String
  | .string s => (textOf? s).map .ofList
  | _ => none

/-! ### Numbers

A numeral is read in double precision from a 64-bit significand and a power of ten, with one
rounding for the power and one for the product. Digits that no longer fit the significand shift
its exponent when they stand before the point, and are dropped when they stand after it. -/

/-- The significand and exponent of the digits before the point. -/
def wholePart : Nat → List Nat → Nat × Int
  | sig, [] => (sig, 0)
  | sig, d :: ds =>
    if 10 * sig + d < UInt64.size then wholePart (10 * sig + d) ds else (sig, (d :: ds).length)

/-- The significand and exponent once digits after the point are taken in. -/
def fractionPart : Nat → Int → List Nat → Nat × Int
  | sig, e, [] => (sig, e)
  | sig, e, d :: ds =>
    if 10 * sig + d < UInt64.size then fractionPart (10 * sig + d) (e - 1) ds else (sig, e)

/-- The double nearest to a power of ten. -/
def powerOfTen (n : Nat) : Float :=
  .ofScientific 1 false n

/-- The quotient by a power of ten, taken in steps that are powers of ten in range. -/
def divideByPower (f : Float) (n : Nat) : Float :=
  if n ≤ 308 then f / powerOfTen n
  else if f == 0 then f
  else divideByPower (f / powerOfTen 308) (n - 308)
termination_by n

/-- A significand times a power of ten, unless it is out of range. -/
def scale? (sig : Nat) (e : Int) : Option Float :=
  let f := sig.toUInt64.toFloat
  match e with
  | .ofNat n =>
    if n ≤ 308 then
      let product := f * powerOfTen n
      if product.isInf then none else some product
    else if f == 0 then some f
    else none
  | .negSucc n => some (divideByPower f (n + 1))

/-- The double that a numeral stands for, unless it is out of range. -/
def Numeral.toFloat? (n : Numeral) : Option Float :=
  let (sig, e) := wholePart 0 n.whole
  let (sig, e) := fractionPart sig e n.fraction
  (scale? sig (e + n.exponent)).map fun f ↦ if n.negative then -f else f

end SiteSearch.Json
