import SiteSearch.Url.Basic
import SiteSearch.Url.Percent

/-!
# Form-encoded queries

The `application/x-www-form-urlencoded` format of queries: pairs between ampersands, keys and values
with blanks as plus signs and all but a few ASCII characters percent-encoded. Reading takes any
text: bytes that are no UTF-8 become replacement characters.
-/

set_option autoImplicit false
set_option relaxedAutoImplicit false

namespace SiteSearch.Url

open Text

/-- The bytes that stand for themselves in a form. -/
def isFormPlain (b : UInt8) : Bool :=
  (0x30 ≤ b && b ≤ 0x39) || (0x41 ≤ b && b ≤ 0x5A) || (0x61 ≤ b && b ≤ 0x7A)
    || b = 0x2A || b = 0x2D || b = 0x2E || b = 0x5F

/-- A byte as it is written in a form. -/
def formByte (b : UInt8) : List Char :=
  if b = 0x20 then ['+']
  else if isFormPlain b then [Char.ofNat b.toNat]
  else percentByte b

/-- A key or a value as it is written in a form. -/
def formEncode (s : String) : List Char :=
  (Utf8.encode s.toList).flatMap formByte

/-- A pair as it is written in a form. -/
def formPair (key value : String) : List Char :=
  formEncode key ++ '=' :: formEncode value

/-- A key or a value that bytes of a form stand for. -/
def formDecode (s : List UInt8) : String :=
  .ofList (Utf8.decode (percentDecode (s.map fun b ↦ if b = 0x2B then 0x20 else b)))

/-- The pieces of a list of bytes between the ampersands. -/
def splitPairs : List UInt8 → List (List UInt8)
  | [] => [[]]
  | b :: s =>
    match splitPairs s with
    | [] => [[b]]
    | p :: ps => if b = 0x26 then [] :: p :: ps else (b :: p) :: ps

/-- The pair that a piece of a form stands for. -/
def readPair (s : List UInt8) : String × String :=
  (formDecode (s.takeWhile (· ≠ 0x3D)), formDecode ((s.dropWhile (· ≠ 0x3D)).drop 1))

/-- The pairs of a form, empty pieces left out. -/
def readForm (query : String) : List (String × String) :=
  ((splitPairs (Utf8.encode query.toList)).filter (· ≠ [])).map readPair

/-- The pairs of the query of a URL. -/
def queryPairs (u : Url) : List (String × String) :=
  match u.query with
  | some q => readForm q
  | none => []

/-- The URL with one more pair in its query. -/
def appendPair (u : Url) (key value : String) : Url :=
  let old := u.query.getD ""
  { u with query := some (old ++ (if old = "" then "" else "&") ++ .ofList (formPair key value)) }

end SiteSearch.Url
