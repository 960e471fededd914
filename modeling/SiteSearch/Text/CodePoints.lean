import SiteSearch.Text.Blank

/-!
# Sets of code points

A property of characters is the sorted list of the ranges in which it holds. The ranges are
written as the words of a text, each as its distance from the end of the range before it and, after
a plus sign, the number of further code points it holds, both in hexadecimal.

Main definitions: `CodePoints.ofGaps` reads that text, `CodePoints.contains` looks a character up.
-/

set_option autoImplicit false
set_option relaxedAutoImplicit false

namespace SiteSearch.Text

/-- The value of a lower-case hexadecimal digit. -/
def hexDigit? (c : Char) : Option Nat :=
  if '0' ≤ c ∧ c ≤ '9' then some (c.toNat - '0'.toNat)
  else if 'a' ≤ c ∧ c ≤ 'f' then some (c.toNat - 'a'.toNat + 10)
  else none

/-- The number that hexadecimal digits stand for. -/
def hexNumber (s : List Char) : Nat :=
  s.foldl (fun n c ↦ 16 * n + (hexDigit? c).getD 0) 0

/-- A set of code points, given by its ranges in increasing order, both ends included. -/
structure CodePoints where
  ranges : Array (Nat × Nat)
deriving Repr

namespace CodePoints

/-- The ranges that are written behind the end of another one. -/
def rangesFrom (last : Nat) : List (List Char) → List (Nat × Nat)
  | [] => []
  | w :: ws =>
    let low := last + hexNumber (w.takeWhile (· ≠ '+'))
    let high := low + hexNumber ((w.dropWhile (· ≠ '+')).drop 1)
    (low, high) :: rangesFrom high ws

/-- The set that a text of ranges describes. -/
def ofGaps (text : String) : CodePoints :=
  ⟨(rangesFrom 0 (words text.toList)).toArray⟩

/-- Binary search among the ranges with index from `lo` to below `hi`. -/
def search (ranges : Array (Nat × Nat)) (n lo hi : Nat) : Bool :=
  if lo < hi then
    let mid := (lo + hi) / 2
    match ranges[mid]? with
    | none => false
    | some (first, last) =>
      if n < first then search ranges n lo mid
      else if last < n then search ranges n (mid + 1) hi
      else true
  else false
termination_by hi - lo

/-- Whether the set holds the character. -/
def contains (s : CodePoints) (c : Char) : Bool :=
  search s.ranges c.toNat 0 s.ranges.size

end CodePoints

end SiteSearch.Text
