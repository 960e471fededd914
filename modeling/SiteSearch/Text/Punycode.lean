/-!
# Punycode

Any text can be written with letters, digits and hyphens of ASCII: first come the characters that
are such already, then, behind the last hyphen, numbers which say where to insert the others. A
number is the distance from one insertion to the next, counted through all places of one code point
and then of the following, and is written with digits whose weight adapts to the numbers before.

Main definitions: `encode`, `decode?`.
-/

set_option autoImplicit false
set_option relaxedAutoImplicit false

namespace SiteSearch.Text.Punycode

/-- The number of digits. -/
def base : Nat := 36

/-- The least value that ends a number at a place, given by `k`, under a bias. -/
def threshold (k bias : Nat) : Nat :=
  if k ≤ bias then 1 else if bias + 26 ≤ k then 26 else k - bias

/-- The first code point that is not of ASCII. -/
def firstPoint : Nat := 128

/-- The bias of the first number. -/
def firstBias : Nat := 72

/-- The bias for numbers of about the size of `delta`, counted from `k`. -/
def biasFor (k delta : Nat) : Nat :=
  if 455 < delta then biasFor (k + base) (delta / 35) else k + 36 * delta / (delta + 38)
termination_by delta

/-- The bias behind a number; `size` is the number of characters there are now. -/
def adapt (delta size : Nat) (first : Bool) : Nat :=
  let delta := if first then delta / 700 else delta / 2
  biasFor 0 (delta + delta / size)

/-! ### Writing -/

/-- The character of a digit. -/
def digitChar (d : Nat) : Char :=
  if d < 26 then Char.ofNat ('a'.toNat + d) else Char.ofNat ('0'.toNat + (d - 26))

theorem threshold_pos (k bias : Nat) : 0 < threshold k bias := by
  unfold threshold
  split
  · omega
  · split <;> omega

/-- The digits of a number from the place `k` on. -/
def writeNumber (bias k n : Nat) : List Char :=
  let t := threshold k bias
  if n < t then [digitChar n]
  else digitChar (t + (n - t) % (base - t)) :: writeNumber bias (k + base) ((n - t) / (base - t))
termination_by n
decreasing_by
  have := threshold_pos k bias
  have := Nat.div_le_self (n - threshold k bias) (base - threshold k bias)
  omega

/-- What is kept while a text is written. -/
structure Writer where
  /-- The number of places passed since the last insertion. -/
  delta : Nat
  bias : Nat
  /-- The number of characters that are dealt with. -/
  handled : Nat
  /-- Whether nothing has been inserted. -/
  first : Bool
  /-- What is written. -/
  written : List Char

/-- Passes a character of the text while the insertions of the code point `n` are written. -/
def Writer.pass (n : Nat) (w : Writer) (c : Char) : Writer :=
  if c.toNat < n then { w with delta := w.delta + 1 }
  else if c.toNat = n then
    { delta := 0
      bias := adapt w.delta (w.handled + 1) w.first
      handled := w.handled + 1
      first := false
      written := w.written ++ writeNumber w.bias base w.delta }
  else w

/-- Writes the insertions of code points, given in order, from the code point `n` on. -/
def writePoints (s : List Char) (w : Writer) (n : Nat) : List Nat → List Char
  | [] => w.written
  | m :: ms =>
    let w := { w with delta := w.delta + (m - n) * (w.handled + 1) }
    let w := s.foldl (Writer.pass m) w
    writePoints s { w with delta := w.delta + 1 } (m + 1) ms

/-- The written form of a text. -/
def encode (s : List Char) : List Char :=
  let plain := s.filter fun c ↦ c.toNat < firstPoint
  let points := ((s.map Char.toNat).filter (firstPoint ≤ ·)).mergeSort.eraseDups
  let front := if plain = [] then [] else plain ++ ['-']
  writePoints s ⟨0, firstBias, plain.length, true, front⟩ firstPoint points

/-! ### Reading -/

/-- The value of a digit. -/
def digit? (c : Char) : Option Nat :=
  if 'a' ≤ c ∧ c ≤ 'z' then some (c.toNat - 'a'.toNat)
  else if 'A' ≤ c ∧ c ≤ 'Z' then some (c.toNat - 'A'.toNat)
  else if '0' ≤ c ∧ c ≤ '9' then some (c.toNat - '0'.toNat + 26)
  else none

/-- A number from the place `k` on, where digits weigh `weight`, and what follows it. -/
def readNumber? (bias k weight : Nat) : List Char → Option (Nat × List Char)
  | [] => none
  | c :: s =>
    match digit? c with
    | none => none
    | some d =>
      let t := threshold k bias
      if d < t then some (d * weight, s)
      else
        (readNumber? bias (k + base) (weight * (base - t)) s).map fun (n, rest) ↦
          (n + d * weight, rest)

/-- Inserts characters into a text, from the code point `n` and the place `i` on, as at most `fuel`
numbers say. -/
def insertPoints? : Nat → List Char → Nat → Nat → Nat → Bool → List Char → Option (List Char)
  | _, text, _, _, _, _, [] => some text
  | 0, _, _, _, _, _, _ => none
  | fuel + 1, text, n, i, bias, first, s =>
    match readNumber? bias base 1 s with
    | none => none
    | some (delta, rest) =>
      let size := text.length + 1
      let i := i + delta
      let n := n + i / size
      let place := i % size
      if n.isValidChar then
        insertPoints? fuel (text.take place ++ Char.ofNat n :: text.drop place) n (place + 1)
          (adapt delta size first) false rest
      else none

/-- The text of a written form. A hyphen with nothing before it ends no front. -/
def decode? (s : List Char) : Option (List Char) :=
  let plain := ((s.reverse.dropWhile (· ≠ '-')).drop 1).reverse
  let digits := if plain = [] then s else s.drop (plain.length + 1)
  if plain.all fun c ↦ c.toNat < firstPoint then
    insertPoints? (s.length + 1) plain firstPoint 0 firstBias true digits
  else none

end SiteSearch.Text.Punycode
