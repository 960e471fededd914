import SiteSearch.Json.Value
import SiteSearch.Text.CodePoints
import SiteSearch.Toml.Value

/-!
# Strings, numbers, dates and times of TOML

Strings stand in single or triple quotes of either kind; only those in double quotes have escapes.
All other scalars are words without blanks, but for the one blank that may part a date from a time.

Main definitions: `readString?`, `readTriple?`, `scalar?`.
-/

set_option autoImplicit false
set_option relaxedAutoImplicit false

namespace SiteSearch.Toml

open Text

/-- The control characters, which stand nowhere in a document, but for tabs and line feeds. -/
def isControl (c : Char) : Bool :=
  (c.toNat < 0x20 && c ≠ '\t') || c.toNat = 0x7F

/-! ### Strings -/

/-- The character with a code of `n` hexadecimal digits, and what follows it. -/
def readCode? (n : Nat) (s : List Char) : Option (Char × List Char) :=
  let digits := (s.take n).map Char.toLower
  let code := hexNumber digits
  if digits.length = n ∧ digits.all (fun c ↦ (hexDigit? c).isSome) ∧ code.isValidChar then
    some (Char.ofNat code, s.drop n)
  else none

/-- The character of an escape, from behind the backslash, and what follows it. -/
def readEscape? (s : List Char) : Option (Char × List Char) :=
  match s with
  | [] => none
  | c :: s =>
    match c with
    | 'b' => some ('\x08', s)
    | 't' => some ('\t', s)
    | 'n' => some ('\n', s)
    | 'f' => some ('\x0c', s)
    | 'r' => some ('\r', s)
    | 'e' => some ('\x1b', s)
    | '"' => some ('"', s)
    | '\\' => some ('\\', s)
    | 'x' => readCode? 2 s
    | 'u' => readCode? 4 s
    | 'U' => readCode? 8 s
    | _ => none

/-- A string of at most `fuel` characters on one line, from behind its opening quote, and what
follows it. -/
def readString? (quote : Char) : Nat → List Char → Option (List Char × List Char)
  | 0, _ => none
  | _, [] => none
  | fuel + 1, c :: s =>
    if c = quote then some ([], s)
    else if c = '\\' ∧ quote = '"' then do
      let (x, s) ← readEscape? s
      let (text, rest) ← readString? quote fuel s
      return (x :: text, rest)
    else if isControl c then none
    else do
      let (text, rest) ← readString? quote fuel s
      return (c :: text, rest)

/-- Blanks and tabs. -/
def isGap (c : Char) : Bool :=
  c = ' ' || c = '\t'

/-- The text behind a backslash that hides the end of its line and all white space up to the next
character, if it is one. -/
def hiddenEnd? (s : List Char) : Option (List Char) :=
  match s.dropWhile isGap with
  | '\n' :: s => some (s.dropWhile fun c ↦ isGap c || c = '\n')
  | _ => none

/-- A string of at most `fuel` characters that may have several lines, up to its closing quotes, and
what follows it. Up to two quotes may stand right before the closing ones. -/
def readLines? (quote : Char) : Nat → List Char → Option (List Char × List Char)
  | 0, _ => none
  | _, [] => none
  | fuel + 1, c :: s =>
    if [quote, quote, quote].isPrefixOf (c :: s) then
      let quotes := ((c :: s).takeWhile (· = quote)).length
      let inside := min 2 (quotes - 3)
      some (List.replicate inside quote, (c :: s).drop (inside + 3))
    else if c = '\\' ∧ quote = '"' then
      match hiddenEnd? s with
      | some s => readLines? quote fuel s
      | none => do
        let (x, s) ← readEscape? s
        let (text, rest) ← readLines? quote fuel s
        return (x :: text, rest)
    else if isControl c ∧ c ≠ '\n' then none
    else do
      let (text, rest) ← readLines? quote fuel s
      return (c :: text, rest)

/-- A string in triple quotes, from behind the opening ones, and what follows it. A line feed right
behind the quotes is not part of it. -/
def readTriple? (quote : Char) (s : List Char) : Option (List Char × List Char) :=
  match s with
  | '\n' :: s => readLines? quote (s.length + 1) s
  | s => readLines? quote (s.length + 1) s

/-! ### Numbers -/

/-- The digits of a row in which single underscores may stand between two digits. -/
def digits? (isDigit : Char → Bool) : List Char → Option (List Char)
  | [] => none
  | [c] => if isDigit c then some [c] else none
  | c :: '_' :: s => if isDigit c then (digits? isDigit s).map (c :: ·) else none
  | c :: s => if isDigit c then (digits? isDigit s).map (c :: ·) else none

/-- The value of a row of digits in a base. -/
def natOf (base : Nat) (ds : List Char) : Nat :=
  ds.foldl (fun n c ↦ base * n + hexNumber [c.toLower]) 0

/-- A sign and what follows it. -/
def splitSign (s : List Char) : Bool × List Char :=
  match s with
  | '-' :: s => (true, s)
  | '+' :: s => (false, s)
  | s => (false, s)

/-- Decimal digits without a superfluous zero at their front. -/
def decimals? (s : List Char) : Option (List Char) :=
  match digits? Char.isDigit s with
  | some ds => if ds.head? = some '0' ∧ ds.length ≠ 1 then none else some ds
  | none => none

/-- The whole number that a word is written for. -/
def wholeNumber? (s : List Char) : Option Int :=
  match s with
  | '0' :: 'x' :: s => (digits? (fun c ↦ (hexDigit? c.toLower).isSome) s).map fun ds ↦ natOf 16 ds
  | '0' :: 'o' :: s => (digits? (fun c ↦ '0' ≤ c && c ≤ '7') s).map fun ds ↦ natOf 8 ds
  | '0' :: 'b' :: s => (digits? (fun c ↦ c = '0' || c = '1') s).map fun ds ↦ natOf 2 ds
  | s =>
    let (negative, s) := splitSign s
    (decimals? s).map fun ds ↦ if negative then -(natOf 10 ds : Int) else natOf 10 ds

/-- A whole number in the range of those that are stored. -/
def integer? (s : List Char) : Option Int :=
  (wholeNumber? s).filter fun n ↦
    -0x80000000000000000000000000000000 ≤ n ∧ n < 0x100000000000000000000000000000000

/-- The digits of a fraction, from its point on; none if there is no point. -/
def fraction? (s : List Char) : Option (List Char) :=
  match s with
  | [] => some []
  | '.' :: s => digits? Char.isDigit s
  | _ => none

/-- The value of an exponent, from its letter on; zero if there is none. -/
def exponent? (s : List Char) : Option Int :=
  match s with
  | [] => some 0
  | _ :: s =>
    let (negative, s) := splitSign s
    (digits? Char.isDigit s).map fun ds ↦ if negative then -(natOf 10 ds : Int) else natOf 10 ds

/-- Whether a word is a number with a fraction or an exponent in the range of doubles, or one that
is infinite or none. -/
def isReal (s : List Char) : Bool :=
  let (negative, s) := splitSign s
  if s = "inf".toList ∨ s = "nan".toList then true
  else
    let isMark (c : Char) : Bool := c = 'e' || c = 'E'
    let front := s.takeWhile (!isMark ·)
    let back := s.dropWhile (!isMark ·)
    let values (ds : List Char) : List Nat := ds.map fun c ↦ natOf 10 [c]
    match decimals? (front.takeWhile (· ≠ '.')), fraction? (front.dropWhile (· ≠ '.')),
        exponent? back with
    | some whole, some part, some exponent =>
      (part ≠ [] || back ≠ []) &&
        (Json.Numeral.toFloat? ⟨negative, values whole, values part, exponent⟩).isSome
    | _, _, _ => false

/-! ### Dates and times -/

/-- A number of two digits. -/
def pair? (a b : Char) : Option Nat :=
  if a.isDigit ∧ b.isDigit then some (natOf 10 [a, b]) else none

/-- The number of days of a month. -/
def daysOf (year month : Nat) : Nat :=
  if month = 2 then
    if year % 4 = 0 ∧ (year % 100 ≠ 0 ∨ year % 400 = 0) then 29 else 28
  else if month = 4 ∨ month = 6 ∨ month = 9 ∨ month = 11 then 30
  else 31

/-- The text behind a date. -/
def behindDate? (s : List Char) : Option (List Char) :=
  match s with
  | y₁ :: y₂ :: y₃ :: y₄ :: '-' :: m₁ :: m₂ :: '-' :: d₁ :: d₂ :: s => do
    let year := 100 * (← pair? y₁ y₂) + (← pair? y₃ y₄)
    let month ← pair? m₁ m₂
    let day ← pair? d₁ d₂
    if 1 ≤ month ∧ month ≤ 12 ∧ 1 ≤ day ∧ day ≤ daysOf year month then some s else none
  | _ => none

/-- The text behind the seconds of a time, which may be left out. -/
def behindSeconds? (s : List Char) : Option (List Char) :=
  match s with
  | ':' :: a :: b :: s => do
    let second ← pair? a b
    if second > 60 then none
    match s with
    | '.' :: s => if s.head?.any Char.isDigit then some (s.dropWhile Char.isDigit) else none
    | s => some s
  | ':' :: _ => none
  | s => some s

/-- The text behind a time. -/
def behindTime? (s : List Char) : Option (List Char) :=
  match s with
  | h₁ :: h₂ :: ':' :: m₁ :: m₂ :: s => do
    let hour ← pair? h₁ h₂
    let minute ← pair? m₁ m₂
    if hour ≤ 23 ∧ minute ≤ 59 then behindSeconds? s else none
  | _ => none

/-- Whether a text is the distance of a time from the one at Greenwich. -/
def isOffset (s : List Char) : Bool :=
  match s with
  | [c] => c = 'Z' || c = 'z'
  | [sign, h₁, h₂, ':', m₁, m₂] =>
    (sign = '+' || sign = '-') && (pair? h₁ h₂).any (· ≤ 23) && (pair? m₁ m₂).any (· ≤ 59)
  | _ => false

/-- Whether a word is a date, a time, or both. -/
def isMoment (s : List Char) : Bool :=
  match behindDate? s with
  | some [] => true
  | some (c :: s) =>
    (c = 'T' || c = 't' || c = ' ') && (behindTime? s).any fun rest ↦ rest = [] || isOffset rest
  | none => behindTime? s = some []

/-! ### Words -/

/-- The value of a word. -/
def scalar? (s : List Char) : Option Value :=
  if s = "true".toList then some (.flag true)
  else if s = "false".toList then some (.flag false)
  else match integer? s with
    | some n => some (.integer n)
    | none => if isReal s then some .real else if isMoment s then some .moment else none

end SiteSearch.Toml
