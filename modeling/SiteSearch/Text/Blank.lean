/-!
# White space

The Unicode property `White_Space`, and the operations on texts that are built on it: trimming,
cutting into words, and collapsing every run of white space to one blank.
-/

set_option autoImplicit false
set_option relaxedAutoImplicit false

namespace SiteSearch.Text

/-- The Unicode property `White_Space`. -/
def isBlank (c : Char) : Bool :=
  let n := c.toNat
  (9 ≤ n && n ≤ 13) || n == 0x20 || n == 0x85 || n == 0xA0 || n == 0x1680
    || (0x2000 ≤ n && n ≤ 0x200A) || n == 0x2028 || n == 0x2029 || n == 0x202F || n == 0x205F
    || n == 0x3000

/-- The text without the white space at its front. -/
def trimFront (s : List Char) : List Char :=
  s.dropWhile isBlank

/-- The text without its last characters as long as they satisfy `p`. -/
def dropEndWhile (p : Char → Bool) (s : List Char) : List Char :=
  (s.reverse.dropWhile p).reverse

/-- The text without the white space at its end. -/
def trimBack (s : List Char) : List Char :=
  dropEndWhile isBlank s

/-- The text without the white space at both ends. -/
def trim (s : List Char) : List Char :=
  trimBack (trimFront s)

/-- The maximal pieces of the text that are free of white space, in order. -/
def words : List Char → List (List Char)
  | [] => []
  | c :: s =>
    if isBlank c then words s
    else match s with
      | [] => [[c]]
      | d :: _ =>
        if isBlank d then [c] :: words s
        else match words s with
          | [] => [[c]]
          | w :: ws => (c :: w) :: ws

/-- The words of the text with one blank between each two. -/
def collapse (s : List Char) : List Char :=
  [' '].intercalate (words s)

end SiteSearch.Text
