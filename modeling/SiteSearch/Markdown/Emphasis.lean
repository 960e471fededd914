import SiteSearch.Text.Blank
import SiteSearch.Text.Punctuation

/-!
# Emphasis

Runs of asterisks, underscores and tildes open and close emphasis. Whether a run can do either is
decided by the characters beside it. Runs are paired from left to right: a closing run looks for the
nearest run that can open the same kind, and what stands between the two is emphasised as often as
both have marks for.

Main definitions: `Inline`, `Piece`, `Piece.marks`, `pairMarks`.
-/

set_option autoImplicit false
set_option relaxedAutoImplicit false

namespace SiteSearch.Markdown

open Text

/-- What a line of text consists of. -/
inductive Inline where
  | text (s : List Char)
  | code (s : List Char)
  | softBreak
  | hardBreak
  | emphasis (content : List Inline)
  | strong (content : List Inline)
  | struck (content : List Inline)
  | link (destination title : List Char) (content : List Inline)
  | image (destination title : List Char) (content : List Inline)
deriving Repr

/-- A run of marks: the mark, the number left of the run, the length of the run, and what the run
can do. -/
structure Marks where
  mark : Char
  count : Nat
  length : Nat
  opens : Bool
  closes : Bool
deriving Repr

/-- A part of a text whose emphasis has not been found yet. -/
inductive Piece where
  | node (i : Inline)
  | run (m : Marks)
deriving Repr

/-! ### What a run can do -/

/-- Whether a run counts within words. -/
def worksInWords (mark : Char) (n : Nat) : Bool :=
  mark = '*' || (mark = '~' && 1 < n)

/-- Whether a run of `n` marks between two characters can open emphasis. -/
def canOpen (mark : Char) (n : Nat) (before : Char) : Option Char → Bool
  | none => false
  | some after =>
    !isBlank after
      && ((worksInWords mark n && !isPunctuation after) || isBlank before || isPunctuation before)

/-- Whether a run of `n` marks between two characters can close emphasis. -/
def canClose (mark : Char) (n : Nat) (before : Char) : Option Char → Bool
  | none => !isBlank before
  | some after =>
    !isBlank before
      && ((worksInWords mark n && !isPunctuation before) || isBlank after || isPunctuation after)

/-- A run of `n` marks between two characters. -/
def readMarks (mark : Char) (n : Nat) (before : Char) (after : Option Char) : Piece :=
  let opens := canOpen mark n before after
  let closes := canClose mark n before after
  if (opens || closes) && (mark ≠ '~' || n ≤ 2) then .run ⟨mark, n, n, opens, closes⟩
  else .node (.text (List.replicate n mark))

/-! ### Pairing -/

/-- A run that waits to be closed, with what stands before it on the same level, the latest first.
-/
structure Opener where
  marks : Marks
  before : List Inline

/-- The openers, the innermost first; what stands behind the innermost, the latest first; and the
number of outermost openers that tildes do not reach any more. -/
structure Pairing where
  openers : List Opener
  behind : List Inline
  floor : Nat

/-- Whether a run closes an opener. Where one of the two could do both, their lengths must not add
up to a multiple of three, unless both are. -/
def closesOpener (closer : Marks) (o : Opener) : Bool :=
  let opener := o.marks
  opener.mark = closer.mark
    && (closer.mark ≠ '~' || closer.length = opener.length)
    && ((!(closer.opens && closer.closes) && !(opener.opens && opener.closes))
      || (closer.length + opener.length) % 3 ≠ 0 || closer.length % 3 = 0)

/-- The number of openers further in than the one that a run closes. -/
def findOpener? (closer : Marks) (p : Pairing) : Option Nat :=
  let reach := if closer.mark = '~' then p.openers.length - p.floor else p.openers.length
  (p.openers.take reach).findIdx? (closesOpener closer)

/-- An opener that stays unpaired becomes text. -/
def Pairing.dropOpener (p : Pairing) : Pairing :=
  match p.openers with
  | [] => p
  | o :: openers =>
    { p with openers,
             behind := p.behind ++ .text (List.replicate o.marks.count o.marks.mark) :: o.before }

/-- The pairing without its `n` innermost openers. -/
def Pairing.dropOpeners (p : Pairing) : Nat → Pairing
  | 0 => p
  | n + 1 => p.dropOpener.dropOpeners n

/-- Content emphasised by `n` marks: by pairs of marks, and by a single one around them. -/
def wrap (mark : Char) : Nat → List Inline → List Inline
  | 0, content => content
  | 1, content => [if mark = '~' then .struck content else .emphasis content]
  | n + 2, content => wrap mark n [if mark = '~' then .struck content else .strong content]

/-- Lets a run close what it can, for at most `fuel` openers; the marks that are left of it. -/
def Pairing.close (p : Pairing) (closer : Marks) : Nat → Pairing × Marks
  | 0 => (p, closer)
  | fuel + 1 =>
    if closer.count = 0 then (p, closer)
    else match findOpener? closer p with
      | none => (if closer.mark = '~' then { p with floor := p.openers.length } else p, closer)
      | some n =>
        let p := p.dropOpeners n
        match p.openers with
        | [] => (p, closer)
        | o :: openers =>
          let m := min closer.count o.marks.count
          let content := wrap closer.mark m p.behind.reverse
          let floor := min p.floor openers.length
          let left := { o with marks := { o.marks with count := o.marks.count - m } }
          let rest : Pairing :=
            if m < o.marks.count then
              { openers := left :: openers, behind := content.reverse, floor }
            else { openers, behind := content.reverse ++ o.before, floor }
          rest.close { closer with count := closer.count - m } fuel

/-- Takes one more piece in. -/
def Pairing.add (p : Pairing) : Piece → Pairing
  | .node i => { p with behind := i :: p.behind }
  | .run m =>
    let (p, m) := if m.closes then p.close m (m.count + 1) else (p, m)
    if m.count = 0 then p
    else if m.opens then { p with openers := ⟨m, p.behind⟩ :: p.openers, behind := [] }
    else { p with behind := .text (List.replicate m.count m.mark) :: p.behind }

/-- The content of pieces, with emphasis found. -/
def pairMarks (pieces : List Piece) : List Inline :=
  let p := pieces.foldl Pairing.add ⟨[], [], 0⟩
  (p.dropOpeners p.openers.length).behind.reverse

end SiteSearch.Markdown
