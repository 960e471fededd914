/-!
# Blocks of Markdown

What a document consists of once its lines have been sorted: blocks, some of which hold other
blocks. The text of paragraphs, headings and cells is kept as it stands, because what a link in it
refers to is known only at the end of the document.

Main definitions: `Block`, `Frame`, `Sorting`.
-/

set_option autoImplicit false
set_option relaxedAutoImplicit false

namespace SiteSearch.Markdown

/-- How the cells of a column stand. -/
inductive Alignment where
  | none
  | left
  | center
  | right
deriving DecidableEq, Repr

/-- A block. -/
inductive Block where
  /-- A paragraph, possibly with the box of a task in front. -/
  | paragraph (task : Option Bool) (text : List Char)
  /-- The box of a task without text. -/
  | task (checked : Bool)
  | heading (level : Nat) (task : Option Bool) (text : List Char)
  | rule
  /-- Literal text with the name of its language. -/
  | code (language text : List Char)
  | html (text : List Char)
  | quote (content : List Block)
  /-- A list, numbered from `start` if that is given. -/
  | list (start : Option Nat) (tight : Bool) (items : List (List Block))
  | table (columns : List Alignment) (header : List (List Char)) (rows : List (List (List Char)))
deriving Repr

/-- A block that still can be added to, with its content, the latest first. -/
inductive Frame where
  | quote (content : List Block)
  /-- A list with its mark, its first number, whether no blank line has been found in it, and its
  items, the latest first. -/
  | list (mark : Char) (start : Option Nat) (tight : Bool) (items : List (List Block))
  /-- An item, whose further lines are indented by so many columns. -/
  | item (indent : Nat) (content : List Block)
deriving Repr

/-- The blocks found so far. -/
structure Sorting where
  /-- The blocks that can be added to, the innermost first. -/
  frames : List Frame
  /-- The finished blocks outside of all frames, the latest first. -/
  finished : List Block
  /-- Whether a blank line has just been passed that may loosen a list. -/
  blank : Bool
  /-- Whether the innermost item has begun with a blank line. -/
  hollow : Bool
  /-- The box of a task that belongs to the next paragraph. -/
  task : Option Bool
deriving Repr

namespace Sorting

/-- Nothing found. -/
def initial : Sorting :=
  { frames := [], finished := [], blank := false, hollow := false, task := none }

/-- One more block at the innermost place. -/
def add (st : Sorting) (b : Block) : Sorting :=
  match st.frames with
  | [] => { st with finished := b :: st.finished }
  | .quote content :: frames => { st with frames := .quote (b :: content) :: frames }
  | .item indent content :: frames => { st with frames := .item indent (b :: content) :: frames }
  | .list mark start tight items :: frames =>
    { st with frames := .list mark start tight ([b] :: items) :: frames }

/-- The sorting with its innermost frame finished. -/
def close (st : Sorting) : Sorting :=
  match st.frames with
  | [] => st
  | .quote content :: frames => { st with frames }.add (.quote content.reverse)
  | .list _ start tight items :: frames =>
    { st with frames }.add (.list start tight items.reverse)
  | .item _ content :: .list mark start tight items :: frames =>
    { st with frames := .list mark start tight (content.reverse :: items) :: frames }
  | .item _ content :: frames => { st with frames }.add (.list none true [content.reverse])

/-- The sorting with its `n` innermost frames finished. -/
def closeMany (st : Sorting) : Nat → Sorting
  | 0 => st
  | n + 1 => st.close.closeMany n

/-- The sorting with a new innermost frame. -/
def enter (st : Sorting) (f : Frame) : Sorting :=
  { st with frames := f :: st.frames }

/-- Finishes an item that began with a blank line and has stayed empty: a second blank line ends it.
-/
def closeHollow (st : Sorting) : Sorting :=
  let st' := { st with hollow := false }
  if st.hollow && st.blank then
    match st.frames with
    | .item .. :: _ => st'.close
    | _ => st'
  else st'

/-- Loosens the list around the innermost item after a blank line. -/
def loosen (st : Sorting) : Sorting :=
  if st.blank then
    let frames := match st.frames with
      | f :: .list mark start _ items :: frames => f :: .list mark start false items :: frames
      | frames => frames
    { st with frames, blank := false }
  else st

/-- Ends an open list before a block that is none of its items. -/
def endList (st : Sorting) : Sorting :=
  let st := st.closeHollow
  let st := match st.frames with
    | .list .. :: _ => st.close
    | _ => st
  st.loosen

/-- Continues the open list with an item of that mark, or begins a new one. -/
def continueList (st : Sorting) (mark : Char) (start : Option Nat) : Sorting :=
  let st := st.closeHollow
  let begun (st : Sorting) : Sorting :=
    { st.enter (.list mark start true []) with blank := false }
  match st.frames with
  | .list mark' start' tight items :: frames =>
    if mark' = mark then
      { st with frames := .list mark' start' (tight && !st.blank) items :: frames, blank := false }
    else begun st.endList
  | [] => begun st
  | _ => begun st.endList

/-- Notes a blank line. -/
def noteBlank (st : Sorting) : Sorting :=
  match st.frames with
  | .quote _ :: _ => st
  | .item indent content :: frames =>
    let indent := if st.hollow then 0 else indent
    { st with frames := .item indent content :: frames, blank := true }
  | _ => { st with blank := true }

/-- All blocks, once everything is finished. -/
def blocks (st : Sorting) : List Block :=
  (st.closeMany st.frames.length).finished.reverse

end Sorting

end SiteSearch.Markdown
