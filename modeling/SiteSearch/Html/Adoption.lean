import SiteSearch.Html.Builder

/-!
# Misnested formatting

A formatting element may be closed while blocks within it are still open. Its end is then moved
into them: the innermost such block is taken out of the element, and its content goes into a new
element of the same kind.

Main definitions: `Builder.closeOther`, `Builder.adopt`.
-/

set_option autoImplicit false
set_option relaxedAutoImplicit false

namespace SiteSearch.Html

/-- Entries, the latest first, with a new one right after that of an element. -/
def insertAfterEntry (new : Entry) (id : Nat) : List Entry → List Entry
  | [] => [new]
  | e :: es => if e = .element id then new :: e :: es else e :: insertAfterEntry new id es

namespace Builder

/-- Closes the elements among the innermost open ones up to one with the given name, if no special
element comes first. -/
def closeOther (b : Builder) (name : String) : List Nat → Builder
  | [] => b
  | id :: outer =>
    if b.isOneOf [name] id then { b with stack := outer }
    else if isSpecial (b.cell id) then b
    else b.closeOther name outer

/-- Replaces an entry among the formatting elements. -/
def replaceEntry (b : Builder) (old new : Nat) : Builder :=
  { b with formatting := b.formatting.map fun e ↦ if e = .element old then .element new else e }

/-- A state of the walk from a block outward to the formatting element that is closed. -/
structure Walk where
  builder : Builder
  /-- The elements walked past that stay open, the innermost last. -/
  kept : List Nat
  /-- The element that the next one takes in. -/
  last : Nat
  /-- The formatting element that the new one comes after, if it is not the one that is closed. -/
  bookmark : Option Nat

/-- Takes elements between a block and the formatting element that is closed, the innermost first:
at most three formatting elements are made anew around the block, all else is left behind. -/
def walk (block : Nat) : Nat → Walk → List Nat → Walk
  | _, w, [] => w
  | count, w, id :: outer =>
    let b := w.builder
    if 3 ≤ count then
      let b := { b with formatting := b.formatting.filter (· ≠ .element id) }
      walk block (count + 1) { w with builder := b } outer
    else if !b.formatting.contains (.element id) then walk block (count + 1) w outer
    else
      let c := b.cell id
      let (b, new) := b.create .html c.name c.attributes
      let b := (b.replaceEntry id new).putElement ⟨new, none⟩ w.last
      let bookmark := if w.last = block then some new else w.bookmark
      walk block (count + 1) ⟨b, new :: w.kept, new, bookmark⟩ outer

/-- Gives the children of an element to another. -/
def moveChildren (b : Builder) (source target : Nat) : Builder :=
  let children := (b.cell source).children
  let b := b.modify source fun c ↦ { c with children := [] }
  let b := b.modify target fun c ↦ { c with children := children ++ c.children }
  children.foldl (fun b c ↦
    match c with
    | .element id => b.modify id fun c ↦ { c with parent := some target }
    | .text _ => b) b

/-- Moves the end of an open formatting element into a block within it. `inner` holds the open
elements within the block, `between` those between the block and the element, `outer` those around
the element, the innermost first in each. -/
def moveInto (b : Builder) (element block : Nat) (inner between outer : List Nat) : Builder :=
  let w := walk block 0 ⟨b, [], block, none⟩ between
  let b := w.builder.detach w.last
  let b := b.putElement (b.placeIn (outer.headD 0)) w.last
  let c := b.cell element
  let (b, new) := b.create .html c.name c.attributes
  let b := (b.moveChildren block new).putElement ⟨block, none⟩ new
  let formatting := match w.bookmark with
    | none => b.formatting.map fun e ↦ if e = .element element then .element new else e
    | some other =>
      (insertAfterEntry (.element new) other b.formatting).filter (· ≠ .element element)
  { b with formatting, stack := inner ++ new :: block :: w.kept.reverse ++ outer }

/-- Closes formatting elements of a name one after the other, no more than `rounds`. -/
def adoptIn (name : String) : Nat → Builder → Builder
  | 0, b => b
  | rounds + 1, b =>
    match b.formatting? name with
    | none => b.closeOther name b.stack
    | some element =>
      if !b.stack.contains element then
        { b with formatting := b.formatting.filter (· ≠ .element element) }
      else
        let within := b.stack.takeWhile (· ≠ element)
        let outer := (b.stack.dropWhile (· ≠ element)).tail
        let hidden := within.any fun id ↦ isScopeEnd (b.cell id)
        if hidden then b
        else
          match (within.reverse.find? fun id ↦ isSpecial (b.cell id)) with
          | none =>
            { b with stack := outer, formatting := b.formatting.filter (· ≠ .element element) }
          | some block =>
            adoptIn name rounds
              (b.moveInto element block (within.takeWhile (· ≠ block))
                (within.dropWhile (· ≠ block)).tail outer)

/-- Closes a formatting element whose end tag may be out of turn. -/
def adopt (b : Builder) (name : String) : Builder :=
  if b.currentIs [name] && !b.formatting.contains (.element b.current) then b.pop
  else adoptIn name 8 b

end Builder

end SiteSearch.Html
