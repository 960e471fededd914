import SiteSearch.Proofs.Html.Reading

/-!
# Fragments of a body

While a fragment is read in which only elements of HTML are open, and no formatting element is to be
opened again, little of a builder changes: its cells, the open elements and the formatting elements
(`Builder.ordinary`). A character goes to the innermost element (`takeChars_ordinary`), an opening
tag puts a new element there (`take_listItem`, `take_link`, `take_span`, `take_paragraph`), and a
closing tag of the innermost element closes it (`take_linkEnd`, `take_spanEnd`, `take_listItemEnd`,
`take_paragraphEnd`).
-/

set_option autoImplicit false
set_option relaxedAutoImplicit false

namespace SiteSearch.Html

open Text

/-! ### Cells -/

/-- A cell that is an HTML element with a name. -/
structure Cell.IsHtml (c : Cell) (name : String) : Prop where
  space_eq : c.space = .html
  name_eq : c.name = name

theorem Cell.IsHtml.isOneOf {c : Cell} {name : String} (h : c.IsHtml name) (names : List String) :
    c.isOneOf names = names.contains name := by
  rw [Cell.isOneOf, h.space_eq, h.name_eq]
  exact Bool.true_and _

theorem Cell.IsHtml.isScopeEnd {c : Cell} {name : String} (h : c.IsHtml name) :
    Builder.isScopeEnd c =
      ["applet", "caption", "html", "table", "td", "th", "marquee", "object",
        "template"].contains name := by
  simp [Builder.isScopeEnd, h.isOneOf, h.space_eq]

theorem Cell.IsHtml.isSpecial {c : Cell} {name : String} (h : c.IsHtml name) :
    Builder.isSpecial c = Builder.specialNames.contains name := by
  simp [Builder.isSpecial, h.isOneOf, h.space_eq]

/-- The cells with a new element as the last child of another. -/
def withElement (cells : Array Cell) (id : Nat) (name : String)
    (attributes : List (String × String)) : Array Cell :=
  (cells.push ⟨.html, name, attributes, some id, []⟩).modify id fun c ↦
    { c with children := .element cells.size :: c.children }

/-- The cells with a text at the end of an element. -/
def withText (cells : Array Cell) (id : Nat) (s : List Char) : Array Cell :=
  cells.modify id fun c ↦
    { c with children := s.foldl (fun children x ↦ Builder.addChar x children) c.children }

theorem modify_modify (cells : Array Cell) (id : Nat) (f g : Cell → Cell) :
    (cells.modify id f).modify id g = cells.modify id (g ∘ f) := by
  refine Array.ext (by simp) fun i hi hi' ↦ ?_
  simp only [Array.getElem_modify]
  split <;> rfl

theorem modify_eq_self (cells : Array Cell) (id : Nat) : cells.modify id (fun c ↦ c) = cells := by
  refine Array.ext (by simp) fun i hi hi' ↦ ?_
  simp only [Array.getElem_modify]
  split <;> rfl

theorem withText_cons (cells : Array Cell) (id : Nat) (x : Char) (s : List Char) :
    withText cells id (x :: s) = withText (withText cells id [x]) id s := by
  rw [withText, withText, withText, modify_modify]
  rfl

theorem space_withText (cells : Array Cell) (id : Nat) (s : List Char) :
    ((withText cells id s).getD id .document).space = (cells.getD id .document).space := by
  by_cases hid : id < cells.size
  · simp only [withText, Array.getD, Array.size_modify, hid, dif_pos, Array.getInternal_eq_getElem,
      Array.getElem_modify]
    split <;> rfl
  · simp [withText, Array.getD, hid]

namespace Builder

/-- A builder of a fragment in which nothing out of the ordinary is open. -/
def ordinary (cells : Array Cell) (stack : List Nat) (formatting : List Entry) (ok : Bool) :
    Builder where
  cells
  stack
  formatting
  mode := .inBody
  resume := .initial
  templates := []
  head := none
  form := none
  framesetOk := ok
  foster := false
  tableText := []
  legacy := false
  skipFeed := false
  fragment := true
  raw := none

variable {cells : Array Cell} {id : Nat} {outer : List Nat} {formatting : List Entry} {ok : Bool}

/-! ### One token -/

/-- A token among elements of HTML is left to the rules of the body. -/
theorem take_ordinary {t : Token} {b : Builder} (hspace : (cells.getD id .document).space = .html)
    (h : (ordinary cells (id :: outer) formatting ok).bodyRule t = .done b)
    (hfoster : b.foster = false) :
    (ordinary cells (id :: outer) formatting ok).take t = b := by
  have hforeign : (ordinary cells (id :: outer) formatting ok).isForeign t = false := by
    unfold isForeign
    exact if_pos (.inr hspace)
  have hsettled : { b with foster := false } = b := by
    rw [← hfoster]
  have hsteps : 8 * ((id :: outer).length + 0) + 40 = 8 * outer.length + 47 + 1 := by
    rw [List.length_cons]
    omega
  have htake : (ordinary cells (id :: outer) formatting ok).take t =
      settle t (8 * ((id :: outer).length + 0) + 40)
        (.again (ordinary cells (id :: outer) formatting ok)) := rfl
  rw [htake, hsteps, settle]
  change settle t _ (if isForeign (ordinary cells (id :: outer) formatting ok) t then _
    else bodyRule (ordinary cells (id :: outer) formatting ok) t) = b
  rw [hforeign, if_neg Bool.false_ne_true, h, settle, hsettled]

/-- Nothing is opened again when the formatting elements are open. -/
theorem reconstruct_ordinary (hopen : ∀ i, formatting.head? = some (.element i) → i ∈ id :: outer) :
    (ordinary cells (id :: outer) formatting ok).reconstruct =
      ordinary cells (id :: outer) formatting ok := by
  have hclosed : formatting.takeWhile
      (fun e ↦ e.id?.any fun i ↦ !(id :: outer).contains i) = [] := by
    cases formatting with
    | nil => rfl
    | cons e es =>
      refine List.takeWhile_cons_of_neg ?_
      cases e with
      | border => exact Bool.false_ne_true
      | element i =>
        have hstack := List.contains_iff_mem.mpr (hopen i rfl)
        simp only [Entry.id?, Option.any_some, hstack, Bool.not_true, Bool.false_eq_true,
          not_false_eq_true]
  have hreopen : (ordinary cells (id :: outer) formatting ok).reconstruct =
      (ordinary cells (id :: outer) formatting ok).reopen (formatting.takeWhile
        fun e ↦ e.id?.any fun i ↦ !(id :: outer).contains i).reverse := rfl
  rw [hreopen, hclosed]
  rfl

theorem insertElement_ordinary (hid : id < cells.size) (name : String)
    (attributes : List (String × String)) :
    (ordinary cells (id :: outer) formatting ok).insertElement name attributes =
      ordinary (withElement cells id name attributes) (cells.size :: id :: outer) formatting
        ok := by
  have hcells : ((cells.push ⟨.html, name, attributes, none, []⟩).modify id fun c ↦
      { c with children := .element cells.size :: c.children }).modify cells.size
        (fun c ↦ { c with parent := some id }) = withElement cells id name attributes := by
    refine Array.ext (by simp [withElement]) fun i hi hi' ↦ ?_
    simp only [Array.size_modify, Array.size_push] at hi
    obtain hlt | rfl := Nat.lt_succ_iff_lt_or_eq.mp hi
    · simp [withElement, Array.getElem_modify, Array.getElem_push, hlt, Nat.ne_of_gt hlt]
    · simp [withElement, Array.getElem_modify, Array.getElem_push, Nat.ne_of_lt hid]
  rw [← hcells]
  simp [insertElement, insertForeign, placeIn, ordinary, create, putElement, detach, cell,
    current, modify]

/-! ### Characters -/

theorem take_char (hspace : (cells.getD id .document).space = .html) (hid : id ≠ 0)
    (hopen : ∀ i, formatting.head? = some (.element i) → i ∈ id :: outer) {x : Char}
    (hx : x ≠ '\x00') :
    (ordinary cells (id :: outer) formatting ok).take (.char x) =
      ordinary (withText cells id [x]) (id :: outer) formatting (ok && isSpace x) := by
  have hinsert : (ordinary cells (id :: outer) formatting ok).insertChar x =
      ordinary (withText cells id [x]) (id :: outer) formatting ok := by
    rw [insertChar]
    exact if_neg hid
  refine take_ordinary hspace ?_ rfl
  rw [bodyRule, bodyChar, if_neg hx, reconstruct_ordinary hopen, hinsert]
  cases isSpace x with
  | false => rw [Bool.and_false]; rfl
  | true => rw [Bool.and_true]; rfl

theorem takeChars_ordinary (hspace : (cells.getD id .document).space = .html) (hid : id ≠ 0)
    (hopen : ∀ i, formatting.head? = some (.element i) → i ∈ id :: outer) {s : List Char}
    (hs : '\x00' ∉ s) :
    (ordinary cells (id :: outer) formatting ok).takeChars s =
      ordinary (withText cells id s) (id :: outer) formatting (ok && s.all isSpace) := by
  induction s generalizing cells ok with
  | nil =>
    rw [List.all_nil, Bool.and_true, withText]
    exact (congrArg (ordinary · (id :: outer) formatting ok) (modify_eq_self cells id)).symm
  | cons x s ih =>
    simp only [List.mem_cons, not_or] at hs
    rw [takeChars, List.foldl_cons, take_char hspace hid hopen (Ne.symm hs.1), ← takeChars,
      ih ((space_withText cells id [x]).trans hspace) hs.2, ← withText_cons, List.all_cons,
      Bool.and_assoc]

/-! ### Opening tags -/

variable {name : String} {attributes : List (String × String)}

/-- A list item at the root of the fragment. -/
theorem take_listItem (hroot : (cells.getD id .document).IsHtml "html") (hid : id < cells.size) :
    (ordinary cells [id] [] ok).take (.opening "li" attributes false) =
      ordinary (withElement cells id "li" attributes) [cells.size, id] [] false := by
  have hone (names : List String) :
      (ordinary cells [id] [] false).isOneOf names id = names.contains "html" :=
    hroot.isOneOf names
  have hclose : (ordinary cells [id] [] false).closeItem ["li"] [id] =
      ordinary cells [id] [] false := by
    have hspecial : isSpecial ((ordinary cells [id] [] false).cell id) = true := hroot.isSpecial
    simp [closeItem, hone, hspecial]
  have hscope : (ordinary cells [id] [] false).inButtonScope ["p"] = false := by
    have hstack : (ordinary cells [id] [] false).stack = [id] := rfl
    have hend : isScopeEnd ((ordinary cells [id] [] false).cell id) = true := hroot.isScopeEnd
    rw [inButtonScope, inScopeOf, hstack, List.find?_cons_of_pos (by simp [hend])]
    exact hroot.isOneOf ["p"]
  have hbody : (ordinary cells [id] [] ok).bodyRule (.opening "li" attributes false) =
      .done (((ordinary cells [id] [] false).closeItem ["li"] [id]).endParagraph.insertElement
        "li" attributes) := rfl
  rw [hclose, endParagraph, hscope, if_neg Bool.false_ne_true, insertElement_ordinary hid]
    at hbody
  exact take_ordinary hroot.space_eq hbody rfl

/-- A link where no other is open. -/
theorem take_link (hspace : (cells.getD id .document).space = .html) (hid : id < cells.size) :
    (ordinary cells (id :: outer) [] ok).take (.opening "a" attributes false) =
      ordinary (withElement cells id "a" attributes) (cells.size :: id :: outer)
        [.element cells.size] ok := by
  have hbody : (ordinary cells (id :: outer) [] ok).bodyRule (.opening "a" attributes false) =
      .done ((ordinary cells (id :: outer) [] ok).closeLink.reconstruct.openFormatting "a"
        attributes) := rfl
  have hclose : (ordinary cells (id :: outer) [] ok).closeLink =
      ordinary cells (id :: outer) [] ok := rfl
  rw [hclose, reconstruct_ordinary (by simp), openFormatting, insertElement_ordinary hid] at hbody
  exact take_ordinary hspace hbody rfl

/-- An element within lines that has no rules of its own. -/
theorem take_span (hspace : (cells.getD id .document).space = .html) (hid : id < cells.size) :
    (ordinary cells (id :: outer) [] ok).take (.opening "span" attributes false) =
      ordinary (withElement cells id "span" attributes) (cells.size :: id :: outer) [] ok := by
  have hbody : (ordinary cells (id :: outer) [] ok).bodyRule (.opening "span" attributes false) =
      .done ((ordinary cells (id :: outer) [] ok).reconstruct.insertElement "span" attributes) := rfl
  rw [reconstruct_ordinary (by simp), insertElement_ordinary hid] at hbody
  exact take_ordinary hspace hbody rfl

/-- A paragraph in a list item at the root of the fragment. -/
theorem take_paragraph {root : Nat} (hitem : (cells.getD id .document).IsHtml "li")
    (hroot : (cells.getD root .document).IsHtml "html") (hid : id < cells.size) :
    (ordinary cells [id, root] [] ok).take (.opening "p" attributes false) =
      ordinary (withElement cells id "p" attributes) [cells.size, id, root] [] ok := by
  have hstack : (ordinary cells [id, root] [] ok).stack = [id, root] := rfl
  have hscope : (ordinary cells [id, root] [] ok).inButtonScope ["p"] = false := by
    have hpass : isScopeEnd ((ordinary cells [id, root] [] ok).cell id) = false :=
      hitem.isScopeEnd
    have hend : isScopeEnd ((ordinary cells [id, root] [] ok).cell root) = true :=
      hroot.isScopeEnd
    have hone (names : List String) :
        ((ordinary cells [id, root] [] ok).cell id).isOneOf names = names.contains "li" :=
      hitem.isOneOf names
    rw [inButtonScope, inScopeOf, hstack, List.find?_cons_of_neg (by simp [hpass, hone]),
      List.find?_cons_of_pos (by simp [hend])]
    exact hroot.isOneOf ["p"]
  have hbody : (ordinary cells [id, root] [] ok).bodyRule (.opening "p" attributes false) =
      .done ((ordinary cells [id, root] [] ok).endParagraph.insertElement "p" attributes) := rfl
  rw [endParagraph, hscope, if_neg Bool.false_ne_true, insertElement_ordinary hid] at hbody
  exact take_ordinary hitem.space_eq hbody rfl

/-! ### Closing tags -/

theorem take_linkEnd (hlink : (cells.getD id .document).IsHtml "a") :
    (ordinary cells (id :: outer) [.element id] ok).take (.closing "a") =
      ordinary cells outer [] ok := by
  have hbody : (ordinary cells (id :: outer) [.element id] ok).bodyRule (.closing "a") =
      .done ((ordinary cells (id :: outer) [.element id] ok).adopt "a") := rfl
  have hone : (ordinary cells (id :: outer) [.element id] ok).isOneOf ["a"] id = true :=
    hlink.isOneOf ["a"]
  have hformatting : (ordinary cells (id :: outer) [.element id] ok).formatting? "a" =
      some id := by
    have hentries : (ordinary cells (id :: outer) [.element id] ok).formatting =
        [.element id] := rfl
    simp [formatting?, hentries, Entry.id?, hone]
  have hadopt : (ordinary cells (id :: outer) [.element id] ok).adopt "a" =
      ordinary cells outer [] ok := by
    rw [adopt, if_neg (by simp [ordinary, current]), adoptIn, hformatting]
    simp [ordinary]
  rw [hadopt] at hbody
  exact take_ordinary hlink.space_eq hbody rfl

theorem take_spanEnd (hspan : (cells.getD id .document).IsHtml "span") :
    (ordinary cells (id :: outer) formatting ok).take (.closing "span") =
      ordinary cells outer formatting ok := by
  have hone : (ordinary cells (id :: outer) formatting ok).isOneOf ["span"] id = true :=
    hspan.isOneOf ["span"]
  have hclose : (ordinary cells (id :: outer) formatting ok).closeOther "span" (id :: outer) =
      ordinary cells outer formatting ok := by
    rw [closeOther, if_pos hone]
    rfl
  have hbody : (ordinary cells (id :: outer) formatting ok).bodyRule (.closing "span") =
      .done ((ordinary cells (id :: outer) formatting ok).closeOther "span" (id :: outer)) := rfl
  rw [hclose] at hbody
  exact take_ordinary hspan.space_eq hbody rfl

/-- Closing the innermost element by its name closes nothing else. -/
theorem popThrough_ordinary (hinner : (cells.getD id .document).IsHtml name) :
    ((ordinary cells (id :: outer) formatting ok).closeImplied name).popThrough
        ((ordinary cells (id :: outer) formatting ok).isOneOf [name]) =
      ordinary cells outer formatting ok := by
  have hone (names : List String) :
      (ordinary cells (id :: outer) formatting ok).isOneOf names id = names.contains name :=
    hinner.isOneOf names
  have hstack : (ordinary cells (id :: outer) formatting ok).stack = id :: outer := rfl
  have hkept : (ordinary cells (id :: outer) formatting ok).closeImplied name =
      ordinary cells (id :: outer) formatting ok := by
    rw [closeImplied, hstack, List.dropWhile_cons_of_neg (by simp [hone])]
    rfl
  rw [hkept, popThrough, hstack, List.dropWhile_cons_of_neg (by simp [hone])]
  rfl

theorem take_listItemEnd (hitem : (cells.getD id .document).IsHtml "li") :
    (ordinary cells (id :: outer) formatting ok).take (.closing "li") =
      ordinary cells outer formatting ok := by
  have hstack : (ordinary cells (id :: outer) formatting ok).stack = id :: outer := rfl
  have hscope : (ordinary cells (id :: outer) formatting ok).inListScope ["li"] = true := by
    have hone : ((ordinary cells (id :: outer) formatting ok).cell id).isOneOf ["li"] = true :=
      hitem.isOneOf ["li"]
    rw [inListScope, inScopeOf, hstack, List.find?_cons_of_pos (by simp [hone])]
    exact hone
  have hbody : (ordinary cells (id :: outer) formatting ok).bodyRule (.closing "li") =
      .done (if (ordinary cells (id :: outer) formatting ok).inListScope ["li"] then
        ((ordinary cells (id :: outer) formatting ok).closeImplied "li").popThrough
          ((ordinary cells (id :: outer) formatting ok).isOneOf ["li"]) else
        ordinary cells (id :: outer) formatting ok) := rfl
  rw [hscope, if_pos rfl, popThrough_ordinary hitem] at hbody
  exact take_ordinary hitem.space_eq hbody rfl

theorem take_paragraphEnd (hparagraph : (cells.getD id .document).IsHtml "p") :
    (ordinary cells (id :: outer) formatting ok).take (.closing "p") =
      ordinary cells outer formatting ok := by
  have hstack : (ordinary cells (id :: outer) formatting ok).stack = id :: outer := rfl
  have hscope : (ordinary cells (id :: outer) formatting ok).inButtonScope ["p"] = true := by
    have hone : ((ordinary cells (id :: outer) formatting ok).cell id).isOneOf ["p"] = true :=
      hparagraph.isOneOf ["p"]
    rw [inButtonScope, inScopeOf, hstack, List.find?_cons_of_pos (by simp [hone])]
    exact hone
  have hbody : (ordinary cells (id :: outer) formatting ok).bodyRule (.closing "p") =
      .done (if (ordinary cells (id :: outer) formatting ok).inButtonScope ["p"] then
        ordinary cells (id :: outer) formatting ok else
        (ordinary cells (id :: outer) formatting ok).insertElement "p" []).closeParagraph := rfl
  rw [hscope, if_pos rfl, closeParagraph, popThrough_ordinary hparagraph] at hbody
  exact take_ordinary hparagraph.space_eq hbody rfl

/-- The end of the text leaves all as it is. -/
theorem take_ending (hspace : (cells.getD id .document).space = .html) :
    (ordinary cells (id :: outer) formatting ok).take .ending =
      ordinary cells (id :: outer) formatting ok := by
  refine take_ordinary hspace ?_ rfl
  rw [bodyRule]
  exact if_pos rfl

end Builder

end SiteSearch.Html
