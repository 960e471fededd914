import SiteSearch.Proofs.Markdown.Sorting
import SiteSearch.Proofs.Markdown.Tokens

/-!
# The tags of a document

All tags of a document are of a few elements (`tagNames`), since its headings have levels from one
to six (`allKnown_documentTokens`).
-/

set_option autoImplicit false
set_option relaxedAutoImplicit false

namespace SiteSearch.Markdown

/-- The elements of documents. -/
def tagNames : List String := [
  "p", "h1", "h2", "h3", "h4", "h5", "h6", "em", "strong", "del", "code", "pre", "blockquote",
  "ul", "ol", "li", "a", "img", "table", "thead", "tbody", "tr", "th", "td", "hr", "br", "input"]

/-- Whether a token is a text or a tag of one of these elements. -/
def Token.Known : Token → Prop
  | .tag t => t.name ∈ tagNames
  | _ => True

instance : DecidablePred Token.Known
  | .tag t => inferInstanceAs (Decidable (t.name ∈ tagNames))
  | .text _ => isTrue trivial
  | .title _ => isTrue trivial

/-- Whether all tokens are. -/
def AllKnown (ts : List Token) : Prop :=
  ∀ t ∈ ts, t.Known

instance (ts : List Token) : Decidable (AllKnown ts) :=
  inferInstanceAs (Decidable (∀ t ∈ ts, t.Known))

theorem allKnown_nil : AllKnown [] := by
  decide

theorem AllKnown.cons {ts : List Token} (h : AllKnown ts) {t : Token} (ht : t.Known) :
    AllKnown (t :: ts) :=
  List.forall_mem_cons.mpr ⟨ht, h⟩

theorem AllKnown.append {ts ts' : List Token} (h : AllKnown ts) (h' : AllKnown ts') :
    AllKnown (ts ++ ts') :=
  List.forall_mem_append.mpr ⟨h, h'⟩

theorem AllKnown.flatMap {α : Type} {f : α → List Token} (h : ∀ a, AllKnown (f a)) (l : List α) :
    AllKnown (l.flatMap f) := fun t ht ↦
  let ⟨a, _, hta⟩ := List.mem_flatMap.mp ht
  h a t hta

theorem allKnown_text (s : List Char) : AllKnown [.text s] :=
  List.forall_mem_singleton.mpr trivial

theorem allKnown_tag {t : Tag} (h : t.name ∈ tagNames) : AllKnown [.tag t] :=
  List.forall_mem_singleton.mpr h

/-! ### Texts -/

/-- Such tokens between the tags of an element of the list. -/
theorem AllKnown.element {ts : List Token} (h : AllKnown ts) {e : Element}
    (he : e.name ∈ tagNames) : AllKnown (.opening e :: ts ++ [.closing e]) :=
  AllKnown.append (h.cons he) (allKnown_tag he)

mutual

theorem allKnown_tokens (i : Inline) : AllKnown i.tokens := by
  match i with
  | .text s => exact allKnown_text s
  | .code s => exact (allKnown_text s).element (e := .code) (by decide)
  | .softBreak => exact allKnown_text _
  | .hardBreak =>
    have hname : Element.br.name ∈ tagNames := by decide
    exact (allKnown_text _).cons hname
  | .emphasis content => exact (allKnown_inlineTokens content).element (e := .em) (by decide)
  | .strong content => exact (allKnown_inlineTokens content).element (e := .strong) (by decide)
  | .struck content => exact (allKnown_inlineTokens content).element (e := .del) (by decide)
  | .link destination title content =>
    have hname : "a" ∈ tagNames := by decide
    exact AllKnown.append ((allKnown_inlineTokens content).cons hname) (allKnown_tag hname)
  | .image destination title content =>
    have hname : Element.img.name ∈ tagNames := by decide
    exact allKnown_tag hname

theorem allKnown_inlineTokens (is : List Inline) : AllKnown (inlineTokens is) := by
  match is with
  | [] => exact allKnown_nil
  | i :: is => exact (allKnown_tokens i).append (allKnown_inlineTokens is)

end

theorem allKnown_textTokens (defs : List Definition) (s : List Char) :
    AllKnown (textTokens defs s) :=
  allKnown_inlineTokens _

/-! ### Blocks -/

theorem allKnown_freshTokens (atStart : Bool) : AllKnown (freshTokens atStart) := by
  cases atStart <;> decide

theorem allKnown_taskTokens (checked : Bool) : AllKnown (taskTokens checked) := by
  cases checked <;> decide

theorem allKnown_taskTokens? (task : Option Bool) : AllKnown (taskTokens? task) := by
  cases task with
  | none => decide
  | some checked => exact allKnown_taskTokens checked

theorem allKnown_cellTokens (defs : List Definition) {e : Element} (he : e.name ∈ tagNames)
    (columns : List Alignment) (cells : List (List Char)) :
    AllKnown (cellTokens defs e columns cells) := by
  fun_induction cellTokens defs e columns cells with
  | case1 column columns cell cells ih =>
    exact AllKnown.append ((allKnown_textTokens defs cell).cons he) (ih.cons he)
  | case2 columns cells => decide

theorem allKnown_rowTokens (defs : List Definition) (columns : List Alignment)
    (cells : List (List Char)) : AllKnown (rowTokens defs columns cells) :=
  have hcells := allKnown_cellTokens defs (e := .td) (by decide) columns cells
  AllKnown.append (hcells.cons (t := .opening .tr) (by decide)) (by decide)

theorem allKnown_tableTokens (defs : List Definition) (columns : List Alignment)
    (header : List (List Char)) (rows : List (List (List Char))) :
    AllKnown (tableTokens defs columns header rows) := by
  have hheader := allKnown_cellTokens defs (e := .th) (by decide) columns header
  have hrows := AllKnown.flatMap (allKnown_rowTokens defs columns) rows
  refine .append (.append (.append (.append ?_ hheader) ?_) hrows) ?_
  all_goals decide

theorem listElement_name_mem (start : Option Nat) : (listElement start).1.name ∈ tagNames := by
  have hul : Element.ul.name ∈ tagNames := by decide
  have hol : Element.ol.name ∈ tagNames := by decide
  unfold listElement
  split
  · exact hul
  · exact hol
  · exact hol

theorem heading_name_mem {level : Nat} (low : 1 ≤ level) (high : level ≤ 6) :
    (Element.heading level).name ∈ tagNames := by
  have hlevel : ∀ n < 7, 1 ≤ n → (Element.heading n).name ∈ tagNames := by decide
  exact hlevel level (by omega) low

theorem allKnown_blocksTokens {bs : List Block} (defs : List Definition) (tight atStart : Bool)
    (h : ∀ b ∈ bs, ∀ tight atStart, AllKnown (blockTokens defs tight atStart b)) :
    AllKnown (blocksTokens defs tight atStart bs) := by
  induction bs generalizing atStart with
  | nil => exact allKnown_nil
  | cons b bs ih =>
    rw [List.forall_mem_cons] at h
    exact AllKnown.append (h.1 tight atStart) (ih _ h.2)

theorem allKnown_itemTokens {items : List (List Block)} (defs : List Definition) (tight : Bool)
    (h : ∀ item ∈ items, ∀ b ∈ item, ∀ tight atStart,
      AllKnown (blockTokens defs tight atStart b)) :
    AllKnown (itemTokens defs tight items) := by
  induction items with
  | nil => exact allKnown_nil
  | cons item items ih =>
    rw [List.forall_mem_cons] at h
    have hitem := allKnown_blocksTokens defs tight false h.1
    exact AllKnown.append (AllKnown.append (hitem.cons (t := .opening .li) (by decide)) (by decide))
      (ih h.2)

/-- A piece of its own between a line end, if there is to be one, and what closes it. -/
theorem AllKnown.framed {front ts back : List Token} (h : AllKnown ts) (atStart : Bool)
    (hfront : AllKnown front) (hback : AllKnown back) :
    AllKnown (freshTokens atStart ++ front ++ ts ++ back) :=
  (((allKnown_freshTokens atStart).append hfront).append h).append hback

/-- The tags of a block are of the listed elements if its headings have levels from one to six. -/
theorem allKnown_blockTokens {b : Block} (h : b.Proper) (defs : List Definition)
    (tight atStart : Bool) : AllKnown (blockTokens defs tight atStart b) := by
  have hfeed : AllKnown [.feed] := by decide
  induction h generalizing tight atStart with
  | paragraph task s =>
    have htext := allKnown_textTokens defs s
    have htask := allKnown_taskTokens? task
    cases tight with
    | true => exact htask.append htext
    | false => exact htext.framed atStart (htask.cons (t := .opening .p) (by decide)) (by decide)
  | task checked => exact allKnown_taskTokens checked
  | heading level task s low high =>
    have hname : (Token.closing (.heading level)).Known := heading_name_mem low high
    have hfront := (allKnown_taskTokens? task).cons (t := .opening (.heading level)) hname
    exact (allKnown_textTokens defs s).framed atStart hfront (hfeed.cons hname)
  | rule => exact (allKnown_freshTokens atStart).append (by decide)
  | code language s =>
    have hname : Element.code.name ∈ tagNames := by decide
    have hopening := (allKnown_tag (t := .opening .code (codeAttributes language)) hname).cons
      (t := .opening .pre) (by decide)
    have hclosing : AllKnown [.closing .code, .closing .pre, .feed] := by decide
    exact ((allKnown_freshTokens atStart).append hopening).append
      (hclosing.cons (t := .text s) trivial)
  | html s => exact allKnown_text s
  | quote content inner ih =>
    exact (allKnown_blocksTokens defs false true ih).framed atStart
      (by decide : AllKnown [.opening .blockquote, .feed]) (by decide)
  | list start tight' items inner ih =>
    have hname : (Token.closing (listElement start).1).Known := listElement_name_mem start
    have hfront := hfeed.cons
      (t := .tag (.opening (listElement start).1 (listElement start).2)) hname
    exact (allKnown_itemTokens defs tight' ih).framed atStart hfront (hfeed.cons hname)
  | table columns header rows => exact allKnown_tableTokens defs columns header rows

/-- All tags of a document are of the listed elements. -/
theorem allKnown_documentTokens (text : String) : AllKnown (documentTokens text) :=
  allKnown_blocksTokens _ _ _ fun b hb ↦
    allKnown_blockTokens (proper_of_mem_readDocument text.toList b hb) _

end SiteSearch.Markdown
