import SiteSearch.Markdown.Write
import SiteSearch.Proofs.Text.Escape

/-!
# Written HTML as tokens

What a document is written as is a list of tokens: texts, which are escaped, and tags, whose
attributes hold neither quotes nor angle brackets. `Inline.tokens` and `blockTokens` give the tokens
of a piece of the document; raw HTML is a text like any other there. Writing the tokens one after
another is writing the piece (`writeAll_tokens`, `writeAll_blockTokens`). Angle brackets stand only
at the two ends of a tag (`Tag.not_mem_inside`, `not_mem_bodyText`, `not_mem_escapeHtml`).
-/

set_option autoImplicit false
set_option relaxedAutoImplicit false

namespace SiteSearch.Markdown

open Text

/-! ### Tags -/

/-- A text without quotes and angle brackets. -/
structure TagText where
  text : List Char
  plain : ∀ c ∈ text, IsTagChar c

/-- The texts inside of tags that are always the same, names of elements apart. -/
inductive FixedText where
  | href
  | title
  | src
  | alt
  | disabled
  | checked
  | empty
  | type
  | checkbox
  | style
  | left
  | center
  | right
  | classes
  | language
  | start

/-- A fixed text as it is written. -/
def FixedText.text : FixedText → String
  | .href => "href"
  | .title => "title"
  | .src => "src"
  | .alt => "alt"
  | .disabled => "disabled"
  | .checked => "checked"
  | .empty => ""
  | .type => "type"
  | .checkbox => "checkbox"
  | .style => "style"
  | .left => "text-align: left"
  | .center => "text-align: center"
  | .right => "text-align: right"
  | .classes => "class"
  | .language => "language-"
  | .start => "start"

theorem isTagChar_of_mem_fixedText {t : FixedText} {c : Char} (h : c ∈ t.text.toList) :
    IsTagChar c := by
  cases t <;> exact of_mem_of_all h (by decide)

/-- A fixed text inside of a tag. -/
def TagText.of (t : FixedText) : TagText where
  text := t.text.toList
  plain := fun _ ↦ isTagChar_of_mem_fixedText

/-- An attribute. -/
structure Attribute where
  name : TagText
  value : TagText

/-- An attribute as it is written. -/
def Attribute.write (a : Attribute) : List Char :=
  ' ' :: a.name.text ++ '=' :: '"' :: a.value.text ++ ['"']

/-- The elements that are written, anchors apart. -/
inductive Element where
  | p
  | heading (level : Nat)
  | em
  | strong
  | del
  | code
  | pre
  | blockquote
  | ul
  | ol
  | li
  | img
  | table
  | thead
  | tbody
  | tr
  | th
  | td
  | hr
  | br
  | input
  | b
deriving DecidableEq, Repr

/-- The name of an element. -/
def Element.name : Element → String
  | .p => "p"
  | .heading level => "h" ++ .ofList (Nat.toDigits 10 level)
  | .em => "em"
  | .strong => "strong"
  | .del => "del"
  | .code => "code"
  | .pre => "pre"
  | .blockquote => "blockquote"
  | .ul => "ul"
  | .ol => "ol"
  | .li => "li"
  | .img => "img"
  | .table => "table"
  | .thead => "thead"
  | .tbody => "tbody"
  | .tr => "tr"
  | .th => "th"
  | .td => "td"
  | .hr => "hr"
  | .br => "br"
  | .input => "input"
  | .b => "b"

/-- A tag. An element without content has one tag, with a blank before its slash or without. -/
inductive Tag where
  | link (destination : TagText) (others : List Attribute)
  | linkEnd
  | opening (e : Element) (attributes : List Attribute)
  | closing (e : Element)
  | void (e : Element) (attributes : List Attribute) (blank : Bool)

/-- The name of the element of a tag. -/
def Tag.name : Tag → String
  | .link _ _ => "a"
  | .linkEnd => "a"
  | .opening e _ => e.name
  | .closing e => e.name
  | .void e _ _ => e.name

/-- What a tag holds behind its name. -/
def Tag.behindName : Tag → List Char
  | .link destination others =>
    Attribute.write ⟨.of .href, destination⟩ ++ others.flatMap Attribute.write
  | .linkEnd => []
  | .opening _ attributes => attributes.flatMap Attribute.write
  | .closing _ => []
  | .void _ attributes blank =>
    attributes.flatMap Attribute.write ++ if blank then [' ', '/'] else ['/']

/-- Whether a tag ends an element. -/
def Tag.ends : Tag → Bool
  | .linkEnd => true
  | .closing _ => true
  | _ => false

/-- What stands between the angle brackets of a tag. -/
def Tag.inside (t : Tag) : List Char :=
  (if t.ends then ['/'] else []) ++ t.name.toList ++ t.behindName

/-- A tag as it is written. -/
def Tag.write (t : Tag) : List Char :=
  '<' :: t.inside ++ ['>']

/-! ### Tokens -/

/-- A piece of HTML: a text, the title of a page, or a tag. -/
inductive Token where
  | text (s : List Char)
  | title (s : String)
  | tag (t : Tag)

/-- The opening tag of an element without attributes. -/
def Token.opening (e : Element) : Token := .tag (.opening e [])

/-- The closing tag of an element. -/
def Token.closing (e : Element) : Token := .tag (.closing e)

/-- The end of a line. -/
def Token.feed : Token := .text ['\n']

/-- A token as it is written. -/
def Token.write : Token → List Char
  | .text s => bodyText s
  | .title s => (escapeHtml s).toList
  | .tag t => t.write

/-- Tokens one after another. -/
def writeAll (ts : List Token) : List Char :=
  ts.flatMap Token.write

@[simp]
theorem writeAll_nil : writeAll [] = [] := rfl

@[simp]
theorem writeAll_cons (t : Token) (ts : List Token) :
    writeAll (t :: ts) = t.write ++ writeAll ts := rfl

@[simp]
theorem writeAll_append (ts ts' : List Token) :
    writeAll (ts ++ ts') = writeAll ts ++ writeAll ts' :=
  List.flatMap_append

/-! ### Escaped texts -/

/-- The attribute value that a text is written as. -/
def TagText.escaped (s : List Char) : TagText where
  text := attributeText s
  plain := fun _ h ↦
    let ⟨_, _, hd⟩ := List.mem_flatMap.mp h
    isTagChar_of_mem_escapeChar hd

/-- A character of a kind to which neither quotes nor angle brackets belong. -/
theorem isTagChar_of_kind {k : Char → Bool} (hquote : k '"' = false) (hopen : k '<' = false)
    (hclose : k '>' = false) {c : Char} (h : k c = true) : IsTagChar c := by
  have hne {d : Char} (hd : k d = false) : c ≠ d := by
    rintro rfl
    exact Bool.false_ne_true (hd.symm.trans h)
  exact ⟨hne hquote, hne hopen, hne hclose⟩

theorem isTagChar_hexUpper : ∀ n < 16, IsTagChar (Url.hexUpper n) := by
  decide

theorem isTagChar_of_mem_percentByte {b : UInt8} {d : Char} (h : d ∈ Url.percentByte b) :
    IsTagChar d := by
  simp only [Url.percentByte, List.mem_cons, List.not_mem_nil, or_false] at h
  obtain rfl | rfl | rfl := h
  · decide
  · exact isTagChar_hexUpper _ (Nat.div_lt_of_lt_mul b.toNat_lt)
  · exact isTagChar_hexUpper _ (Nat.mod_lt _ (by decide))

theorem isTagChar_of_mem_addressChar {c d : Char} (h : d ∈ addressChar c) : IsTagChar d := by
  unfold addressChar at h
  split at h
  · next hc =>
    obtain rfl := List.mem_singleton.mp h
    exact isTagChar_of_kind (by decide) (by decide) (by decide) hc
  · iterate 2
      split at h
      · exact of_mem_of_all h (by decide)
    obtain ⟨b, -, hd⟩ := List.mem_flatMap.mp h
    exact isTagChar_of_mem_percentByte hd

/-- The attribute value that an address is written as. -/
def TagText.address (s : List Char) : TagText where
  text := addressText s
  plain := fun _ h ↦
    let ⟨_, _, hd⟩ := List.mem_flatMap.mp h
    isTagChar_of_mem_addressChar hd

/-- The attribute value that a number is written as. -/
def TagText.number (n : Nat) : TagText where
  text := Nat.toDigits 10 n
  plain := fun _ h ↦ isTagChar_of_kind (k := Char.isDigit) rfl rfl rfl
    (Nat.isDigit_of_mem_toDigits (by decide) (by decide) h)

/-- A text behind a fixed front. -/
def TagText.append (s t : TagText) : TagText where
  text := s.text ++ t.text
  plain := fun c h ↦ (List.mem_append.mp h).elim (s.plain c) (t.plain c)

/-- No angle bracket stands in a text between tags. -/
theorem not_mem_bodyText (s : List Char) : '<' ∉ bodyText s ∧ '>' ∉ bodyText s := by
  have hchar : ∀ c, ∀ d ∈ bodyChar c, d ≠ '<' ∧ d ≠ '>' := by
    intro c d hd
    unfold bodyChar at hd
    split at hd
    · next hquote =>
      obtain rfl := List.mem_singleton.mp hd
      obtain rfl | rfl := hquote <;> decide
    · exact (isTagChar_of_mem_escapeChar hd).2
  simp only [bodyText, List.mem_flatMap, not_exists, not_and]
  exact ⟨fun c _ h ↦ (hchar c _ h).1 rfl, fun c _ h ↦ (hchar c _ h).2 rfl⟩

theorem not_mem_write_attribute (a : Attribute) : '<' ∉ a.write ∧ '>' ∉ a.write := by
  have hchar : ∀ c ∈ a.write, c ≠ '<' ∧ c ≠ '>' := by
    intro c h
    simp only [Attribute.write, List.mem_cons, List.mem_append, List.not_mem_nil, or_false,
      List.cons_append, or_assoc] at h
    obtain rfl | h | rfl | rfl | h | rfl := h
    · decide
    · exact (a.name.plain c h).2
    · decide
    · decide
    · exact (a.value.plain c h).2
    · decide
  exact ⟨fun h ↦ (hchar _ h).1 rfl, fun h ↦ (hchar _ h).2 rfl⟩

theorem not_mem_write_attributes (l : List Attribute) :
    '<' ∉ l.flatMap Attribute.write ∧ '>' ∉ l.flatMap Attribute.write := by
  simp only [List.mem_flatMap, not_exists, not_and]
  exact ⟨fun a _ ↦ (not_mem_write_attribute a).1, fun a _ ↦ (not_mem_write_attribute a).2⟩

theorem isTagChar_of_mem_name {e : Element} {c : Char} (h : c ∈ e.name.toList) : IsTagChar c := by
  cases e with
  | heading level =>
    have hname : c = 'h' ∨ c ∈ Nat.toDigits 10 level := by simpa [Element.name] using h
    obtain rfl | hdigit := hname
    · decide
    · exact (TagText.number level).plain c hdigit
  | _ => exact of_mem_of_all h (by decide)

/-- An angle bracket stands only at the two ends of a tag. -/
theorem Tag.not_mem_inside (t : Tag) : '<' ∉ t.inside ∧ '>' ∉ t.inside := by
  have hname : '<' ∉ t.name.toList ∧ '>' ∉ t.name.toList := by
    have helement (e : Element) : '<' ∉ e.name.toList ∧ '>' ∉ e.name.toList :=
      ⟨fun h ↦ (isTagChar_of_mem_name h).2.1 rfl, fun h ↦ (isTagChar_of_mem_name h).2.2 rfl⟩
    have hanchor : '<' ∉ "a".toList ∧ '>' ∉ "a".toList := by decide
    cases t with
    | link _ _ => exact hanchor
    | linkEnd => exact hanchor
    | opening e _ => exact helement e
    | closing e => exact helement e
    | void e _ _ => exact helement e
  have hbehind : '<' ∉ t.behindName ∧ '>' ∉ t.behindName := by
    cases t with
    | link destination others =>
      exact not_mem_write_attributes (⟨.of .href, destination⟩ :: others)
    | linkEnd => simp [behindName]
    | opening _ attributes => exact not_mem_write_attributes attributes
    | closing _ => simp [behindName]
    | void _ attributes blank =>
      obtain ⟨hlt, hgt⟩ := not_mem_write_attributes attributes
      cases blank <;> simp [behindName, hlt, hgt]
  simp only [inside, List.mem_append, not_or, hname, hbehind, not_false_eq_true, and_true]
  cases t.ends <;> decide

/-! ### The text of paragraphs -/

mutual

/-- The description of an image is a text for an attribute. -/
theorem isTagChar_of_mem_describe {c : Char} (i : Inline) (h : c ∈ describe i) : IsTagChar c := by
  match i with
  | .text s => exact (TagText.escaped s).plain c h
  | .code s => exact (TagText.escaped s).plain c h
  | .softBreak => rw [List.mem_singleton.mp h]; decide
  | .hardBreak => rw [List.mem_singleton.mp h]; decide
  | .emphasis content => exact isTagChar_of_mem_describeAll content h
  | .strong content => exact isTagChar_of_mem_describeAll content h
  | .struck content => exact isTagChar_of_mem_describeAll content h
  | .link _ _ content => exact isTagChar_of_mem_describeAll content h
  | .image _ _ content => exact isTagChar_of_mem_describeAll content h

theorem isTagChar_of_mem_describeAll {c : Char} (is : List Inline) (h : c ∈ describeAll is) :
    IsTagChar c := by
  match is with
  | [] => cases h
  | i :: is =>
    obtain h | h := List.mem_append.mp h
    · exact isTagChar_of_mem_describe i h
    · exact isTagChar_of_mem_describeAll is h

end

/-- The attribute value that describes an image. -/
def TagText.description (content : List Inline) : TagText where
  text := describeAll content
  plain := fun _ ↦ isTagChar_of_mem_describeAll content

/-- The attribute with the title of a link, if it has one. -/
def titleAttributes (title : List Char) : List Attribute :=
  if title = [] then [] else [⟨.of .title, .escaped title⟩]

mutual

/-- The tokens of a piece of text. -/
def Inline.tokens : Inline → List Token
  | .text s => [.text s]
  | .code s => [.opening .code, .text s, .closing .code]
  | .softBreak => [.feed]
  | .hardBreak => [.tag (.void .br [] true), .feed]
  | .emphasis content => .opening .em :: inlineTokens content ++ [.closing .em]
  | .strong content => .opening .strong :: inlineTokens content ++ [.closing .strong]
  | .struck content => .opening .del :: inlineTokens content ++ [.closing .del]
  | .link destination title content =>
    .tag (.link (.address destination) (titleAttributes title)) :: inlineTokens content ++
      [.tag .linkEnd]
  | .image destination title content =>
    [.tag (.void .img (⟨.of .src, .address destination⟩ :: ⟨.of .alt, .description content⟩ ::
      titleAttributes title) true)]

/-- The tokens of several pieces of text. -/
def inlineTokens : List Inline → List Token
  | [] => []
  | i :: is => i.tokens ++ inlineTokens is

end

theorem write_text (s : List Char) : (Token.text s).write = bodyText s := rfl

theorem write_title (s : String) : (Token.title s).write = (escapeHtml s).toList := rfl

theorem write_feed : Token.feed.write = ['\n'] := by
  decide

theorem write_opening (e : Element) : (Token.opening e).write = '<' :: e.name.toList ++ ['>'] := by
  simp [Token.opening, Token.write, Tag.write, Tag.inside, Tag.ends, Tag.name, Tag.behindName]

theorem write_closing (e : Element) :
    (Token.closing e).write = '<' :: '/' :: e.name.toList ++ ['>'] := by
  simp [Token.closing, Token.write, Tag.write, Tag.inside, Tag.ends, Tag.name, Tag.behindName]

theorem write_linkEnd : (Token.tag .linkEnd).write = ['<', '/', 'a', '>'] := rfl

theorem write_link (destination : TagText) (others : List Attribute) :
    (Token.tag (.link destination others)).write =
      "<a href=\"".toList ++ destination.text ++ '"' :: others.flatMap Attribute.write ++
        ['>'] := by
  simp [Token.write, Tag.write, Tag.inside, Tag.ends, Tag.name, Tag.behindName, Attribute.write,
    TagText.of, FixedText.text]

theorem write_void (e : Element) (attributes : List Attribute) (blank : Bool) :
    (Token.tag (.void e attributes blank)).write =
      '<' :: e.name.toList ++ attributes.flatMap Attribute.write ++
        if blank then [' ', '/', '>'] else ['/', '>'] := by
  cases blank <;>
    simp [Token.write, Tag.write, Tag.inside, Tag.ends, Tag.name, Tag.behindName]

theorem write_attribute (name : FixedText) (value : TagText) :
    Attribute.write ⟨.of name, value⟩ =
      ' ' :: name.text.toList ++ '=' :: '"' :: value.text ++ ['"'] := rfl

theorem text_of (t : FixedText) : (TagText.of t).text = t.text.toList := rfl

theorem write_titleAttributes (title : List Char) :
    (titleAttributes title).flatMap Attribute.write = titleAttribute title := by
  unfold titleAttributes titleAttribute
  split
  · rfl
  · simp [write_attribute, FixedText.text, TagText.escaped]

/-- An element as it is written. -/
theorem writeAll_element (e : Element) (ts : List Token) :
    writeAll (.opening e :: ts ++ [.closing e]) =
      '<' :: e.name.toList ++ '>' :: writeAll ts ++ '<' :: '/' :: e.name.toList ++ ['>'] := by
  simp [write_opening, write_closing]

mutual

theorem writeAll_tokens (i : Inline) : writeAll i.tokens = writeInline i := by
  match i with
  | .text s => exact List.append_nil _
  | .code s =>
    change writeAll [.opening .code, .text s, .closing .code] =
      "<code>".toList ++ bodyText s ++ "</code>".toList
    simp [write_opening, write_closing, write_text, Element.name]
  | .softBreak =>
    change writeAll [.feed] = ['\n']
    simp [write_feed]
  | .hardBreak =>
    change writeAll [.tag (.void .br [] true), .feed] = "<br />\n".toList
    simp [write_feed, write_void, Element.name]
  | .emphasis content =>
    change writeAll (.opening .em :: inlineTokens content ++ [.closing .em]) =
      "<em>".toList ++ writeInlines content ++ "</em>".toList
    rw [writeAll_element, writeAll_inlineTokens content]
    simp [Element.name]
  | .strong content =>
    change writeAll (.opening .strong :: inlineTokens content ++ [.closing .strong]) =
      "<strong>".toList ++ writeInlines content ++ "</strong>".toList
    rw [writeAll_element, writeAll_inlineTokens content]
    simp [Element.name]
  | .struck content =>
    change writeAll (.opening .del :: inlineTokens content ++ [.closing .del]) =
      "<del>".toList ++ writeInlines content ++ "</del>".toList
    rw [writeAll_element, writeAll_inlineTokens content]
    simp [Element.name]
  | .link destination title content =>
    change writeAll (.tag (.link (.address destination) (titleAttributes title)) ::
        inlineTokens content ++ [.tag .linkEnd]) =
      "<a href=\"".toList ++ addressText destination ++ '"' :: titleAttribute title ++ '>' ::
        writeInlines content ++ "</a>".toList
    simp [write_link, write_linkEnd, write_titleAttributes, TagText.address,
      writeAll_inlineTokens content]
  | .image destination title content =>
    change writeAll [.tag (.void .img (⟨.of .src, .address destination⟩ ::
        ⟨.of .alt, .description content⟩ :: titleAttributes title) true)] =
      "<img src=\"".toList ++ addressText destination ++ "\" alt=\"".toList ++
        describeAll content ++ '"' :: titleAttribute title ++ " />".toList
    simp [write_void, Element.name, write_attribute, FixedText.text, write_titleAttributes,
      TagText.address, TagText.description]

theorem writeAll_inlineTokens (is : List Inline) :
    writeAll (inlineTokens is) = writeInlines is := by
  match is with
  | [] => rfl
  | i :: is =>
    change writeAll (i.tokens ++ inlineTokens is) = writeInline i ++ writeInlines is
    rw [writeAll_append, writeAll_tokens i, writeAll_inlineTokens is]

end

/-- The tokens of the content of a paragraph, a heading or a cell. -/
def textTokens (defs : List Definition) (s : List Char) : List Token :=
  inlineTokens (readInline defs s)

theorem writeAll_textTokens (defs : List Definition) (s : List Char) :
    writeAll (textTokens defs s) = writeText defs s :=
  writeAll_inlineTokens _

/-! ### Blocks -/

/-- The tokens of the box of a task. -/
def taskTokens (checked : Bool) : List Token :=
  let attributes : List Attribute :=
    [⟨.of .disabled, .of .empty⟩, ⟨.of .type, .of .checkbox⟩] ++
      if checked then [⟨.of .checked, .of .empty⟩] else []
  [.tag (.void .input attributes false), .feed]

/-- The tokens of the box of a task, if there is one. -/
def taskTokens? : Option Bool → List Token
  | none => []
  | some checked => taskTokens checked

theorem writeAll_taskTokens (checked : Bool) :
    writeAll (taskTokens checked) = writeTask checked := by
  cases checked <;>
    simp [taskTokens, writeTask, write_feed, write_void, write_attribute, FixedText.text,
      Element.name, text_of]

theorem writeAll_taskTokens? (task : Option Bool) :
    writeAll (taskTokens? task) = writeTask? task := by
  cases task with
  | none => rfl
  | some checked => exact writeAll_taskTokens checked

/-- The attribute with the style of a cell, if it has one. -/
def cellAttributes : Alignment → List Attribute
  | .none => []
  | .left => [⟨.of .style, .of .left⟩]
  | .center => [⟨.of .style, .of .center⟩]
  | .right => [⟨.of .style, .of .right⟩]

theorem write_cellAttributes (column : Alignment) :
    (cellAttributes column).flatMap Attribute.write = cellStyle column := by
  have hstyle (value : FixedText) :
      [(⟨.of .style, .of value⟩ : Attribute)].flatMap Attribute.write =
        " style=\"".toList ++ value.text.toList ++ ['"'] := by
    simp [write_attribute, text_of, FixedText.text]
  cases column with
  | none => rfl
  | left => exact (hstyle _).trans (by decide)
  | center => exact (hstyle _).trans (by decide)
  | right => exact (hstyle _).trans (by decide)

/-- The tokens of the cells of a row in the given element. -/
def cellTokens (defs : List Definition) (e : Element) :
    List Alignment → List (List Char) → List Token
  | column :: columns, cell :: cells =>
    .tag (.opening e (cellAttributes column)) :: textTokens defs cell ++
      .closing e :: cellTokens defs e columns cells
  | _, _ => []

theorem write_openingWith (e : Element) (attributes : List Attribute) :
    (Token.tag (.opening e attributes)).write =
      '<' :: e.name.toList ++ attributes.flatMap Attribute.write ++ ['>'] := by
  simp [Token.write, Tag.write, Tag.inside, Tag.ends, Tag.name, Tag.behindName]

theorem writeAll_cellTokens (defs : List Definition) (e : Element) (columns : List Alignment)
    (cells : List (List Char)) :
    writeAll (cellTokens defs e columns cells) = writeCells defs e.name.toList columns cells := by
  fun_induction cellTokens defs e columns cells with
  | case1 column columns cell cells ih =>
    rw [writeCells]
    simp [write_openingWith, write_closing, write_cellAttributes, writeAll_textTokens, ih]
  | case2 columns cells h =>
    rw [writeCells]
    · rfl
    · exact h

/-- The tokens of a row of a table. -/
def rowTokens (defs : List Definition) (columns : List Alignment) (cells : List (List Char)) :
    List Token :=
  .opening .tr :: cellTokens defs .td columns cells ++ [.closing .tr, .feed]

/-- The tokens of a table. -/
def tableTokens (defs : List Definition) (columns : List Alignment) (header : List (List Char))
    (rows : List (List (List Char))) : List Token :=
  [.opening .table, .opening .thead, .opening .tr] ++ cellTokens defs .th columns header ++
    [.closing .tr, .closing .thead, .opening .tbody, .feed] ++
    rows.flatMap (rowTokens defs columns) ++ [.closing .tbody, .closing .table, .feed]

theorem writeAll_flatMap {α : Type} (f : α → List Token) (l : List α) :
    writeAll (l.flatMap f) = l.flatMap fun a ↦ writeAll (f a) :=
  List.flatMap_assoc

theorem writeAll_rowTokens (defs : List Definition) (columns : List Alignment)
    (cells : List (List Char)) :
    writeAll (rowTokens defs columns cells) = writeRow defs columns cells := by
  change _ = "<tr>".toList ++ writeCells defs "td".toList columns cells ++ "</tr>\n".toList
  simp [rowTokens, write_opening, write_closing, write_feed, writeAll_cellTokens, Element.name]

theorem writeAll_tableTokens (defs : List Definition) (columns : List Alignment)
    (header : List (List Char)) (rows : List (List (List Char))) :
    writeAll (tableTokens defs columns header rows) = writeTable defs columns header rows := by
  have hrows : writeAll (rows.flatMap (rowTokens defs columns)) =
      rows.flatMap (writeRow defs columns) := by
    rw [writeAll_flatMap]
    simp only [writeAll_rowTokens]
  change _ = "<table><thead><tr>".toList ++ writeCells defs "th".toList columns header ++
    "</tr></thead><tbody>\n".toList ++ rows.flatMap (writeRow defs columns) ++
    "</tbody></table>\n".toList
  simp [tableTokens, write_opening, write_closing, write_feed, writeAll_cellTokens, Element.name,
    hrows]

/-- The attribute with the language of a piece of code, if it has one. -/
def codeAttributes (language : List Char) : List Attribute :=
  if language = [] then [] else [⟨.of .classes, (TagText.of .language).append (.escaped language)⟩]

/-- The element of a list, and the attribute with its first number. -/
def listElement : Option Nat → Element × List Attribute
  | none => (.ul, [])
  | some 1 => (.ol, [])
  | some n => (.ol, [⟨.of .start, .number n⟩])

/-- A line end, unless the output stands at the start of a line. -/
def freshTokens (atStart : Bool) : List Token :=
  if atStart then [] else [.feed]

theorem writeAll_freshTokens (atStart : Bool) :
    writeAll (freshTokens atStart) = freshLine atStart := by
  cases atStart <;> simp [freshTokens, freshLine, write_feed]

theorem write_codeAttributes (language : List Char) :
    writeAll [.opening .pre, .tag (.opening .code (codeAttributes language))] =
      codeOpening language := by
  unfold codeAttributes codeOpening
  split <;>
    simp [write_opening, write_openingWith, write_attribute, FixedText.text, Element.name, text_of,
      TagText.append, TagText.escaped]

theorem write_listElement (start : Option Nat) :
    writeAll [.tag (.opening (listElement start).1 (listElement start).2), .feed] =
        (listOpening start).2 ∧
      (listElement start).1.name.toList = (listOpening start).1 := by
  match start with
  | none => simp [listElement, listOpening, write_openingWith, write_feed, Element.name]
  | some 1 => simp [listElement, listOpening, write_openingWith, write_feed, Element.name]
  | some 0 =>
    simp [listElement, listOpening, write_openingWith, write_feed, write_attribute,
      FixedText.text, Element.name, TagText.number]
  | some (n + 2) =>
    simp [listElement, listOpening, write_openingWith, write_feed, write_attribute,
      FixedText.text, Element.name, TagText.number]

mutual

/-- The tokens of a block. Raw HTML is a text. -/
def blockTokens (defs : List Definition) (tight atStart : Bool) : Block → List Token
  | .paragraph task s =>
    if tight then taskTokens? task ++ textTokens defs s
    else freshTokens atStart ++ .opening .p :: taskTokens? task ++ textTokens defs s ++
      [.closing .p, .feed]
  | .task checked => taskTokens checked
  | .heading level task s =>
    freshTokens atStart ++ .opening (.heading level) :: taskTokens? task ++ textTokens defs s ++
      [.closing (.heading level), .feed]
  | .rule => freshTokens atStart ++ [.tag (.void .hr [] true), .feed]
  | .code language s =>
    freshTokens atStart ++ [.opening .pre, .tag (.opening .code (codeAttributes language))] ++
      [.text s, .closing .code, .closing .pre, .feed]
  | .html s => [.text s]
  | .quote content =>
    freshTokens atStart ++ [.opening .blockquote, .feed] ++ blocksTokens defs false true content ++
      [.closing .blockquote, .feed]
  | .list start tight items =>
    freshTokens atStart ++ [.tag (.opening (listElement start).1 (listElement start).2), .feed] ++
      itemTokens defs tight items ++ [.closing (listElement start).1, .feed]
  | .table columns header rows => tableTokens defs columns header rows

/-- The tokens of blocks one after another. -/
def blocksTokens (defs : List Definition) (tight atStart : Bool) : List Block → List Token
  | [] => []
  | b :: bs =>
    let ts := blockTokens defs tight atStart b
    ts ++ blocksTokens defs tight (startAfter atStart (writeAll ts)) bs

/-- The tokens of the items of a list. -/
def itemTokens (defs : List Definition) (tight : Bool) : List (List Block) → List Token
  | [] => []
  | item :: items =>
    .opening .li :: blocksTokens defs tight false item ++ [.closing .li, .feed] ++
      itemTokens defs tight items

end

mutual

theorem writeAll_blockTokens (defs : List Definition) (tight atStart : Bool) (b : Block) :
    writeAll (blockTokens defs tight atStart b) = writeBlock defs tight atStart b := by
  match b with
  | .paragraph task s =>
    cases tight with
    | true =>
      change writeAll (taskTokens? task ++ textTokens defs s) = writeTask? task ++ writeText defs s
      rw [writeAll_append, writeAll_taskTokens?, writeAll_textTokens]
    | false =>
      change writeAll (freshTokens atStart ++ .opening .p :: taskTokens? task ++
          textTokens defs s ++ [.closing .p, .feed]) =
        freshLine atStart ++ "<p>".toList ++ writeTask? task ++ writeText defs s ++ "</p>\n".toList
      simp [writeAll_freshTokens, writeAll_taskTokens?, writeAll_textTokens, write_opening,
        write_closing, write_feed, Element.name]
  | .task checked => exact writeAll_taskTokens checked
  | .heading level task s =>
    change writeAll (freshTokens atStart ++ .opening (.heading level) :: taskTokens? task ++
        textTokens defs s ++ [.closing (.heading level), .feed]) =
      let name := 'h' :: Nat.toDigits 10 level
      freshLine atStart ++ '<' :: name ++ '>' :: writeTask? task ++ writeText defs s ++
        '<' :: '/' :: name ++ ">\n".toList
    simp [writeAll_freshTokens, writeAll_taskTokens?, writeAll_textTokens, write_opening,
      write_closing, write_feed, Element.name]
  | .rule =>
    change writeAll (freshTokens atStart ++ [.tag (.void .hr [] true), .feed]) =
      freshLine atStart ++ "<hr />\n".toList
    simp [writeAll_freshTokens, write_void, write_feed, Element.name]
  | .code language s =>
    change writeAll (freshTokens atStart ++
        [.opening .pre, .tag (.opening .code (codeAttributes language))] ++
        [.text s, .closing .code, .closing .pre, .feed]) =
      freshLine atStart ++ codeOpening language ++ bodyText s ++ "</code></pre>\n".toList
    rw [writeAll_append, writeAll_append, write_codeAttributes]
    simp [writeAll_freshTokens, write_text, write_closing, write_feed, Element.name]
  | .html s => exact List.append_nil _
  | .quote content =>
    change writeAll (freshTokens atStart ++ [.opening .blockquote, .feed] ++
        blocksTokens defs false true content ++ [.closing .blockquote, .feed]) =
      freshLine atStart ++ "<blockquote>\n".toList ++ writeBlocks defs false true content ++
        "</blockquote>\n".toList
    simp [writeAll_freshTokens, writeAll_blocksTokens defs false true content, write_opening,
      write_closing, write_feed, Element.name]
  | .list start tight items =>
    change writeAll (freshTokens atStart ++
        [.tag (.opening (listElement start).1 (listElement start).2), .feed] ++
        itemTokens defs tight items ++ [.closing (listElement start).1, .feed]) =
      freshLine atStart ++ (listOpening start).2 ++ writeItems defs tight items ++
        '<' :: '/' :: (listOpening start).1 ++ ">\n".toList
    obtain ⟨hopening, hname⟩ := write_listElement start
    rw [writeAll_append, writeAll_append, writeAll_append, hopening, ← hname]
    simp [writeAll_freshTokens, writeAll_itemTokens defs tight items, write_closing, write_feed]
  | .table columns header rows => exact writeAll_tableTokens defs columns header rows

theorem writeAll_blocksTokens (defs : List Definition) (tight atStart : Bool) (bs : List Block) :
    writeAll (blocksTokens defs tight atStart bs) = writeBlocks defs tight atStart bs := by
  match bs with
  | [] => rfl
  | b :: bs =>
    change writeAll (blockTokens defs tight atStart b ++ blocksTokens defs tight
        (startAfter atStart (writeAll (blockTokens defs tight atStart b))) bs) =
      writeBlock defs tight atStart b ++
        writeBlocks defs tight (startAfter atStart (writeBlock defs tight atStart b)) bs
    rw [writeAll_append, writeAll_blockTokens defs tight atStart b,
      writeAll_blocksTokens defs tight _ bs]

theorem writeAll_itemTokens (defs : List Definition) (tight : Bool) (items : List (List Block)) :
    writeAll (itemTokens defs tight items) = writeItems defs tight items := by
  match items with
  | [] => rfl
  | item :: items =>
    change writeAll (.opening .li :: blocksTokens defs tight false item ++ [.closing .li, .feed] ++
        itemTokens defs tight items) =
      "<li>".toList ++ writeBlocks defs tight false item ++ "</li>\n".toList ++
        writeItems defs tight items
    simp [writeAll_blocksTokens defs tight false item, writeAll_itemTokens defs tight items,
      write_opening, write_closing, write_feed, Element.name]

end

/-- The tokens of a document. -/
def documentTokens (text : String) : List Token :=
  let (blocks, defs) := readDocument text.toList
  blocksTokens defs false true blocks

theorem toList_toHtml (text : String) : (toHtml text).toList = writeAll (documentTokens text) := by
  rw [toHtml, String.toList_ofList, documentTokens, writeAll_blocksTokens]

end SiteSearch.Markdown
