import SiteSearch.Proofs.Markdown.Vocabulary
import SiteSearch.Proofs.Site.Retitling

/-!
# What a panel shows as markup

The HTML of an answer is written from tokens, and rewriting its anchors works on these: an anchor is
found where there is a link with an end behind it (`anchor?_writeAll`), and what stands between them
is exchanged for the tokens of a title or stays (`exists_retitles`). So each angle bracket of what a
panel shows belongs to a tag of the document or to one that marks a title
(`rewrite_toHtml_markup`).
-/

set_option autoImplicit false
set_option relaxedAutoImplicit false

namespace SiteSearch.Site

open Markdown Text

/-! ### The end of a link -/

/-- The tokens cut behind the first end of a link, which is left out. -/
def cutLink? : List Token → Option (List Token × List Token)
  | [] => none
  | .tag .linkEnd :: ts => some ([], ts)
  | t :: ts => (cutLink? ts).map fun (inner, rest) ↦ (t :: inner, rest)

theorem eq_of_cutLink? {ts inner rest : List Token} (h : cutLink? ts = some (inner, rest)) :
    ts = inner ++ .tag .linkEnd :: rest := by
  fun_induction cutLink? ts generalizing inner with
  | case1 => cases h
  | case2 ts =>
    cases h
    rfl
  | case3 t ts hend ih =>
    obtain ⟨⟨inner', rest'⟩, hcut, heq⟩ := Option.map_eq_some_iff.mp h
    cases heq
    rw [ih hcut]
    rfl

/-- The names of elements start with a letter other than that of anchors. -/
theorem exists_name_eq_cons (e : Element) : ∃ c s, e.name.toList = c :: s ∧ c ≠ 'a' ∧ c ≠ '/' := by
  cases e with
  | heading level => exact ⟨'h', Nat.toDigits 10 level, by simp [Element.name], by decide⟩
  | _ => exact ⟨_, _, rfl, by decide⟩

/-- A text without the character starts with no more than itself. -/
theorem eq_of_prefix_append {c : Char} {p x y : List Char} (hp : c ∉ p) (hx : c ∉ x)
    (h : p ++ [c] <+: x ++ c :: y) : p = x := by
  induction p generalizing x with
  | nil =>
    cases x with
    | nil => rfl
    | cons d x =>
      obtain ⟨t, ht⟩ := h
      obtain ⟨rfl, -⟩ := List.cons.inj ht
      exact absurd List.mem_cons_self hx
  | cons d p ih =>
    cases x with
    | nil =>
      obtain ⟨t, ht⟩ := h
      obtain ⟨rfl, -⟩ := List.cons.inj ht
      exact absurd List.mem_cons_self hp
    | cons d' x =>
      obtain ⟨rfl, hrest⟩ := List.cons_prefix_cons.mp h
      rw [ih (fun hc ↦ hp (List.mem_cons_of_mem d hc)) (fun hc ↦ hx (List.mem_cons_of_mem d hc))
        hrest]

theorem inside_link (destination : TagText) (others : List Attribute) :
    (Tag.link destination others).inside =
      'a' :: (Attribute.write ⟨.of .href, destination⟩ ++ others.flatMap Attribute.write) := by
  simp [Tag.inside, Tag.ends, Tag.name, Tag.behindName]

/-- Only the end of a link is written as one. -/
theorem eq_linkEnd {t : Tag} (h : t.inside = ['/', 'a']) : t = .linkEnd := by
  cases t with
  | link destination others =>
    rw [inside_link] at h
    exact absurd (List.cons.inj h).1 (by decide)
  | linkEnd => rfl
  | opening e attributes =>
    obtain ⟨c, s, hname, -, hslash⟩ := exists_name_eq_cons e
    rw [Tag.inside, Tag.name, hname] at h
    exact absurd (List.cons.inj h).1 hslash
  | closing e =>
    obtain ⟨c, s, hname, ha, -⟩ := exists_name_eq_cons e
    rw [Tag.inside, Tag.name, hname] at h
    exact absurd (List.cons.inj (List.cons.inj h).2).1 ha
  | void e attributes blank =>
    obtain ⟨c, s, hname, -, hslash⟩ := exists_name_eq_cons e
    rw [Tag.inside, Tag.name, hname] at h
    exact absurd (List.cons.inj h).1 hslash

theorem write_tag_append (t : Tag) (s : List Char) :
    (Token.tag t).write ++ s = '<' :: (t.inside ++ ['>'] ++ s) := by
  simp [Token.write, Tag.write]

theorem write_linkEnd_append (s : List Char) :
    (Token.tag .linkEnd).write ++ s = anchorClosing ++ s := rfl

theorem lt_not_mem_inside_append (t : Tag) : '<' ∉ t.inside ++ ['>'] := by
  rw [List.mem_append, not_or]
  exact ⟨t.not_mem_inside.1, by decide⟩

theorem not_prefix_of_ne_linkEnd {t : Tag} (ht : t ≠ .linkEnd) (s : List Char) :
    ¬ anchorClosing <+: '<' :: (t.inside ++ ['>'] ++ s) := by
  rw [anchorClosing_eq, List.cons_prefix_cons, List.append_assoc]
  rintro ⟨-, hprefix⟩
  have hinside := eq_of_prefix_append (p := ['/', 'a']) (by decide) t.not_mem_inside.2 hprefix
  exact ht (eq_linkEnd hinside.symm)

/-- What is written for a token other than the end of a link has no such end. -/
theorem cutBehind?_write_append {t : Token} (ht : t ≠ .tag .linkEnd) (s : List Char) :
    cutBehind? anchorClosing (t.write ++ s) =
      (cutBehind? anchorClosing s).map fun (front, rest) ↦ (t.write ++ front, rest) := by
  cases t with
  | text body => exact cutBehind?_anchorClosing_append (not_mem_bodyText body).1 s
  | title title => exact cutBehind?_anchorClosing_append (not_mem_escapeHtml title).1 s
  | tag tag =>
    have hend : tag ≠ .linkEnd := fun heq ↦ ht (congrArg Token.tag heq)
    rw [write_tag_append, cutBehind?_cons_of_not_front (not_prefix_of_ne_linkEnd hend _),
      cutBehind?_anchorClosing_append (lt_not_mem_inside_append tag) s, Option.map_map]
    rfl

/-- A link ends at the first token that is its end. -/
theorem cutBehind?_writeAll (ts : List Token) :
    cutBehind? anchorClosing (writeAll ts) =
      (cutLink? ts).map fun (inner, rest) ↦ (writeAll inner ++ anchorClosing, writeAll rest) := by
  fun_induction cutLink? ts with
  | case1 => rfl
  | case2 ts =>
    rw [writeAll_cons, write_linkEnd_append, cutBehind?_self anchorClosing_ne_nil]
    rfl
  | case3 t ts hend ih =>
    rw [writeAll_cons, cutBehind?_write_append hend, ih, Option.map_map, Option.map_map]
    refine Option.map_congr fun found _ ↦ ?_
    simp

/-! ### Anchors -/

/-- What a link has between its name and the end of its tag. -/
def linkAttributes (destination : TagText) (others : List Attribute) : List Char :=
  Attribute.write ⟨.of .href, destination⟩ ++ others.flatMap Attribute.write

/-- Behind a link there is an anchor exactly if an end of a link follows. -/
theorem anchor?_writeAll (destination : TagText) (others : List Attribute) (ts : List Token) :
    anchor? (linkAttributes destination others ++ '>' :: writeAll ts) =
      (cutLink? ts).map fun (inner, rest) ↦
        (⟨linkAttributes destination others, destination.text, writeAll inner⟩, writeAll rest) := by
  have hattributes : linkAttributes destination others = ' ' :: (hrefOpening ++
      (destination.text ++ '"' :: others.flatMap Attribute.write)) := by
    simp [linkAttributes, write_attribute, FixedText.text, hrefOpening_eq]
  have hword (s : List Char) : startsInWord (' ' :: s) = false := by
    rw [startsInWord, List.head?_cons]
    decide
  have hblank : isWordChar ' ' = false := by decide
  have hfront (s : List Char) : cutBehindHref? true (' ' :: (hrefOpening ++ s)) =
      some (' ' :: hrefOpening, s) := by
    rw [cutBehindHref?_cons_of_not_front (by simp) (by decide), hblank, cutBehindHref?_self]
    rfl
  have hquote : '"' ∉ destination.text := fun h ↦ (destination.plain _ h).1 rfl
  have hhref (s : List Char) := cutBehind?_singleton.mpr
    ⟨destination.text, hquote, rfl, (rfl : destination.text ++ '"' :: s = _)⟩
  have hback := cutBehind?_singleton.mpr ⟨others.flatMap Attribute.write,
    (not_mem_write_attributes others).2, rfl,
    (rfl : others.flatMap Attribute.write ++ '>' :: writeAll ts = _)⟩
  rw [hattributes, List.cons_append, List.append_assoc, List.append_assoc, List.cons_append,
    anchor?]
  cases hcut : cutLink? ts with
  | none => simp [hword, hfront, hhref, hback, cutBehind?_writeAll, hcut]
  | some found => simp [hword, hfront, hhref, hback, cutBehind?_writeAll, hcut]

/-! ### Titles -/

/-- The tokens of a title in an anchor. -/
def titleTokens (title : String) : List Token :=
  [.text ['['], .opening .b, .title title, .closing .b, .text [']']]

theorem writeAll_titleTokens (title : String) :
    writeAll (titleTokens title) = titleMarkup title := by
  have hopen : bodyText ['['] = ['['] := by decide
  have hclose : bodyText [']'] = [']'] := by decide
  change _ = "[<b>".toList ++ (escapeHtml title).toList ++ "</b>]".toList
  simp [titleTokens, write_text, write_title, write_opening, write_closing, Element.name, hopen,
    hclose]

/-- What rewriting does to tokens: between a link and its end stands the title of the page that the
link points to, or what stood there. -/
inductive Retitles (l : Links) : List Token → List Token → Prop where
  | nil : Retitles l [] []
  | token (t : Token) {ts ts' : List Token} (rest : Retitles l ts ts') :
      Retitles l (t :: ts) (t :: ts')
  | link (destination : TagText) (others : List Attribute) (inner : List Token) (title : String)
      (found : l.titleFor (.ofList destination.text) = some title) {ts ts' : List Token}
      (rest : Retitles l ts ts') :
      Retitles l (.tag (.link destination others) :: (inner ++ .tag .linkEnd :: ts))
        (.tag (.link destination others) :: (titleTokens title ++ .tag .linkEnd :: ts'))

theorem Retitles.append_left {l : Links} {ts ts' : List Token} (h : Retitles l ts ts')
    (front : List Token) : Retitles l (front ++ ts) (front ++ ts') := by
  induction front with
  | nil => exact h
  | cons t front ih => exact .token t ih

/-- Tokens stay, or come in with a title. -/
theorem Retitles.mem {l : Links} {ts ts' : List Token} (h : Retitles l ts ts') {t : Token}
    (ht : t ∈ ts') :
    t ∈ ts ∨ ∃ href title, l.titleFor href = some title ∧ t ∈ titleTokens title := by
  induction h with
  | nil => exact .inl ht
  | token t' rest ih =>
    obtain rfl | ht := List.mem_cons.mp ht
    · exact .inl List.mem_cons_self
    · exact (ih ht).imp_left (List.mem_cons_of_mem _)
  | link destination others inner title found rest ih =>
    simp only [List.mem_cons, List.mem_append] at ht ⊢
    obtain rfl | htitle | rfl | ht := ht
    · exact .inl (.inl rfl)
    · exact .inr ⟨_, title, found, htitle⟩
    · exact .inl (.inr (.inr (.inl rfl)))
    · exact (ih ht).imp_left fun h ↦ .inr (.inr (.inr h))

theorem not_prefix_of_ne_link {t : Tag} (ht : ∀ destination others, t ≠ .link destination others)
    (s : List Char) : ¬ ['<', 'a'] <+: '<' :: (t.inside ++ ['>'] ++ s) := by
  rw [List.cons_prefix_cons, List.append_assoc]
  rintro ⟨-, hprefix⟩
  have hname (e : Element) (s : List Char) : ¬ ['a'] <+: e.name.toList ++ s := by
    obtain ⟨c, name, hname, ha, -⟩ := exists_name_eq_cons e
    rw [hname, List.cons_append, List.cons_prefix_cons]
    exact fun h ↦ ha h.1.symm
  cases t with
  | link destination others => exact ht destination others rfl
  | linkEnd => exact absurd hprefix (by simp [Tag.inside, Tag.ends])
  | opening e attributes =>
    simp only [Tag.inside, Tag.ends, Tag.name, List.append_assoc] at hprefix
    exact hname e _ hprefix
  | closing e => exact absurd hprefix (by simp [Tag.inside, Tag.ends])
  | void e attributes blank =>
    simp only [Tag.inside, Tag.ends, Tag.name, List.append_assoc] at hprefix
    exact hname e _ hprefix

variable (l : Links)

/-- A text or a tag other than a link stays when tokens are rewritten. -/
theorem rewriteText_token {t : Token}
    (ht : ∀ destination others, t ≠ .tag (.link destination others)) (s : List Char) :
    l.rewriteText (t.write ++ s) = t.write ++ l.rewriteText s := by
  cases t with
  | text s => exact rewriteText_append l (not_mem_bodyText s).1 _
  | title s => exact rewriteText_append l (not_mem_escapeHtml s).1 _
  | tag t =>
    have hlink : ∀ destination others, t ≠ .link destination others :=
      fun destination others heq ↦ ht destination others (congrArg Token.tag heq)
    rw [write_tag_append, rewriteText_cons l (not_prefix_of_ne_link hlink _),
      rewriteText_append l (lt_not_mem_inside_append t) s, write_tag_append]

theorem write_link_append (destination : TagText) (others : List Attribute) (s : List Char) :
    (Token.tag (.link destination others)).write ++ s =
      '<' :: 'a' :: (linkAttributes destination others ++ '>' :: s) := by
  rw [write_tag_append, inside_link, linkAttributes, List.append_assoc, List.cons_append]
  rfl

/-- A link without an end stays. -/
theorem rewriteText_link_of_none {ts : List Token} (h : cutLink? ts = none)
    (destination : TagText) (others : List Attribute) :
    l.rewriteText ((Token.tag (.link destination others)).write ++ writeAll ts) =
      (Token.tag (.link destination others)).write ++ l.rewriteText (writeAll ts) := by
  have hanchor := anchor?_writeAll destination others ts
  rw [h, Option.map_none] at hanchor
  have hattributes : '<' ∉ linkAttributes destination others ++ ['>'] := by
    rw [List.mem_append, not_or]
    exact ⟨(not_mem_write_attributes (⟨.of .href, destination⟩ :: others)).1, by decide⟩
  have hbody := rewriteText_append l hattributes (writeAll ts)
  rw [List.append_assoc, List.singleton_append] at hbody
  rw [write_link_append, rewriteText_open l hanchor, hbody, write_link_append, List.append_assoc,
    List.singleton_append]

/-- What stands between a link and its end once the link is retitled. -/
def linkContent (destination : TagText) (inner : List Token) : List Token :=
  match l.titleFor (.ofList destination.text) with
  | some title => titleTokens title
  | none => inner

theorem write_retitle (destination : TagText) (others : List Attribute) (inner : List Token) :
    (l.retitle ⟨linkAttributes destination others, destination.text, writeAll inner⟩).write =
      writeAll (.tag (.link destination others) :: linkContent l destination inner ++
        [.tag .linkEnd]) := by
  have hwrite (content : List Token) :
      writeAll (.tag (.link destination others) :: content ++ [.tag .linkEnd]) =
        Anchor.write
          ⟨linkAttributes destination others, destination.text, writeAll content⟩ := by
    rw [List.cons_append, writeAll_cons, write_link_append, writeAll_append, Anchor.write_eq]
    rfl
  rw [hwrite]
  unfold linkContent Links.retitle
  cases l.titleFor (.ofList destination.text) with
  | none => rfl
  | some title => simp only [writeAll_titleTokens]

theorem rewriteText_link_of_some {ts inner rest : List Token}
    (h : cutLink? ts = some (inner, rest)) (destination : TagText) (others : List Attribute) :
    l.rewriteText ((Token.tag (.link destination others)).write ++ writeAll ts) =
      writeAll (.tag (.link destination others) :: linkContent l destination inner ++
        [.tag .linkEnd]) ++ l.rewriteText (writeAll rest) := by
  have hanchor := anchor?_writeAll destination others ts
  rw [h, Option.map_some] at hanchor
  rw [write_link_append, rewriteText_anchor l hanchor, write_retitle]

theorem Retitles.linkContent {l : Links} {ts ts' : List Token} (h : Retitles l ts ts')
    (destination : TagText) (others : List Attribute) (inner : List Token) :
    Retitles l (.tag (.link destination others) :: (inner ++ .tag .linkEnd :: ts))
      (.tag (.link destination others) ::
        (Site.linkContent l destination inner ++ .tag .linkEnd :: ts')) := by
  unfold Site.linkContent
  split
  · next title found => exact .link destination others inner title found h
  · exact .token _ ((Retitles.token _ h).append_left inner)

/-- Rewriting written tokens is writing tokens with titles in anchors. -/
theorem exists_retitles (ts : List Token) :
    ∃ ts', Retitles l ts ts' ∧ l.rewriteText (writeAll ts) = writeAll ts' := by
  -- an anchor takes several tokens at once, so the induction is on their number
  obtain ⟨n, hn⟩ : ∃ n, ts.length ≤ n := ⟨_, Nat.le_refl _⟩
  induction n generalizing ts with
  | zero =>
    obtain rfl := List.eq_nil_of_length_eq_zero (Nat.le_zero.mp hn)
    exact ⟨[], .nil, rfl⟩
  | succ n ih =>
    cases ts with
    | nil => exact ⟨[], .nil, rfl⟩
    | cons t ts =>
      have hshorter : ts.length ≤ n := Nat.le_of_succ_le_succ hn
      by_cases hlink : ∃ destination others, t = .tag (.link destination others)
      · obtain ⟨destination, others, rfl⟩ := hlink
        cases hcut : cutLink? ts with
        | none =>
          obtain ⟨ts', hts, hrewrite⟩ := ih ts hshorter
          refine ⟨_, .token _ hts, ?_⟩
          rw [writeAll_cons, rewriteText_link_of_none l hcut, hrewrite, writeAll_cons]
        | some found =>
          obtain ⟨inner, rest⟩ := found
          obtain rfl := eq_of_cutLink? hcut
          rw [List.length_append, List.length_cons] at hshorter
          obtain ⟨rest', hrest, hrewrite⟩ := ih rest (by omega)
          refine ⟨_, hrest.linkContent destination others inner, ?_⟩
          rw [writeAll_cons, rewriteText_link_of_some l hcut, hrewrite, ← writeAll_append]
          simp
      · obtain ⟨ts', hts, hrewrite⟩ := ih ts hshorter
        refine ⟨_, .token t hts, ?_⟩
        rw [writeAll_cons, rewriteText_token l fun d o h ↦ hlink ⟨d, o, h⟩, hrewrite, writeAll_cons]

/-! ### Each angle bracket -/

/-- Raw HTML within a paragraph is read as a text. -/
theorem readFrom_markup {s rest : List Char} (haddress : readAddress? s = none)
    (hmarkup : markupEnd? s = some rest) (defs : List Definition) (fuel : Nat) (before : Char)
    (r : Reading) :
    readFrom defs (fuel + 1) before ('<' :: s) r =
      readFrom defs fuel '>' rest (r.addText ('<' :: s.take (s.length - rest.length))) := by
  have hgap : isGap '<' = false := by decide
  have heol : isEol '<' = false := by decide
  rw [readFrom.eq_def]
  simp [hgap, heol, haddress, hmarkup]

theorem append_eq_of_not_mem {c : Char} {p s front rest : List Char} (h : c ∉ p)
    (heq : p ++ s = front ++ c :: rest) :
    ∃ front', front = p ++ front' ∧ s = front' ++ c :: rest := by
  obtain ⟨front', rfl, hs⟩ | ⟨p', rfl, hs⟩ := List.append_eq_append_iff.mp heq
  · exact ⟨front', rfl, hs⟩
  · cases p' with
    | nil => exact ⟨[], by simp, by simpa using hs.symm⟩
    | cons d p' =>
      obtain ⟨rfl, -⟩ := List.cons.inj hs
      exact absurd (List.mem_append_right front List.mem_cons_self) h

/-- Each angle bracket that opens is the front of a tag. -/
theorem exists_tag {ts : List Token} {front rest : List Char}
    (h : writeAll ts = front ++ '<' :: rest) :
    ∃ before t after, ts = before ++ .tag t :: after ∧ front = writeAll before ∧
      '<' :: rest = t.write ++ writeAll after := by
  induction ts generalizing front with
  | nil => simp at h
  | cons t ts ih =>
    have hlater {front' : List Char} (hfront : front = t.write ++ front')
        (hts : writeAll ts = front' ++ '<' :: rest) :
        ∃ before tag after, t :: ts = before ++ .tag tag :: after ∧ front = writeAll before ∧
          '<' :: rest = tag.write ++ writeAll after := by
      obtain ⟨before, tag, after, rfl, rfl, hrest⟩ := ih hts
      exact ⟨t :: before, tag, after, rfl, hfront, hrest⟩
    rw [writeAll_cons] at h
    cases t with
    | text s =>
      obtain ⟨front', hfront, hts⟩ := append_eq_of_not_mem (not_mem_bodyText s).1 h
      exact hlater hfront hts
    | title s =>
      obtain ⟨front', hfront, hts⟩ := append_eq_of_not_mem (not_mem_escapeHtml s).1 h
      exact hlater hfront hts
    | tag tag =>
      cases front with
      | nil => exact ⟨[], tag, ts, rfl, rfl, h.symm⟩
      | cons c front =>
        rw [write_tag_append, List.cons_append] at h
        obtain ⟨rfl, hinside⟩ := List.cons.inj h
        obtain ⟨front', rfl, hts⟩ := append_eq_of_not_mem (lt_not_mem_inside_append tag) hinside
        exact hlater (by simp [Token.write, Tag.write]) hts

theorem name_of_mem_titleTokens {title : String} {tag : Tag}
    (h : Token.tag tag ∈ titleTokens title) : tag.name = "b" := by
  simp only [titleTokens, Token.opening, Token.closing, List.mem_cons, List.not_mem_nil, or_false,
    Token.tag.injEq, reduceCtorEq, false_or] at h
  obtain rfl | rfl := h <;> rfl

/-- The markup of a panel is that of its document and its titles, whatever they hold. The HTML of an
answer is written from tokens in which raw HTML is a text, as a block and within a paragraph.
Rewriting its anchors leaves these tokens or puts those of a title between a link and its end. No
angle bracket stands in a written text or title or inside a tag, and each tag is of an element of
documents or marks a title. So each angle bracket that opens is the front of such a tag, and that
tag is whole. -/
theorem rewrite_toHtml_markup (text : String) (l : Links) :
    (toHtml text).toList = writeAll (documentTokens text) ∧
      (∀ defs tight atStart raw, blockTokens defs tight atStart (.html raw) = [.text raw]) ∧
      (∀ defs fuel before s rest r, readAddress? s = none → markupEnd? s = some rest →
        readFrom defs (fuel + 1) before ('<' :: s) r =
          readFrom defs fuel '>' rest (r.addText ('<' :: s.take (s.length - rest.length)))) ∧
      ∃ tokens, Retitles l (documentTokens text) tokens ∧
        (l.rewrite (toHtml text)).toList = writeAll tokens ∧
        (∀ t ∈ tokens, t ∈ documentTokens text ∨
          ∃ href title, l.titleFor href = some title ∧ t ∈ titleTokens title) ∧
        (∀ t ∈ tokens, match t with
          | .text s => '<' ∉ bodyText s ∧ '>' ∉ bodyText s
          | .title s => '<' ∉ (escapeHtml s).toList ∧ '>' ∉ (escapeHtml s).toList
          | .tag tag => '<' ∉ tag.inside ∧ '>' ∉ tag.inside ∧ tag.name ∈ "b" :: tagNames) ∧
        ∀ front rest, (l.rewrite (toHtml text)).toList = front ++ '<' :: rest →
          ∃ before tag after, tokens = before ++ .tag tag :: after ∧ front = writeAll before ∧
            rest = tag.inside ++ '>' :: writeAll after := by
  obtain ⟨tokens, htokens, hrewrite⟩ := exists_retitles l (documentTokens text)
  rw [← toList_toHtml, ← toList_rewrite] at hrewrite
  refine ⟨toList_toHtml text, fun _ _ _ _ ↦ rfl,
    fun defs fuel before s rest r haddress hmarkup ↦
      readFrom_markup haddress hmarkup defs fuel before r,
    tokens, htokens, hrewrite, fun t ↦ htokens.mem, fun t ht ↦ ?_, fun front rest h ↦ ?_⟩
  · cases t with
    | text s => exact not_mem_bodyText s
    | title s => exact not_mem_escapeHtml s
    | tag tag =>
      refine ⟨tag.not_mem_inside.1, tag.not_mem_inside.2, ?_⟩
      obtain hdocument | ⟨href, title, -, htitle⟩ := htokens.mem ht
      · exact List.mem_cons_of_mem _ (allKnown_documentTokens text _ hdocument)
      · rw [name_of_mem_titleTokens htitle]
        exact List.mem_cons_self
  · rw [hrewrite] at h
    obtain ⟨before, tag, after, hsplit, hfront, hrest⟩ := exists_tag h
    have htag : '<' :: rest = '<' :: (tag.inside ++ ['>'] ++ writeAll after) :=
      hrest.trans (write_tag_append tag _)
    rw [List.append_assoc] at htag
    exact ⟨before, tag, after, hsplit, hfront, (List.cons.inj htag).2⟩

end SiteSearch.Site
