import SiteSearch.Proofs.Html.Fragment
import SiteSearch.Proofs.Html.LineEnds

/-!
# List items with a link

The markup of a list item holds an escaped address, an escaped text and, if there is one, an escaped
part behind the link: an aside or a note. Read as a fragment, it is one item with one link, which
has this very address (`addressOf_eq`), and with the texts as they were before they were escaped
(`parseFragment_link`, `parseFragment_part`).
-/

set_option autoImplicit false
set_option relaxedAutoImplicit false

namespace SiteSearch.Html

open Text Builder

/-! ### Texts of elements -/

/-- The nodes of a text, which are none if it is empty. -/
def textNodes (s : List Char) : List Node :=
  if s = [] then [] else [.text s]

/-- A text as the children of an element. -/
def textChildren (s : List Char) : List Child :=
  if s = [] then [] else [.text s.reverse]

theorem foldl_addChar (s : List Char) :
    s.foldl (fun children x ↦ addChar x children) [] = textChildren s := by
  have hadd (t s : List Char) (ht : t ≠ []) :
      s.foldl (fun children x ↦ addChar x children) [.text t] = [.text (s.reverse ++ t)] := by
    induction s generalizing t with
    | nil => rfl
    | cons x s ih =>
      rw [List.foldl_cons, addChar, ih _ (List.cons_ne_nil x t), List.reverse_cons,
        List.append_assoc]
      rfl
  cases s with
  | nil => rfl
  | cons x s =>
    rw [List.foldl_cons, addChar, hadd [x] s (List.cons_ne_nil x []), textChildren,
      if_neg (List.cons_ne_nil x s), List.reverse_cons]
    exact fun _ _ h ↦ nomatch h

theorem nodesBelow_text {b : Builder} {id : Nat} {s : List Char}
    (h : (b.cell id).children = textChildren s) (depth : Nat) :
    b.nodesBelow (depth + 1) id = textNodes s := by
  rw [nodesBelow, h]
  unfold textChildren textNodes
  split
  · rfl
  · rw [List.reverse_singleton, List.map_singleton]
    exact congrArg (fun t ↦ [Node.text t]) (List.reverse_reverse s)

theorem textOfAll_textNodes (s : List Char) : textOfAll (textNodes s) = s := by
  unfold textNodes
  split
  · next h => rw [h]; rfl
  · simp [textOfAll, Node.allText]

/-! ### List items -/

/-- The nodes of a list item with a link, and other nodes behind the link. -/
def listItem (link : String) (title : List Char) (more : List Node) : List Node :=
  [.element 1 "html" []
    [.element 2 "li" [] (.element 3 "a" [("href", link)] (textNodes title) :: more)]]

/-- Nodes without a link at or below them. -/
def Unlinked (nodes : List Node) : Prop :=
  elementsAmong isLink (fun _ _ ↦ false) false nodes = []

theorem unlinked_textNodes (s : List Char) : Unlinked (textNodes s) := by
  unfold Unlinked textNodes
  split <;> rfl

theorem firstAddress?_listItem (link : String) (title : List Char) {more : List Node}
    (hmore : Unlinked more) : firstAddress? (listItem link title more) = some link := by
  have htitle := unlinked_textNodes title
  unfold Unlinked at hmore htitle
  simp [firstAddress?, listItem, elementsAmong, Node.elements, isLink, attribute?, hmore, htitle,
    earliest?]

theorem plainText_listItem (link : String) (title : List Char) (more : List Node) :
    plainText (listItem link title more) = .ofList (collapse (title ++ textOfAll more)) := by
  simp [plainText, listItem, textOfAll, Node.allText, textOfAll_textNodes]

/-! ### Reading a list item -/

/-- The cells of a fragment without content. -/
def rootCells : Array Cell :=
  #[⟨.html, "", [], none, [.element 1]⟩, ⟨.html, "html", [], some 0, []⟩]

/-- The cells of a list item without content. -/
def itemCells : Array Cell :=
  withElement rootCells 1 "li" []

/-- The cells of a list item with a link. -/
def linkCells (link : String) (title : List Char) : Array Cell :=
  withText (withElement itemCells 2 "a" [("href", link)]) 3 title

/-- The cells of a list item with a text in an element behind its link. -/
def partCells (link : String) (title : List Char) (name : String)
    (attributes : List (String × String)) (part : List Char) : Array Cell :=
  withText (withElement (linkCells link title) 2 name attributes) 4 part

/-- The markup of a list item up to the end of its link. -/
def linkMarkup (link title : List Char) : List Char :=
  "<li>".toList ++ (("<a href=\"".toList ++ (link.flatMap escapeChar ++ ['"', '>'])) ++
    (title.flatMap escapeChar ++ "</a>".toList))

/-- The markup of a text in an element, between the tags of this. -/
def partMarkup (opening closing part : List Char) : List Char :=
  opening ++ (part.flatMap escapeChar ++ closing)

/-- The markup of an aside. -/
def asideMarkup (aside : List Char) : List Char :=
  partMarkup "<span>".toList "</span>".toList aside

/-- The markup of a note. -/
def noteMarkup (note : List Char) : List Char :=
  partMarkup "<p class=\"context\">".toList "</p>".toList note

/-- The address that an escaped one is read as. -/
def addressOf (link : List Char) : String :=
  attributeText (link.flatMap escapeChar)

/-- An address is read as it was before it was escaped. -/
theorem addressOf_eq {link : List Char} (hlink : '\x00' ∉ link) : addressOf link = .ofList link := by
  rw [addressOf, attributeText, replaceReferences_escape true hlink (Nat.le_refl _)]

theorem reaches_text {cells : Array Cell} {id : Nat} {outer : List Nat} {formatting : List Entry}
    (hspace : (cells.getD id .document).space = .html) (hid : id ≠ 0)
    (hopen : ∀ i, formatting.head? = some (.element i) → i ∈ id :: outer) {s : List Char}
    (hs : '\x00' ∉ s) :
    (ordinary cells (id :: outer) formatting false).Reaches (s.flatMap escapeChar)
      (ordinary (withText cells id s) (id :: outer) formatting false) := by
  have hread := reaches_escape (ordinary cells (id :: outer) formatting false) s
  rwa [takeChars_ordinary hspace hid hopen hs, Bool.false_and] at hread

theorem quote_not_mem_escape (s : List Char) : '"' ∉ s.flatMap escapeChar := by
  rw [List.mem_flatMap]
  rintro ⟨c, -, hc⟩
  exact (isTagChar_of_mem_escapeChar hc).1 rfl

theorem reaches_linkMarkup (link : List Char) {title : List Char} (htitle : '\x00' ∉ title) :
    startFragment.Reaches (linkMarkup link title)
      (ordinary (linkCells (addressOf link) title) [2, 1] [] false) := by
  have hfield : nameText "href".toList = "href" := by decide
  have hlinkName : nameText ['a'] = "a" := by decide
  have hitem : startFragment.Reaches "<li>".toList (ordinary itemCells [2, 1] [] false) :=
    reaches_opening (c := 'l') (s := ['i']) (by decide) (by decide) (by decide) rfl
      (take_listItem ⟨rfl, rfl⟩ (by decide))
  have hopening : (ordinary itemCells [2, 1] [] false).Reaches
      ("<a href=\"".toList ++ (link.flatMap escapeChar ++ ['"', '>']))
      (ordinary (withElement itemCells 2 "a" [("href", addressOf link)]) [3, 2, 1] [.element 3]
        false) := by
    refine reaches_openingWith (c := 'a') (s := []) (by decide) (by decide) hlinkName rfl
      (by decide : IsName "href".toList) (by decide) (quote_not_mem_escape link) ?_
    rw [hfield]
    exact take_link rfl (by decide)
  have htext : (ordinary (withElement itemCells 2 "a" [("href", addressOf link)]) [3, 2, 1]
      [.element 3] false).Reaches (title.flatMap escapeChar)
      (ordinary (linkCells (addressOf link) title) [3, 2, 1] [.element 3] false) :=
    reaches_text rfl (by decide) (by simp) htitle
  have hclosing : (ordinary (linkCells (addressOf link) title) [3, 2, 1] [.element 3]
      false).Reaches "</a>".toList (ordinary (linkCells (addressOf link) title) [2, 1] [] false) :=
    reaches_closing (c := 'a') (s := []) (by decide) (by decide) hlinkName rfl
      (take_linkEnd ⟨rfl, rfl⟩)
  exact hitem.append (hopening.append (htext.append hclosing))

/-- Tags that put a text into an element behind the link of a list item. -/
structure Encloses (name : String) (attributes : List (String × String))
    (opening closing : List Char) : Prop where
  opens : ∀ link title, (ordinary (linkCells link title) [2, 1] [] false).Reaches opening
    (ordinary (withElement (linkCells link title) 2 name attributes) [4, 2, 1] [] false)
  closes : ∀ link title part,
    (ordinary (partCells link title name attributes part) [4, 2, 1] [] false).Reaches closing
      (ordinary (partCells link title name attributes part) [2, 1] [] false)
  normalLines_opening : ∀ rest, normalLines (opening ++ rest) = opening ++ normalLines rest
  normalLines_closing : ∀ rest, normalLines (closing ++ rest) = closing ++ normalLines rest
  head_closing : closing.head? = some '<'

theorem encloses_aside : Encloses "span" [] "<span>".toList "</span>".toList where
  opens link title :=
    reaches_opening (c := 's') (s := ['p', 'a', 'n']) (by decide) (by decide) (by decide)
      rfl (take_span rfl (by decide : 2 < 4))
  closes link title part :=
    reaches_closing (c := 's') (s := ['p', 'a', 'n']) (by decide) (by decide) (by decide)
      rfl (take_spanEnd ⟨rfl, rfl⟩)
  normalLines_opening := normalLines_of_no_return (by decide)
  normalLines_closing := normalLines_of_no_return (by decide)
  head_closing := by decide

theorem encloses_note :
    Encloses "p" [("class", "context")] "<p class=\"context\">".toList "</p>".toList where
  opens link title := by
    have hattribute : (nameText "class".toList, attributeText "context".toList) =
        ("class", "context") := by decide
    have hname : nameText ['p'] = "p" := by decide
    refine reaches_openingWith (c := 'p') (s := []) (by decide) (by decide) hname rfl
      (by decide : IsName "class".toList) (by decide) (by decide : '"' ∉ "context".toList) ?_
    rw [hattribute]
    exact take_paragraph ⟨rfl, rfl⟩ ⟨rfl, rfl⟩ (by decide : 2 < 4)
  closes link title part :=
    reaches_closing (c := 'p') (s := []) (by decide) (by decide) (by decide) rfl
      (take_paragraphEnd ⟨rfl, rfl⟩)
  normalLines_opening := normalLines_of_no_return (by decide)
  normalLines_closing := normalLines_of_no_return (by decide)
  head_closing := by decide

theorem Encloses.reaches {name : String} {attributes : List (String × String)}
    {opening closing : List Char} (h : Encloses name attributes opening closing) (link : String)
    (title : List Char) {part : List Char} (hpart : '\x00' ∉ part) :
    (ordinary (linkCells link title) [2, 1] [] false).Reaches (partMarkup opening closing part)
      (ordinary (partCells link title name attributes part) [2, 1] [] false) := by
  have htext : (ordinary (withElement (linkCells link title) 2 name attributes) [4, 2, 1] []
      false).Reaches (part.flatMap escapeChar)
      (ordinary (partCells link title name attributes part) [4, 2, 1] [] false) :=
    reaches_text rfl (by decide) (by simp) hpart
  exact (h.opens link title).append (htext.append (h.closes link title part))

theorem linkCells_eq (link : String) (title : List Char) :
    linkCells link title =
      #[⟨.html, "", [], none, [.element 1]⟩, ⟨.html, "html", [], some 0, [.element 2]⟩,
        ⟨.html, "li", [], some 1, [.element 3]⟩,
        ⟨.html, "a", [("href", link)], some 2, textChildren title⟩] := by
  rw [← foldl_addChar]
  rfl

theorem partCells_eq (link : String) (title : List Char) (name : String)
    (attributes : List (String × String)) (part : List Char) :
    partCells link title name attributes part =
      #[⟨.html, "", [], none, [.element 1]⟩, ⟨.html, "html", [], some 0, [.element 2]⟩,
        ⟨.html, "li", [], some 1, [.element 4, .element 3]⟩,
        ⟨.html, "a", [("href", link)], some 2, textChildren title⟩,
        ⟨.html, name, attributes, some 2, textChildren part⟩] := by
  rw [partCells, linkCells_eq, ← foldl_addChar part]
  rfl

theorem nodes_linkCells (link : String) (title : List Char) :
    (ordinary (linkCells link title) [1] [] false).nodes = listItem link title [] := by
  have htitle : (ordinary (linkCells link title) [1] [] false).nodesBelow 2 3 =
      textNodes title := by
    rw [linkCells_eq]
    exact nodesBelow_text rfl 1
  rw [listItem, ← htitle, linkCells_eq]
  rfl

theorem nodes_partCells (link : String) (title : List Char) (name : String)
    (attributes : List (String × String)) (part : List Char) :
    (ordinary (partCells link title name attributes part) [1] [] false).nodes =
      listItem link title [.element 4 name attributes (textNodes part)] := by
  have htitle : (ordinary (partCells link title name attributes part) [1] [] false).nodesBelow
      3 3 = textNodes title := by
    rw [partCells_eq]
    exact nodesBelow_text rfl 2
  have hpart : (ordinary (partCells link title name attributes part) [1] [] false).nodesBelow
      3 4 = textNodes part := by
    rw [partCells_eq]
    exact nodesBelow_text rfl 2
  rw [listItem, ← htitle, ← hpart, partCells_eq]
  rfl

/-! ### List items in HTML -/

theorem null_not_mem_normalLines {s : List Char} (h : '\x00' ∉ s) : '\x00' ∉ normalLines s :=
  fun hmem ↦ (mem_normalLines hmem).elim h (by decide)

theorem normalLines_linkMarkup (link title rest : List Char) :
    normalLines (linkMarkup link title ++ rest) =
      linkMarkup (normalLines link) (normalLines title) ++ normalLines rest := by
  unfold linkMarkup
  simp only [List.append_assoc]
  rw [normalLines_of_no_return (by decide), normalLines_of_no_return (by decide),
    normalLines_append _ (by simp), normalLines_escape, normalLines_of_no_return (by decide),
    normalLines_append _ (by simp), normalLines_escape, normalLines_of_no_return (by decide)]

theorem Encloses.normalLines {name : String} {attributes : List (String × String)}
    {opening closing : List Char} (h : Encloses name attributes opening closing)
    (part rest : List Char) :
    Html.normalLines (partMarkup opening closing part ++ rest) =
      partMarkup opening closing (Html.normalLines part) ++ Html.normalLines rest := by
  have hhead : (closing ++ rest).head? ≠ some '\n' := by
    rw [List.head?_append, h.head_closing]
    simp
  simp only [partMarkup, List.append_assoc]
  rw [h.normalLines_opening, normalLines_append _ hhead, normalLines_escape, h.normalLines_closing]

theorem reaches_listItemEnd {cells : Array Cell} {id : Nat} {outer : List Nat}
    (hitem : (cells.getD id .document).IsHtml "li") :
    (ordinary cells (id :: outer) [] false).Reaches "</li>".toList
      (ordinary cells outer [] false) :=
  reaches_closing (c := 'l') (s := ['i']) (by decide) (by decide) (by decide) rfl
    (take_listItemEnd hitem)

theorem normalLines_listItemEnd : normalLines "</li>".toList = "</li>".toList := by decide

variable {text : String} {link title aside rest : List Char}

theorem front_linkMarkup (htext : text.toList = linkMarkup link title ++ rest) :
    text.toList.head? ≠ some '\uFEFF' := by
  rw [htext]
  exact fun h ↦ absurd (Option.some.inj h) (by decide)

/-- A list item with a link. -/
theorem parseFragment_link (htitle : '\x00' ∉ title)
    (htext : text.toList = linkMarkup link title ++ "</li>".toList) :
    parseFragment text = listItem (addressOf (normalLines link)) (normalLines title) [] := by
  have hreads : startFragment.Reaches (normalLines text.toList)
      (ordinary (linkCells (addressOf (normalLines link)) (normalLines title)) [1] [] false) := by
    rw [htext, normalLines_linkMarkup, normalLines_listItemEnd]
    exact (reaches_linkMarkup _ (null_not_mem_normalLines htitle)).append
      (reaches_listItemEnd ⟨rfl, rfl⟩)
  rw [hreads.parseFragment (front_linkMarkup htext), take_ending rfl, nodes_linkCells]

/-- A list item with a text in an element behind its link. -/
theorem parseFragment_part {name : String} {attributes : List (String × String)}
    {opening closing part : List Char} (h : Encloses name attributes opening closing)
    (htitle : '\x00' ∉ title) (hpart : '\x00' ∉ part)
    (htext : text.toList =
      linkMarkup link title ++ (partMarkup opening closing part ++ "</li>".toList)) :
    parseFragment text =
      listItem (addressOf (normalLines link)) (normalLines title)
        [.element 4 name attributes (textNodes (normalLines part))] := by
  have hreads : startFragment.Reaches (normalLines text.toList)
      (ordinary (partCells (addressOf (normalLines link)) (normalLines title) name attributes
        (normalLines part)) [1] [] false) := by
    rw [htext, normalLines_linkMarkup, h.normalLines, normalLines_listItemEnd]
    exact (reaches_linkMarkup _ (null_not_mem_normalLines htitle)).append
      ((h.reaches _ _ (null_not_mem_normalLines hpart)).append (reaches_listItemEnd ⟨rfl, rfl⟩))
  rw [hreads.parseFragment (front_linkMarkup htext), take_ending rfl, nodes_partCells]

/-- The address of a link is as it was before it was escaped. -/
theorem addressOf_normalLines {link : List Char} (hlink : ∀ c ∈ link, c ≠ '\x00' ∧ c ≠ '\r') :
    addressOf (normalLines link) = .ofList link := by
  have hreturn : '\r' ∉ link := fun h ↦ (hlink _ h).2 rfl
  have hlines : normalLines link = link := by
    have hempty := normalLines_of_no_return hreturn []
    rwa [List.append_nil, normalLines, List.append_nil] at hempty
  rw [hlines, addressOf_eq fun h ↦ (hlink _ h).1 rfl]

end SiteSearch.Html
