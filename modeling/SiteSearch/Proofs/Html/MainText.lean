import Mathlib.Data.List.Infix
import SiteSearch.Proofs.Html.MainPart
import SiteSearch.Proofs.Html.Reading

/-!
# The text of the main part

What a page shows in its main part are the text nodes there that stand below no mark of a heading,
in document order and each once (`mainText?_reads_main_part`). So two pages have the same main text
if their main parts are alike but for what stands in such marks (`Node.textOutside_congr`). The main
part is the one made first, which need not be the first of the document
(`mainText?_passes_moved_part`).
-/

set_option autoImplicit false
set_option relaxedAutoImplicit false

namespace SiteSearch.Html

open Text

variable {asked mark : String → List (String × String) → Bool}

/-! ### Text nodes -/

/-- Whether a node is a text. -/
def Node.isText : Node → Bool
  | .text _ => true
  | .element _ _ _ _ => false

/-- The text that a node is. -/
def Node.ownText : Node → List Char
  | .text s => s
  | .element _ _ _ _ => []

/-- The text nodes at and below a node without a marked node above them, with their paths. -/
def Node.shown (mark : String → List (String × String) → Bool) (n : Node) :
    List (List Nat × Node) :=
  n.entries.filter fun e ↦ e.2.isText && !n.markedAbove mark e.1

theorem Node.mem_shown {n e : Node} {path : List Nat} :
    (path, e) ∈ n.shown mark ↔
      n.at? path = some e ∧ e.isText = true ∧ n.markedAbove mark path = false := by
  rw [Node.shown, List.mem_filter, Node.mem_entries, Bool.and_eq_true, Bool.not_eq_true']

theorem Node.pairwise_shown (n : Node) : (n.shown mark).Pairwise fun e e' ↦ e.1 < e'.1 :=
  n.pairwise_entries.filter _

mutual

/-- The text outside marked elements is that of the text nodes shown. -/
theorem Node.textOutside_eq :
    ∀ n : Node, n.textOutside mark = (n.shown mark).flatMap fun e ↦ e.2.ownText
  | .text s => by
    rw [Node.textOutside, Node.shown, Node.entries]
    exact (List.append_nil s).symm
  | .element number name attributes children => by
    have hbelow {path : List Nat} (hpath : path ≠ []) :
        (Node.element number name attributes children).markedAbove mark path =
          (mark name attributes || markedAmong mark children path) :=
      Node.markedAbove_of_ne_nil _ hpath
    rw [Node.textOutside, Node.shown, Node.entries,
      List.filter_cons_of_neg (by simp [Node.isText])]
    split
    · next hmark =>
      rw [List.filter_eq_nil_iff.mpr, List.flatMap_nil]
      intro e he
      simp [hbelow (path_ne_nil he), hmark]
    · next hmark =>
      rw [textOutsideAll_eq children]
      refine congrArg _ (List.filter_congr fun e he ↦ ?_)
      simp [hbelow (path_ne_nil he), hmark]

theorem textOutsideAll_eq : ∀ trees : List Node,
    textOutsideAll mark trees =
      ((entriesAmong trees).filter fun e ↦ e.2.isText && !markedAmong mark trees e.1).flatMap
        fun e ↦ e.2.ownText
  | [] => by
    rw [textOutsideAll, entriesAmong]
    rfl
  | n :: ns => by
    rw [textOutsideAll, entriesAmong, Node.textOutside_eq n, textOutsideAll_eq ns,
      List.filter_append, List.flatMap_append, List.filter_map, List.filter_map, List.flatMap_map,
      List.flatMap_map]
    simp only [Function.comp_def, markedAmong_nextTree]
    rfl

end

/-! ### Trees alike outside marks -/

/-- What a node is apart from what stands below it: a text, or an element with name and
attributes. -/
def Node.label : Node → List Char ⊕ (String × List (String × String))
  | .text s => .inl s
  | .element _ name attributes _ => .inr (name, attributes)

/-- A path leads to nodes that are alike from two nodes, or past marked elements that both have. -/
def AlikeAt (mark : String → List (String × String) → Bool) (n n' : Node)
    (path : List Nat) : Prop :=
  (n.at? path).map Node.label = (n'.at? path).map Node.label ∨
    ∃ above e e', above <+: path ∧ n.at? above = some e ∧ n'.at? above = some e' ∧
      e.satisfies mark = true ∧ e'.satisfies mark = true

/-- Two nodes are alike, and what stands below them is, but for what stands in marked elements that
both have. -/
def AlikeOutside (mark : String → List (String × String) → Bool) (n n' : Node) : Prop :=
  ∀ path, AlikeAt mark n n' path

instance (n n' : Node) (path : List Nat) : Decidable (AlikeAt mark n n' path) :=
  decidable_of_iff ((n.at? path).map Node.label = (n'.at? path).map Node.label ∨
      ∃ above ∈ path.inits, (n.at? above).any (Node.satisfies mark) = true ∧
        (n'.at? above).any (Node.satisfies mark) = true) <| or_congr_right <| by
    simp only [List.mem_inits, Option.any_eq_true]
    constructor
    · rintro ⟨above, hfront, ⟨e, he, hmark⟩, e', he', hmark'⟩
      exact ⟨above, e, e', hfront, he, he', hmark, hmark'⟩
    · rintro ⟨above, e, e', hfront, he, he', hmark, hmark'⟩
      exact ⟨above, hfront, ⟨e, he, hmark⟩, e', he', hmark'⟩

instance (n n' : Node) : Decidable (AlikeOutside mark n n') :=
  decidable_of_iff (∀ x ∈ n.entries ++ n'.entries, AlikeAt mark n n' x.1) <| by
    have hnone {m : Node} {path : List Nat} (h : path ∉ m.entries.map Prod.fst) :
        m.at? path = none :=
      Option.eq_none_iff_forall_ne_some.mpr fun e he ↦
        h (List.mem_map_of_mem (Node.mem_entries.mpr he))
    constructor
    · intro h path
      by_cases hpath : path ∈ (n.entries ++ n'.entries).map Prod.fst
      · obtain ⟨x, hx, rfl⟩ := List.mem_map.mp hpath
        exact h x hx
      · -- no path of either node, so there is nothing to compare
        rw [List.map_append, List.mem_append, not_or] at hpath
        exact .inl (by rw [hnone hpath.1, hnone hpath.2])
    · exact fun h x _ ↦ h x.1

theorem AlikeOutside.symm {n n' : Node} (h : AlikeOutside mark n n') : AlikeOutside mark n' n :=
  fun path ↦ (h path).imp Eq.symm fun ⟨above, e, e', hfront, he, he', hmark, hmark'⟩ ↦
    ⟨above, e', e, hfront, he', he, hmark', hmark⟩

theorem Node.eq_of_isText {e e' : Node} (he : e.isText = true) (h : e.label = e'.label) :
    e = e' := by
  cases e with
  | text s =>
    cases e' with
    | text s' => rw [Sum.inl.inj h]
    | element number name attributes children => cases h
  | element number name attributes children => cases he

theorem Node.satisfies_of_label {e e' : Node} (h : e.label = e'.label) :
    e.satisfies asked = e'.satisfies asked := by
  cases e with
  | text s =>
    cases e' with
    | text s' => rfl
    | element number name attributes children => cases h
  | element number name attributes children =>
    cases e' with
    | text s' => cases h
    | element number' name' attributes' children' =>
      obtain ⟨rfl, rfl⟩ := Prod.mk.inj (Sum.inr.inj h)
      rfl

theorem exists_of_map_label {o o' : Option Node} {e : Node}
    (h : o.map Node.label = o'.map Node.label) (he : o = some e) :
    ∃ e', o' = some e' ∧ e.label = e'.label := by
  rw [he, Option.map_some] at h
  obtain ⟨e', he', hlabel⟩ := Option.map_eq_some_iff.mp h.symm
  exact ⟨e', he', hlabel.symm⟩

theorem Node.satisfies_above {n e : Node} {above path : List Nat}
    (hclear : n.markedAbove mark path = false) (hfront : above <+: path) (hne : above ≠ path)
    (he : n.at? above = some e) : e.satisfies mark = false := by
  rw [← Bool.not_eq_true]
  intro hmark
  rw [(n.markedAbove_iff path).mpr ⟨above, e, hfront, hne, he, hmark⟩] at hclear
  cases hclear

/-- Where no marked node stands above the end of a path in one of two such nodes, none does in the
other. -/
theorem AlikeOutside.markedAbove {n n' : Node} {path : List Nat} (h : AlikeOutside mark n n')
    (hclear : n.markedAbove mark path = false) : n'.markedAbove mark path = false := by
  rw [← Bool.not_eq_true, n'.markedAbove_iff path]
  rintro ⟨above, m', hfront, hne, hm', hmark⟩
  obtain hlabel | ⟨higher, m, -, hhigher, hm, -, hmarked, -⟩ := h above
  · obtain ⟨m, hm, hlabel⟩ := exists_of_map_label hlabel.symm hm'
    rw [Node.satisfies_of_label hlabel, Node.satisfies_above hclear hfront hne hm] at hmark
    cases hmark
  · have hshorter : higher ≠ path := by
      rintro rfl
      exact hne (hfront.eq_of_length (Nat.le_antisymm hfront.length_le hhigher.length_le))
    rw [Node.satisfies_above hclear (hhigher.trans hfront) hshorter hm] at hmarked
    cases hmarked

/-- There it leads to the same text. -/
theorem AlikeOutside.at?_eq {n n' e : Node} {path : List Nat} (h : AlikeOutside mark n n')
    (hclear : n.markedAbove mark path = false) (htext : e.isText = true)
    (hat : n.at? path = some e) : n'.at? path = some e := by
  obtain hlabel | ⟨above, m, m', hfront, hm, -, hmark, -⟩ := h path
  · obtain ⟨e', he', hlabel⟩ := exists_of_map_label hlabel hat
    rw [he', Node.eq_of_isText htext hlabel]
  · by_cases hpath : above = path
    · -- a text satisfies nothing
      rw [hpath, hat] at hm
      obtain rfl := Option.some.inj hm
      cases e with
      | text s => cases hmark
      | element number name attributes children => cases htext
    · rw [Node.satisfies_above hclear hfront hpath hm] at hmark
      cases hmark

/-- A text node that one of two such nodes shows, the other shows too. -/
theorem AlikeOutside.mem_shown {n n' e : Node} {path : List Nat} (h : AlikeOutside mark n n')
    (he : (path, e) ∈ n.shown mark) : (path, e) ∈ n'.shown mark := by
  obtain ⟨hat, htext, hclear⟩ := Node.mem_shown.mp he
  exact Node.mem_shown.mpr ⟨h.at?_eq hclear htext hat, htext, h.markedAbove hclear⟩

/-- What stands in marked elements has no part in the text outside them. -/
theorem Node.textOutside_congr {n n' : Node} (h : AlikeOutside mark n n') :
    n.textOutside mark = n'.textOutside mark := by
  have hirrefl : Std.Irrefl fun e e' : List Nat × Node ↦ e.1 < e'.1 :=
    ⟨fun e ↦ List.lt_irrefl e.1⟩
  have hshown : n.shown mark = n'.shown mark :=
    n.pairwise_shown.eq_of_mem_iff n'.pairwise_shown fun e ↦ ⟨h.mem_shown, h.symm.mem_shown⟩
  rw [Node.textOutside_eq, Node.textOutside_eq, hshown]

/-! ### The text of the main part -/

/-- A path leads to a text node at or below the end of another, with no marked node above it. -/
def ShowsText (mark : String → List (String × String) → Bool) (trees : List Node)
    (main path : List Nat) : Prop :=
  main <+: path ∧ (∃ s, at? trees path = some (.text s)) ∧ ¬ MarkedAbove mark trees path

/-- The text that a path leads to. -/
def textAt (trees : List Node) (path : List Nat) : List Char :=
  ((at? trees path).map Node.ownText).getD []

/-- A text with its white space collapsed, if there is then anything left. -/
def visibleText? (s : List Char) : Option String :=
  if collapse s = [] then none else some (.ofList (collapse s))

variable {trees : List Node} {main : List Nat} {e : Node}

theorem exists_shown (mark : String → List (String × String) → Bool)
    (hmain : at? trees main = some e) :
    ∃ shown : List (List Nat), shown.Pairwise (· < ·) ∧
      (∀ path, path ∈ shown ↔ ShowsText mark trees main path) ∧
      (if markedAmong mark trees main then [] else e.textOutside mark) =
        shown.flatMap (textAt trees) := by
  cases hmarked : markedAmong mark trees main with
  | true =>
    refine ⟨[], List.Pairwise.nil, fun path ↦ ⟨fun h ↦ absurd h List.not_mem_nil, ?_⟩, rfl⟩
    rintro ⟨⟨below, rfl⟩, -, hclear⟩
    rw [← markedAmong_iff, markedAmong_append hmain, hmarked, Bool.true_or] at hclear
    exact absurd rfl hclear
  | false =>
    refine ⟨(e.shown mark).map fun x ↦ main ++ x.1, ?_, fun path ↦ ?_, ?_⟩
    · rw [List.pairwise_map]
      exact e.pairwise_shown.imp List.append_left_lt
    · rw [List.mem_map]
      constructor
      · rintro ⟨⟨below, n⟩, hmem, rfl⟩
        obtain ⟨hat, htext, hclear⟩ := Node.mem_shown.mp hmem
        refine ⟨List.prefix_append _ _, ?_, ?_⟩
        · cases n with
          | text s => exact ⟨s, (at?_append hmain below).trans hat⟩
          | element number name attributes children => cases htext
        · rw [← markedAmong_iff, markedAmong_append hmain, hmarked, hclear]
          decide
      · rintro ⟨⟨below, rfl⟩, ⟨s, hs⟩, hclear⟩
        rw [at?_append hmain] at hs
        rw [← markedAmong_iff, markedAmong_append hmain, hmarked, Bool.false_or,
          Bool.not_eq_true] at hclear
        exact ⟨(below, .text s), Node.mem_shown.mpr ⟨hs, rfl, hclear⟩, rfl⟩
    · rw [if_neg Bool.false_ne_true, Node.textOutside_eq, List.flatMap_map]
      refine List.flatMap_congr fun x hx ↦ ?_
      rw [textAt, at?_append hmain, (Node.mem_shown.mp hx).1]
      rfl

/-- The main text is that of the main part made first. -/
theorem mainText?_of_madeFirst (hfirst : MadeFirst isMain trees main)
    (hmain : at? trees main = some e) :
    mainText? trees = visibleText?
      (if markedAmong isHeaderLink trees main then [] else e.textOutside isHeaderLink) := by
  obtain ⟨n, hasked, -⟩ := id hfirst
  obtain ⟨path, e', hpath, he', hearliest⟩ := exists_madeFirst isHeaderLink ⟨main, n, hasked⟩
  obtain rfl := hfirst.unique hpath
  obtain rfl := Option.some.inj (hmain.symm.trans he')
  rw [mainText?, hearliest]
  rfl

theorem mainText?_of_not_asked (h : ¬ ∃ path e, IsAskedAt isMain trees path e) :
    mainText? trees = none := by
  have hnone : askedAmong isMain trees = [] :=
    List.eq_nil_iff_forall_not_mem.mpr fun x hx ↦ h ⟨x.1, x.2, mem_askedAmong.mp hx⟩
  rw [mainText?, flatMap_elementsBelow, hnone]
  rfl

/-- A page without a main part has no main text. Otherwise one main part was made first, which is
the first of the document if none behind it was made earlier. The main text is that of the text
nodes below it that have no mark of a heading above them, in document order and each once, white
space collapsed; there is none if nothing is left then. Another page has the same main text if its
main part is alike outside such marks, and stands in one just if this does. -/
theorem mainText?_reads_main_part (trees : List Node) :
    ((¬ ∃ path e, IsAskedAt isMain trees path e) → mainText? trees = none) ∧
    ((∃ path e, IsAskedAt isMain trees path e) → ∃ main, MadeFirst isMain trees main) ∧
    (∀ main e, IsAskedAt isMain trees main e →
      (∀ other e', IsAskedAt isMain trees other e' → other ≠ main →
        main < other ∧ e.number ≤ e'.number) →
      MadeFirst isMain trees main) ∧
    ∀ main, MadeFirst isMain trees main →
      (∃ shown : List (List Nat), shown.Pairwise (· < ·) ∧
        (∀ path, path ∈ shown ↔ ShowsText isHeaderLink trees main path) ∧
        mainText? trees = visibleText? (shown.flatMap (textAt trees))) ∧
      ∀ others other e e', MadeFirst isMain others other → at? trees main = some e →
        at? others other = some e' → AlikeOutside isHeaderLink e e' →
        (MarkedAbove isHeaderLink trees main ↔ MarkedAbove isHeaderLink others other) →
        mainText? others = mainText? trees := by
  refine ⟨mainText?_of_not_asked, fun h ↦ ?_, fun main e ↦ madeFirst_of_first,
    fun main hfirst ↦ ⟨?_, ?_⟩⟩
  · obtain ⟨main, -, hfirst, -⟩ := exists_madeFirst isHeaderLink h
    exact ⟨main, hfirst⟩
  · obtain ⟨e, hasked, -⟩ := id hfirst
    obtain ⟨shown, hsorted, hmem, htext⟩ := exists_shown isHeaderLink hasked.1
    exact ⟨shown, hsorted, hmem, by rw [mainText?_of_madeFirst hfirst hasked.1, htext]⟩
  · intro others other e e' hother he he' halike habove
    have hinside : markedAmong isHeaderLink trees main = markedAmong isHeaderLink others other := by
      rw [Bool.eq_iff_iff, markedAmong_iff, markedAmong_iff, habove]
    rw [mainText?_of_madeFirst hother he', mainText?_of_madeFirst hfirst he, hinside,
      Node.textOutside_congr halike]

/-- Two pages that differ around their main parts and in a mark there. -/
theorem mainText?_reads_main_part_apart :
    let trees := parseDocument "<p>A<div role=main>B<a class='x headerlink'># <b>1</b></a>C</div>"
    let others := parseDocument "<div role=main>B<a class='x headerlink'>¶</a>C</div><i role=main>"
    mainText? others = mainText? trees ∧ mainText? trees = some "BC" := by
  unfold parseDocument
  rw [readable_ofList, readable_ofList]
  intro trees others
  -- both pages are read once for all that is seen of them
  obtain ⟨hfirst, hother, ⟨e, he, e', he', halike⟩, habove, htext⟩ :
      MadeFirst isMain trees [0, 0, 1, 1] ∧ MadeFirst isMain others [0, 0, 1, 0] ∧
        (∃ e, e ∈ at? trees [0, 0, 1, 1] ∧ ∃ e', e' ∈ at? others [0, 0, 1, 0] ∧
          AlikeOutside isHeaderLink e e') ∧
        (MarkedAbove isHeaderLink trees [0, 0, 1, 1] ↔
          MarkedAbove isHeaderLink others [0, 0, 1, 0]) ∧
        mainText? trees = some "BC" := by
    decide +kernel
  obtain ⟨-, -, -, hreads⟩ := mainText?_reads_main_part trees
  exact ⟨(hreads _ hfirst).2 others _ e e' hother he he' halike habove, htext⟩

/-- A main part in a table, and one that the reader moves from it to the place in front of it: this
is the first of the document, and its text would be another, but it was made last. -/
theorem mainText?_passes_moved_part :
    let trees := parseDocument
      "<table><tr><td><div role=\"main\">A</div></td></tr><div role=\"main\">B</div></table>"
    ∃ first e, IsAskedAt isMain trees first e ∧
      (∀ other e', IsAskedAt isMain trees other e' → other = first ∨ first < other) ∧
      (∀ shown : List (List Nat), shown.Pairwise (· < ·) →
        (∀ path, path ∈ shown ↔ ShowsText isHeaderLink trees first path) →
        visibleText? (shown.flatMap (textAt trees)) = some "B") ∧
      mainText? trees = some "A" := by
  unfold parseDocument
  rw [readable_ofList]
  intro trees
  obtain ⟨hfound, hclear, hmain⟩ :
      (askedAmong isMain trees).map (fun x ↦ (x.1, x.2.textOutside isHeaderLink)) =
          [([0, 0, 1, 0], ['B']), ([0, 0, 1, 1, 0, 0, 0, 0], ['A'])] ∧
        markedAmong isHeaderLink trees [0, 0, 1, 0] = false ∧ mainText? trees = some "A" := by
    decide +kernel
  obtain ⟨⟨first, e⟩, rest, hsplit, hhead, -⟩ := List.map_eq_cons_iff.mp hfound
  obtain ⟨rfl, htext⟩ := Prod.mk.inj hhead
  have hfirst : IsAskedAt isMain trees [0, 0, 1, 0] e :=
    mem_askedAmong.mp (hsplit ▸ List.mem_cons_self)
  refine ⟨_, e, hfirst, fun other e' he' ↦ ?_, fun shown hsorted hmem ↦ ?_, hmain⟩
  · have hsorted := pairwise_askedAmong isMain trees
    rw [hsplit] at hsorted
    rw [← mem_askedAmong, hsplit, List.mem_cons] at he'
    obtain heq | hmem := he'
    · exact .inl (Prod.mk.inj heq).1
    · exact .inr ((List.pairwise_cons.mp hsorted).1 _ hmem)
  · obtain ⟨others, hothers, hmem', hshown⟩ := exists_shown isHeaderLink hfirst.1
    have hsame : shown = others :=
      hsorted.eq_of_mem_iff hothers fun path ↦ (hmem path).trans (hmem' path).symm
    rw [hsame, ← hshown, hclear, htext]
    decide

end SiteSearch.Html
