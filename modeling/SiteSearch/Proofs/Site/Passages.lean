import SiteSearch.Proofs.Site.Retitling

/-!
# Anchors one by one

A text of anchors, each with the text behind it, is rewritten anchor by anchor. The anchors here are
written in parts: attributes, the first address, further attributes, and a content that is closed at
its end (`Anchor.IsPlain`). Where one is written, one is found, with the same parts
(`anchor?_of_isPlain`), and no anchor is found in the texts between them
(`rewriteText_append_of_not_open`). So each anchor gets the title of its page between its tags, or
stays as it is, and whatever stands beside it has no part in that (`rewriteText_passages`).
Rewriting changes the text exactly when it changes one of the anchors (`passages_inj`).
-/

set_option autoImplicit false
set_option relaxedAutoImplicit false

namespace SiteSearch.Site

open Text

/-- The front of an anchor. -/
def anchorOpening : List Char := ['<', 'a']

/-- An anchor whose address is the first of its opening tag and whose content is first closed at its
end. In front of the address there may be attributes behind something other than a word character,
as a blank. -/
structure Anchor.IsPlain (a : Anchor) : Prop where
  attributes : ∃ front back, a.attributes = front ++ ' ' :: (hrefOpening ++ a.href ++ '"' :: back) ∧
    startsInWord front = false ∧ '>' ∉ front ∧ ¬ hrefOpening <:+: front ∧ '>' ∉ back
  href : '"' ∉ a.href
  inner : ¬ anchorClosing <:+: a.inner

/-- A text of anchors, each with the text behind it. -/
def passages (parts : List (Anchor × List Char)) : List Char :=
  parts.flatMap fun p ↦ p.1.write ++ p.2

/-- What stands in an anchor once it is rewritten: the title of the page that it points to, if it
points to one. -/
def Links.content (l : Links) (a : Anchor) : List Char :=
  match l.titleFor (.ofList a.href) with
  | some title => "[<b>".toList ++ (escapeHtml title).toList ++ "</b>]".toList
  | none => a.inner

/-! ### Pieces that are not there -/

/-- A piece without a character is in front of it or not there at all. -/
theorem prefix_of_prefix_append_cons {p x y : List Char} {c : Char} (hc : c ∉ p)
    (h : p <+: x ++ c :: y) : p <+: x := by
  obtain hx | ⟨q, rfl⟩ := List.prefix_or_prefix_of_prefix h (List.prefix_append x (c :: y))
  · exact hx
  · rw [List.prefix_append_right_inj] at h
    cases q with
    | nil => simp
    | cons d q =>
      obtain ⟨rfl, -⟩ := List.cons_prefix_cons.mp h
      exact absurd (List.mem_append_right x List.mem_cons_self) hc

/-- A content without the end of an anchor is closed where that end is put behind it. -/
theorem closedAtEnd_of_not_infix {inner : List Char} (h : ¬ anchorClosing <:+: inner) :
    ClosedAtEnd inner := by
  unfold ClosedAtEnd
  induction inner with
  | nil => exact (cutBehind?_self anchorClosing_ne_nil []).trans (by simp)
  | cons c inner ih =>
    have hprefix : ¬ anchorClosing <+: c :: (inner ++ anchorClosing) := by
      intro hprefix
      -- the end of an anchor holds one `<`, at its front, so it overlaps no other
      rw [anchorClosing_eq, List.cons_prefix_cons] at hprefix
      obtain ⟨rfl, hrest⟩ := hprefix
      have hinner : ['/', 'a', '>'] <+: inner := prefix_of_prefix_append_cons (by decide) hrest
      refine h (List.IsPrefix.isInfix ?_)
      rw [anchorClosing_eq, List.cons_prefix_cons]
      exact ⟨rfl, hinner⟩
    rw [List.cons_append, cutBehind?_cons_of_not_front hprefix,
      ih fun hinner ↦ h (hinner.trans (List.suffix_cons c inner).isInfix)]
    rfl

/-- A content closed at its end can be told from the text behind it. -/
theorem closedAtEnd_inj {inner inner' rest rest' : List Char} (h : ClosedAtEnd inner)
    (h' : ClosedAtEnd inner')
    (heq : inner ++ (anchorClosing ++ rest) = inner' ++ (anchorClosing ++ rest')) :
    inner = inner' ∧ rest = rest' := by
  have hcut := (cutBehind?_append anchorClosing_ne_nil h).2.2 rest
  rw [List.append_assoc, heq, ← List.append_assoc,
    (cutBehind?_append anchorClosing_ne_nil h').2.2 rest'] at hcut
  obtain ⟨hinner, rfl⟩ := Prod.mk.inj (Option.some.inj hcut)
  exact ⟨(List.append_cancel_right hinner).symm, rfl⟩

/-! ### Finding an anchor -/

/-- Attributes without an address are passed over. -/
theorem cutBehindHref?_front {front : List Char} (hclose : '>' ∉ front)
    (haddress : ¬ hrefOpening <:+: front) (inWord : Bool) (rest : List Char) :
    cutBehindHref? inWord (front ++ ' ' :: (hrefOpening ++ rest)) =
      some (front ++ ' ' :: hrefOpening, rest) := by
  induction front generalizing inWord with
  | nil =>
    have hblank : isWordChar ' ' = false := by decide
    rw [List.nil_append, cutBehindHref?_cons_of_not_front (by simp [hrefOpening_eq]) (by decide),
      hblank, cutBehindHref?_self]
    rfl
  | cons c front ih =>
    rw [List.mem_cons, not_or] at hclose
    have hprefix : ¬ (inWord = false ∧
        hrefOpening <+: c :: (front ++ ' ' :: (hrefOpening ++ rest))) := by
      rintro ⟨-, hprefix⟩
      rw [← List.cons_append] at hprefix
      exact haddress (prefix_of_prefix_append_cons (by decide) hprefix).isInfix
    rw [List.cons_append, cutBehindHref?_cons_of_not_front hprefix (Ne.symm hclose.1),
      ih hclose.2 fun hfront ↦ haddress (hfront.trans (List.suffix_cons c front).isInfix)]
    rfl

/-- Where a plain anchor is written, it is found, whatever stands behind it. -/
theorem anchor?_of_isPlain {a : Anchor} (h : a.IsPlain) (rest : List Char) :
    anchor? (a.tail ++ rest) = some (a, rest) := by
  obtain ⟨front, back, hattributes, hword, hclose, haddress, hback⟩ := h.attributes
  have htail : a.tail ++ rest = front ++ ' ' :: (hrefOpening ++
      (a.href ++ '"' :: (back ++ '>' :: (a.inner ++ (anchorClosing ++ rest))))) := by
    simp [Anchor.tail, hattributes]
  rw [anchor?_eq_some_iff, htail]
  refine ⟨?_, front ++ ' ' :: hrefOpening, back, cutBehindHref?_front hclose haddress true _,
    h.href, hback, closedAtEnd_of_not_infix h.inner, by simp [hattributes]⟩
  cases front with
  | nil => rfl
  | cons c front => exact hword

/-! ### Rewriting -/

variable (l : Links)

/-- A text in which no anchor opens is passed over. -/
theorem rewriteText_append_of_not_open {t : List Char} (h : ¬ anchorOpening <:+: t)
    {s : List Char} (hs : ∀ u, s ≠ 'a' :: u) : l.rewriteText (t ++ s) = t ++ l.rewriteText s := by
  induction t with
  | nil => rfl
  | cons c t ih =>
    have hprefix : ¬ ['<', 'a'] <+: c :: (t ++ s) := by
      intro hprefix
      obtain ⟨rfl, u, hu⟩ := List.cons_prefix_cons.mp hprefix
      cases t with
      | nil => exact hs u hu.symm
      | cons d t =>
        obtain ⟨rfl, -⟩ := List.cons.inj hu
        exact h ⟨[], t, rfl⟩
    rw [List.cons_append, rewriteText_cons l hprefix,
      ih fun ht ↦ h (ht.trans (List.suffix_cons c t).isInfix)]
    rfl

theorem passages_cons (p : Anchor × List Char) (parts : List (Anchor × List Char)) :
    passages (p :: parts) = '<' :: 'a' :: (p.1.tail ++ (p.2 ++ passages parts)) := by
  simp [passages, Anchor.write_eq]

theorem passages_ne_cons (parts : List (Anchor × List Char)) (u : List Char) :
    passages parts ≠ 'a' :: u := by
  cases parts with
  | nil => exact (List.cons_ne_nil 'a' u).symm
  | cons p parts =>
    rw [passages_cons]
    exact fun h ↦ absurd (List.cons.inj h).1 (by decide)

theorem retitle_eq (a : Anchor) : l.retitle a = { a with inner := l.content a } := by
  unfold Links.retitle Links.content titleMarkup
  cases l.titleFor (.ofList a.href) <;> rfl

/-- Each anchor of a text is rewritten where it stands. -/
theorem rewriteText_passages {parts : List (Anchor × List Char)}
    (h : ∀ p ∈ parts, p.1.IsPlain ∧ ¬ anchorOpening <:+: p.2) :
    l.rewriteText (passages parts) = passages (parts.map fun p ↦ (l.retitle p.1, p.2)) := by
  induction parts with
  | nil => rfl
  | cons p parts ih =>
    rw [List.forall_mem_cons] at h
    rw [List.map_cons, passages_cons, passages_cons,
      rewriteText_anchor l (anchor?_of_isPlain h.1.1 _),
      rewriteText_append_of_not_open l h.1.2 (passages_ne_cons parts), ih h.2, Anchor.write_eq]
    rfl

/-- A text is changed only together with one of its anchors. -/
theorem passages_inj {parts : List (Anchor × List Char)} (h : ∀ p ∈ parts, p.1.IsPlain) :
    passages (parts.map fun p ↦ (l.retitle p.1, p.2)) = passages parts ↔
      ∀ p ∈ parts, (l.retitle p.1).write = p.1.write := by
  induction parts with
  | nil => simp
  | cons p parts ih =>
    rw [List.forall_mem_cons] at h
    rw [List.map_cons, passages_cons, passages_cons, List.forall_mem_cons, ← ih h.2]
    constructor
    · intro heq
      have hclosed := closedAtEnd_of_not_infix h.1.inner
      simp only [List.cons.injEq, true_and, Anchor.tail, retitle_attributes, List.append_assoc,
        List.cons_append, List.append_cancel_left_eq] at heq
      obtain ⟨hinner, hrest⟩ := closedAtEnd_inj (closedAtEnd_retitle l hclosed) hclosed heq
      refine ⟨?_, List.append_cancel_left hrest⟩
      rw [Anchor.write_eq, Anchor.write_eq, Anchor.tail, Anchor.tail, hinner, retitle_attributes]
    · rintro ⟨hwrite, hrest⟩
      rw [Anchor.write_eq, Anchor.write_eq] at hwrite
      rw [hrest, (List.cons.inj (List.cons.inj hwrite).2).2]

/-- Rewriting acts anchor by anchor. In a text that opens with no anchor, and in which each anchor
is plain and followed by another such text, each anchor keeps its opening tag and gets the title of
the page it points to between its tags, if it points to one; it stays as it is if it does not. All
else stays. The text changes, and a panel that shows it is written, exactly when one of the anchors
changes. -/
theorem rewrite_passages (front : List Char) (parts : List (Anchor × List Char))
    (hfront : ¬ anchorOpening <:+: front)
    (hparts : ∀ p ∈ parts, p.1.IsPlain ∧ ¬ anchorOpening <:+: p.2) :
    let html := String.ofList (front ++ passages parts)
    let retitled (a : Anchor) : Anchor := { a with inner := l.content a }
    (l.rewrite html).toList = front ++ passages (parts.map fun p ↦ (retitled p.1, p.2)) ∧
      (l.rewrite html ≠ html ↔ ∃ p ∈ parts, (retitled p.1).write ≠ p.1.write) ∧
      ∀ display : Answer.Display, display.panel.content = html →
        display.retitleCalls l = if ∃ p ∈ parts, (retitled p.1).write ≠ p.1.write then
          [.setContent (l.rewrite html)] else [] := by
  intro html retitled
  have hrewrite : (l.rewrite html).toList =
      front ++ passages (parts.map fun p ↦ (l.retitle p.1, p.2)) := by
    rw [toList_rewrite, String.toList_ofList,
      rewriteText_append_of_not_open l hfront (passages_ne_cons parts),
      rewriteText_passages l hparts]
  have hchange : l.rewrite html ≠ html ↔ ∃ p ∈ parts, (l.retitle p.1).write ≠ p.1.write := by
    rw [ne_eq, ← String.toList_inj, hrewrite, String.toList_ofList, List.append_cancel_left_eq,
      passages_inj l fun p hp ↦ (hparts p hp).1]
    simp only [Classical.not_forall, exists_prop, ne_eq]
  have hretitled : retitled = l.retitle := funext fun a ↦ (retitle_eq l a).symm
  rw [hretitled]
  refine ⟨hrewrite, hchange, fun display hdisplay ↦ ?_⟩
  rw [Answer.Display.retitleCalls, hdisplay]
  by_cases hsame : l.rewrite html = html
  · rw [if_pos hsame, if_neg fun hsome ↦ hchange.mpr hsome hsame]
  · rw [if_neg hsame, if_pos (hchange.mp hsame)]

/-- Two anchors, the first with tags and another front of an anchor in its content, the second with
a `>` in an address that is none of the site. -/
theorem rewrite_passages_two :
    let l : Links := ⟨"https://docs.test/", ⟨[("api/join", "join & merge")]⟩⟩
    let known : Anchor := ⟨" class=\"k\" href=\"https://docs.test/api/join.html\" id=\"j\"".toList,
      "https://docs.test/api/join.html".toList, "one <b>two</b>\n<a ".toList⟩
    let other : Anchor :=
      ⟨" href=\"https://docs.test/?a>b\"".toList, "https://docs.test/?a>b".toList, "three".toList⟩
    let parts := [(known, ", ".toList), (other, "<b>.".toList)]
    let html := String.ofList ("See ".toList ++ passages parts)
    ¬ anchorOpening <:+: "See ".toList ∧
      (∀ p ∈ parts, p.1.IsPlain ∧ ¬ anchorOpening <:+: p.2) ∧
      (l.rewrite html).toList = ("See <a class=\"k\" href=\"https://docs.test/api/join.html\" " ++
        "id=\"j\">[<b>join &amp; merge</b>]</a>, " ++
        "<a href=\"https://docs.test/?a>b\">three</a><b>.").toList ∧
      l.rewrite html ≠ html := by
  -- texts are slow to take apart in the kernel
  rw [String.toList_append, String.toList_append]
  repeat rw [String.toList_ofList]
  intro l known other parts html
  have hfront : ¬ anchorOpening <:+: ['S', 'e', 'e', ' '] := by decide +kernel
  have hparts : ∀ p ∈ parts, p.1.IsPlain ∧ ¬ anchorOpening <:+: p.2 := by
    have hknown : known.IsPlain :=
      ⟨⟨" class=\"k\"".toList, " id=\"j\"".toList, by decide +kernel⟩, by decide +kernel,
        by decide +kernel⟩
    have hother : other.IsPlain :=
      ⟨⟨[], [], by decide +kernel⟩, by decide +kernel, by decide +kernel⟩
    rw [List.forall_mem_cons, List.forall_mem_singleton]
    exact ⟨⟨hknown, by decide +kernel⟩, hother, by decide +kernel⟩
  obtain ⟨hrewrite, hchange, -⟩ := rewrite_passages l _ parts hfront hparts
  refine ⟨hfront, hparts, hrewrite.trans (by decide +kernel), hchange.mpr ?_⟩
  exact ⟨_, List.mem_cons_self, by decide +kernel⟩

end SiteSearch.Site
