import SiteSearch.Proofs.Answer.Panel
import SiteSearch.Proofs.Site.Anchors
import SiteSearch.Proofs.Text.Escape

/-!
# Retitling twice

`rewriteText` is rewriting without a bound on the length of the text, given by `rewriteText_anchor`,
`rewriteText_open` and `rewriteText_cons`. Rewriting keeps the front of a text
(`prefix_rewriteText_iff`), so no anchor appears where none was found before
(`anchor?_rewriteText_eq_none`), and an anchor that was found is found again with its title. A text
that has been rewritten is therefore not changed by rewriting it again, and a panel whose links have
been retitled gets no call when they are retitled once more.
-/

set_option autoImplicit false
set_option relaxedAutoImplicit false

namespace SiteSearch.Site

open Text

variable (l : Links)

/-! ### Rewriting without a bound -/

/-- A text with its anchors retitled. -/
def Links.rewriteText (s : List Char) : List Char :=
  l.rewriteFrom s.length s

theorem length_le_of_anchor? {s rest : List Char} {a : Anchor} (h : anchor? s = some (a, rest)) :
    rest.length ≤ s.length := by
  rw [eq_tail_append h, List.length_append]
  omega

theorem rewriteFrom_nil (n : Nat) : l.rewriteFrom n [] = [] := by
  cases n <;> rfl

theorem rewriteFrom_opening (s : List Char) (n : Nat) :
    l.rewriteFrom (n + 1) ('<' :: 'a' :: s) =
      match anchor? s with
      | some (a, rest) => (l.retitle a).write ++ l.rewriteFrom n rest
      | none => '<' :: l.rewriteFrom n ('a' :: s) :=
  rfl

theorem rewriteFrom_anchor {s rest : List Char} {a : Anchor} (h : anchor? s = some (a, rest))
    (n : Nat) :
    l.rewriteFrom (n + 1) ('<' :: 'a' :: s) = (l.retitle a).write ++ l.rewriteFrom n rest := by
  rw [rewriteFrom_opening, h]

theorem rewriteFrom_cons {c : Char} {s : List Char} (h : ¬ ['<', 'a'] <+: c :: s) (n : Nat) :
    l.rewriteFrom (n + 1) (c :: s) = c :: l.rewriteFrom n s := by
  rw [Links.rewriteFrom]
  rintro t rfl rfl
  exact h (List.prefix_append ['<', 'a'] t)

theorem rewriteFrom_open {s : List Char} (h : anchor? s = none) (n : Nat) :
    l.rewriteFrom (n + 2) ('<' :: 'a' :: s) = '<' :: 'a' :: l.rewriteFrom n s := by
  have ha : ¬ ['<', 'a'] <+: 'a' :: s := by simp
  rw [rewriteFrom_opening, h]
  simp only [rewriteFrom_cons l ha]

/-- The places of a text as rewriting takes them: an anchor with all that belongs to it, the front
of an anchor that is none, and any other character. -/
theorem rewriting_induction {motive : List Char → Prop} (nil : motive [])
    (anchor : ∀ s a rest, anchor? s = some (a, rest) → motive rest → motive ('<' :: 'a' :: s))
    (opening : ∀ s, anchor? s = none → motive s → motive ('<' :: 'a' :: s))
    (cons : ∀ c s, ¬ ['<', 'a'] <+: c :: s → motive s → motive (c :: s)) (s : List Char) :
    motive s := by
  obtain ⟨n, hn⟩ : ∃ n, s.length ≤ n := ⟨_, Nat.le_refl _⟩
  induction n generalizing s with
  | zero => rwa [List.eq_nil_of_length_eq_zero (Nat.le_zero.mp hn)]
  | succ n ih =>
    cases s with
    | nil => exact nil
    | cons c t =>
      rw [List.length_cons] at hn
      by_cases hprefix : ['<', 'a'] <+: c :: t
      · obtain ⟨u, hu⟩ := hprefix
        obtain ⟨rfl, rfl⟩ := List.cons.inj hu
        change (u.length + 1) + 1 ≤ n + 1 at hn
        cases hanchor : anchor? u with
        | none => exact opening u hanchor (ih u (by omega))
        | some found =>
          have hrest := length_le_of_anchor? hanchor
          exact anchor u found.1 found.2 hanchor (ih found.2 (by omega))
      · exact cons c t hprefix (ih t (by omega))

/-- Any bound that the text keeps gives the same result. -/
theorem rewriteFrom_eq {s : List Char} :
    ∀ {n : Nat}, s.length ≤ n → l.rewriteFrom n s = l.rewriteText s := by
  induction s using rewriting_induction with
  | nil => exact fun _ ↦ rewriteFrom_nil l _
  | anchor s a rest h ih =>
    intro n hn
    have hrest := length_le_of_anchor? h
    rw [List.length_cons, List.length_cons] at hn
    obtain ⟨n, rfl⟩ : ∃ m, n = m + 1 := ⟨n - 1, by omega⟩
    rw [Links.rewriteText, List.length_cons, rewriteFrom_anchor l h, rewriteFrom_anchor l h,
      ih (by omega), ih (by simp only [List.length_cons]; omega)]
  | opening s h ih =>
    intro n hn
    rw [List.length_cons, List.length_cons] at hn
    obtain ⟨n, rfl⟩ : ∃ m, n = m + 2 := ⟨n - 2, by omega⟩
    rw [Links.rewriteText, List.length_cons, List.length_cons, rewriteFrom_open l h,
      rewriteFrom_open l h, ih (by omega), ih (Nat.le_refl _)]
  | cons c s h ih =>
    intro n hn
    rw [List.length_cons] at hn
    obtain ⟨n, rfl⟩ : ∃ m, n = m + 1 := ⟨n - 1, by omega⟩
    rw [Links.rewriteText, List.length_cons, rewriteFrom_cons l h, rewriteFrom_cons l h,
      ih (by omega), ih (Nat.le_refl _)]

theorem rewriteText_anchor {s rest : List Char} {a : Anchor} (h : anchor? s = some (a, rest)) :
    l.rewriteText ('<' :: 'a' :: s) = (l.retitle a).write ++ l.rewriteText rest := by
  have hrest := length_le_of_anchor? h
  rw [Links.rewriteText, List.length_cons, rewriteFrom_anchor l h, rewriteFrom_eq]
  rw [List.length_cons]
  omega

theorem rewriteText_open {s : List Char} (h : anchor? s = none) :
    l.rewriteText ('<' :: 'a' :: s) = '<' :: 'a' :: l.rewriteText s :=
  rewriteFrom_open l h s.length

theorem rewriteText_cons {c : Char} {s : List Char} (h : ¬ ['<', 'a'] <+: c :: s) :
    l.rewriteText (c :: s) = c :: l.rewriteText s :=
  rewriteFrom_cons l h s.length

/-! ### The front of a rewritten text -/

theorem head?_rewriteText (s : List Char) : (l.rewriteText s).head? = s.head? := by
  induction s using rewriting_induction with
  | nil => rfl
  | anchor s a rest h ih => rw [rewriteText_anchor l h, Anchor.write_eq]; rfl
  | opening s h ih => rw [rewriteText_open l h]; rfl
  | cons c s h ih => rw [rewriteText_cons l h]; rfl

theorem startsInWord_rewriteText (s : List Char) :
    startsInWord (l.rewriteText s) = startsInWord s := by
  rw [startsInWord, startsInWord, head?_rewriteText]

/-- A text without `<` stays where it is when what follows it is rewritten. -/
theorem rewriteText_append {p : List Char} (h : '<' ∉ p) (s : List Char) :
    l.rewriteText (p ++ s) = p ++ l.rewriteText s := by
  induction p with
  | nil => rfl
  | cons c p ih =>
    rw [List.mem_cons, not_or] at h
    have hc : ¬ ['<', 'a'] <+: c :: (p ++ s) := by simp [h.1]
    rw [List.cons_append, rewriteText_cons l hc, ih h.2]
    rfl

/-- Rewriting neither makes nor breaks a front without `<`. -/
theorem prefix_rewriteText_iff {p : List Char} (h : '<' ∉ p) {s : List Char} :
    p <+: l.rewriteText s ↔ p <+: s := by
  constructor
  · intro hp
    induction p generalizing s with
    | nil => exact List.nil_prefix
    | cons d p ih =>
      rw [List.mem_cons, not_or] at h
      obtain ⟨t, ht⟩ := hp
      cases s with
      | nil => cases ht
      | cons c s =>
        have hcd : d = c := by
          simpa [← ht] using head?_rewriteText l (c :: s)
        have hc : ¬ ['<', 'a'] <+: c :: s := by simp [← hcd, h.1]
        rw [rewriteText_cons l hc] at ht
        obtain ⟨-, ht⟩ := List.cons.inj ht
        rw [hcd, List.cons_prefix_cons]
        exact ⟨rfl, ih h.2 ⟨t, ht⟩⟩
  · rintro ⟨t, rfl⟩
    rw [rewriteText_append l h]
    exact List.prefix_append _ _

/-! ### No anchor appears -/

theorem rewriteText_of_not_completes {s : List Char} (h : ¬ Completes s) : l.rewriteText s = s := by
  induction s using rewriting_induction with
  | nil => rfl
  | anchor s a rest hanchor ih =>
    obtain ⟨front, behind, hcut, hcompletes⟩ := completes_of_anchor? hanchor
    obtain ⟨rfl, -, -⟩ := cutBehindHref?_append hcut
    exact absurd (hcompletes.append ('<' :: 'a' :: front)) h
  | opening s hanchor ih =>
    rw [rewriteText_open l hanchor, ih fun hs ↦ h (hs.append ['<', 'a'])]
  | cons c s hc ih =>
    rw [rewriteText_cons l hc, ih fun hs ↦ h (hs.append [c])]

/-- A text is not rewritten when nothing behind its first address completes an anchor: an anchor in
front of that address would have the same address. -/
theorem rewriteText_of_cutBehindHref? {inWord : Bool} {s front behind : List Char}
    (hcut : cutBehindHref? inWord s = some (front, behind)) (hbehind : ¬ Completes behind) :
    l.rewriteText s = s := by
  induction s using rewriting_induction generalizing inWord front with
  | nil => rfl
  | anchor s a rest hanchor ih =>
    obtain ⟨front', behind', hcut', hcompletes⟩ := completes_of_anchor? hanchor
    rw [cutBehindHref?_open, hcut'] at hcut
    obtain ⟨-, rfl⟩ := Prod.mk.inj (Option.some.inj hcut)
    exact absurd hcompletes hbehind
  | opening s hanchor ih =>
    rw [cutBehindHref?_open, Option.map_eq_some_iff] at hcut
    obtain ⟨⟨front', behind'⟩, hcut', heq⟩ := hcut
    obtain ⟨-, rfl⟩ := Prod.mk.inj heq
    rw [rewriteText_open l hanchor, ih hcut']
  | cons c s hc ih =>
    by_cases hprefix : inWord = false ∧ hrefOpening <+: c :: s
    · obtain ⟨rfl, t, ht⟩ := hprefix
      rw [← ht, cutBehindHref?_self] at hcut
      obtain ⟨-, rfl⟩ := Prod.mk.inj (Option.some.inj hcut)
      rw [← ht, rewriteText_append l (by simp [hrefOpening_eq]),
        rewriteText_of_not_completes l hbehind]
    · by_cases hclose : c = '>'
      · rw [hclose, cutBehindHref?_close] at hcut
        cases hcut
      · rw [cutBehindHref?_cons_of_not_front hprefix hclose, Option.map_eq_some_iff] at hcut
        obtain ⟨⟨front', behind'⟩, hcut', heq⟩ := hcut
        obtain ⟨-, rfl⟩ := Prod.mk.inj heq
        rw [rewriteText_cons l hc, ih hcut']

/-- Rewriting makes no address: an anchor has one already. -/
theorem cutBehindHref?_rewriteText {inWord : Bool} {s : List Char}
    (hcut : cutBehindHref? inWord s = none) : cutBehindHref? inWord (l.rewriteText s) = none := by
  induction s using rewriting_induction generalizing inWord with
  | nil => rfl
  | anchor s a rest hanchor ih =>
    obtain ⟨front, behind, hcut', -⟩ := completes_of_anchor? hanchor
    rw [cutBehindHref?_open, hcut'] at hcut
    cases hcut
  | opening s hanchor ih =>
    rw [cutBehindHref?_open, Option.map_eq_none_iff] at hcut
    rw [rewriteText_open l hanchor, cutBehindHref?_open, ih hcut]
    rfl
  | cons c s hc ih =>
    have hprefix : ¬ (inWord = false ∧ hrefOpening <+: c :: s) := by
      rintro ⟨rfl, t, ht⟩
      rw [← ht, cutBehindHref?_self] at hcut
      cases hcut
    have hrewritten : ¬ (inWord = false ∧ hrefOpening <+: l.rewriteText (c :: s)) := by
      rwa [prefix_rewriteText_iff l (by simp [hrefOpening_eq])]
    rw [rewriteText_cons l hc] at hrewritten ⊢
    by_cases hclose : c = '>'
    · rw [hclose, cutBehindHref?_close]
    · rw [cutBehindHref?_cons_of_not_front hprefix hclose, Option.map_eq_none_iff] at hcut
      rw [cutBehindHref?_cons_of_not_front hrewritten hclose, ih hcut]
      rfl

/-- Where no anchor was found, none is found in the rewritten text. -/
theorem anchor?_rewriteText_eq_none {s : List Char} (h : anchor? s = none) :
    anchor? (l.rewriteText s) = none := by
  cases hword : startsInWord s with
  | true =>
    rw [← startsInWord_rewriteText l] at hword
    simp [anchor?, hword]
  | false =>
    cases hcut : cutBehindHref? true s with
    | none => simp [anchor?, cutBehindHref?_rewriteText l hcut]
    | some found =>
      have hbehind : ¬ Completes found.2 := by
        intro hcompletes
        obtain ⟨a, rest, ha⟩ := anchor?_isSome hword hcut hcompletes
        rw [h] at ha
        cases ha
      rwa [rewriteText_of_cutBehindHref? l hcut hbehind]

/-! ### Anchors with titles -/

theorem cutBehind?_anchorClosing_append {p : List Char} (h : '<' ∉ p) (s : List Char) :
    cutBehind? anchorClosing (p ++ s) =
      (cutBehind? anchorClosing s).map fun (front, rest) ↦ (p ++ front, rest) := by
  induction p with
  | nil => simp
  | cons c p ih =>
    rw [List.mem_cons, not_or] at h
    rw [List.cons_append, cutBehind?_cons_of_not_front (by simp [anchorClosing_eq, h.1]), ih h.2,
      Option.map_map]
    rfl

/-- A title does not close the anchor that it stands in. -/
theorem closedAtEnd_titleMarkup (title : String) : ClosedAtEnd (titleMarkup title) := by
  have hend : cutBehind? anchorClosing ("</b>]".toList ++ anchorClosing) =
      some ("</b>]".toList ++ anchorClosing, []) := by
    decide
  have htitle := cutBehind?_anchorClosing_append (not_mem_escapeHtml title).1
    ("</b>]".toList ++ anchorClosing)
  rw [hend] at htitle
  have hfront : ∀ s, cutBehind? anchorClosing ("[<b>".toList ++ s) =
      (cutBehind? anchorClosing s).map fun (front, rest) ↦ ("[<b>".toList ++ front, rest) := by
    intro s
    rw [show "[<b>".toList ++ s = ['['] ++ ('<' :: (['b', '>'] ++ s)) from rfl,
      cutBehind?_anchorClosing_append (by decide),
      cutBehind?_cons_of_not_front (by simp [anchorClosing_eq]),
      cutBehind?_anchorClosing_append (by decide), Option.map_map, Option.map_map]
    rfl
  unfold ClosedAtEnd titleMarkup
  rw [List.append_assoc, List.append_assoc, hfront, htitle]
  rfl

theorem retitle_href (a : Anchor) : (l.retitle a).href = a.href := by
  unfold Links.retitle
  split <;> rfl

theorem retitle_attributes (a : Anchor) : (l.retitle a).attributes = a.attributes := by
  unfold Links.retitle
  split <;> rfl

theorem closedAtEnd_retitle {a : Anchor} (h : ClosedAtEnd a.inner) :
    ClosedAtEnd (l.retitle a).inner := by
  unfold Links.retitle
  split
  · exact closedAtEnd_titleMarkup _
  · exact h

/-- The title depends on the address alone, so an anchor with its title keeps it. -/
theorem retitle_retitle (a : Anchor) : l.retitle (l.retitle a) = l.retitle a := by
  cases h : l.titleFor (.ofList a.href) <;> simp [Links.retitle, h]

/-- An anchor with its title is found again, and what follows it is the text behind it. -/
theorem anchor?_retitle {s rest : List Char} {a : Anchor} (h : anchor? s = some (a, rest))
    (rest' : List Char) :
    anchor? ((l.retitle a).tail ++ rest') = some (l.retitle a, rest') := by
  have hkeeps : l.retitle a = { a with inner := (l.retitle a).inner } := by
    rw [← retitle_href l a, ← retitle_attributes l a]
  rw [hkeeps]
  exact anchor?_exchange h (closedAtEnd_retitle l (closedAtEnd_of_anchor? h)) rest'

/-! ### Rewriting twice -/

theorem rewriteText_rewriteText (s : List Char) :
    l.rewriteText (l.rewriteText s) = l.rewriteText s := by
  induction s using rewriting_induction with
  | nil => rfl
  | anchor s a rest h ih =>
    rw [rewriteText_anchor l h, Anchor.write_eq, List.cons_append, List.cons_append,
      rewriteText_anchor l (anchor?_retitle l h _), retitle_retitle, ih, Anchor.write_eq]
    rfl
  | opening s h ih =>
    rw [rewriteText_open l h, rewriteText_open l (anchor?_rewriteText_eq_none l h), ih]
  | cons c s h ih =>
    have hrewritten : ¬ ['<', 'a'] <+: c :: l.rewriteText s := by
      rintro ⟨t, ht⟩
      obtain ⟨rfl, hrest⟩ := List.cons.inj ht
      have ha : ['a'] <+: s := (prefix_rewriteText_iff l (by decide)).mp ⟨t, hrest⟩
      exact h (List.cons_prefix_cons.mpr ⟨rfl, ha⟩)
    rw [rewriteText_cons l h, rewriteText_cons l hrewritten, ih]

theorem toList_rewrite (html : String) :
    (l.rewrite html).toList = l.rewriteText html.toList := by
  rw [Links.rewrite, String.toList_ofList]
  rfl

/-- A text whose links have been retitled is not changed by retitling them again, and a panel whose
links have been retitled gets no call when that is done once more. -/
theorem rewrite_idempotent :
    (∀ html, l.rewrite (l.rewrite html) = l.rewrite html) ∧
      ∀ display : Answer.Display, (display.retitle l).retitleCalls l = [] := by
  have htwice : ∀ html, l.rewrite (l.rewrite html) = l.rewrite html := fun html ↦ by
    rw [← String.toList_inj, toList_rewrite, toList_rewrite, rewriteText_rewriteText]
  refine ⟨htwice, fun display ↦ ?_⟩
  rw [Answer.Display.retitleCalls, Answer.Display.retitle_content]
  exact if_pos (htwice _)

end SiteSearch.Site
