import SiteSearch.Site.Links

/-!
# Where anchors are found

Each cut of `anchor?` stays where it is when the text behind it is exchanged
(`cutBehind?_append`, `cutBehindHref?_append`), so an anchor is found again with other content
between its tags and another text behind it (`anchor?_exchange`). An anchor fails only at its front,
before its address, or because nothing behind the address completes one (`anchor?_isSome`).
-/

set_option autoImplicit false
set_option relaxedAutoImplicit false

namespace SiteSearch.Site

open Text

/-! ### Cuts behind a piece -/

theorem cutBehind?_nil {piece : List Char} (hpiece : piece ≠ []) : cutBehind? piece [] = none :=
  if_neg hpiece

theorem cutBehind?_cons (piece : List Char) (c : Char) (s : List Char) :
    cutBehind? piece (c :: s) =
      if piece.isPrefixOf (c :: s) then some (piece, (c :: s).drop piece.length)
      else (cutBehind? piece s).map fun (front, rest) ↦ (c :: front, rest) :=
  rfl

theorem cutBehind?_cons_of_not_front {piece : List Char} {c : Char} {s : List Char}
    (h : ¬ piece <+: c :: s) :
    cutBehind? piece (c :: s) =
      (cutBehind? piece s).map fun (front, rest) ↦ (c :: front, rest) := by
  rw [cutBehind?_cons, if_neg (by simpa using h)]

theorem cutBehind?_self {piece : List Char} (hpiece : piece ≠ []) (rest : List Char) :
    cutBehind? piece (piece ++ rest) = some (piece, rest) := by
  obtain ⟨c, p, rfl⟩ := List.exists_cons_of_ne_nil hpiece
  rw [List.cons_append, cutBehind?_cons, if_pos]
  · rw [← List.cons_append, List.drop_left]
  · rw [← List.cons_append, List.isPrefixOf_iff_prefix]
    exact List.prefix_append _ _

/-- A cut ends with the piece, and stays where it is whatever follows. -/
theorem cutBehind?_append {piece s front rest : List Char} (hpiece : piece ≠ [])
    (h : cutBehind? piece s = some (front, rest)) :
    s = front ++ rest ∧ piece <:+ front ∧
      ∀ rest', cutBehind? piece (front ++ rest') = some (front, rest') := by
  induction s generalizing front with
  | nil => cases (cutBehind?_nil hpiece).symm.trans h
  | cons c s ih =>
    by_cases hprefix : piece <+: c :: s
    · obtain ⟨t, ht⟩ := hprefix
      rw [← ht, cutBehind?_self hpiece] at h
      obtain ⟨rfl, rfl⟩ := Prod.mk.inj (Option.some.inj h)
      exact ⟨ht.symm, List.suffix_rfl, cutBehind?_self hpiece⟩
    · rw [cutBehind?_cons_of_not_front hprefix, Option.map_eq_some_iff] at h
      obtain ⟨⟨front', rest'⟩, hs, heq⟩ := h
      obtain ⟨rfl, rfl⟩ := Prod.mk.inj heq
      obtain ⟨rfl, hsuffix, hcut⟩ := ih hs
      refine ⟨rfl, hsuffix.trans (List.suffix_cons c front'), fun other ↦ ?_⟩
      rw [List.cons_append, cutBehind?_cons_of_not_front, hcut other]
      · rfl
      · -- the piece is no longer than the front, so what follows the front has no part in it
        intro hother
        have hfront : piece <+: c :: front' :=
          List.prefix_of_prefix_length_le hother (List.prefix_append (c :: front') other)
            (Nat.le_trans hsuffix.length_le (Nat.le_succ _))
        exact hprefix (hfront.trans (List.prefix_append (c :: front') rest'))

/-- A cut behind one character is behind its first place. -/
theorem cutBehind?_singleton {c : Char} {s front rest : List Char} :
    cutBehind? [c] s = some (front, rest) ↔
      ∃ x, c ∉ x ∧ front = x ++ [c] ∧ s = x ++ c :: rest := by
  constructor
  · intro h
    induction s generalizing front with
    | nil => cases (cutBehind?_nil (List.cons_ne_nil c [])).symm.trans h
    | cons d s ih =>
      by_cases hd : c = d
      · rw [← hd, show c :: s = [c] ++ s from rfl, cutBehind?_self (List.cons_ne_nil c [])] at h
        obtain ⟨rfl, rfl⟩ := Prod.mk.inj (Option.some.inj h)
        exact ⟨[], by simp, rfl, by rw [hd]; rfl⟩
      · rw [cutBehind?_cons_of_not_front (by simpa using hd), Option.map_eq_some_iff] at h
        obtain ⟨⟨front', rest'⟩, hs, heq⟩ := h
        obtain ⟨rfl, rfl⟩ := Prod.mk.inj heq
        obtain ⟨x, hx, rfl, rfl⟩ := ih hs
        exact ⟨d :: x, by simp [hd, hx], rfl, rfl⟩
  · rintro ⟨x, hx, rfl, rfl⟩
    induction x with
    | nil => exact cutBehind?_self (List.cons_ne_nil c []) rest
    | cons d x ih =>
      rw [List.mem_cons, not_or] at hx
      rw [List.cons_append, cutBehind?_cons_of_not_front (by simpa using hx.1), ih hx.2]
      rfl

/-- A text that holds the piece is cut, at the latest behind it. -/
theorem exists_cutBehind? {piece : List Char} (hpiece : piece ≠ []) (x rest : List Char) :
    ∃ front y, cutBehind? piece (x ++ piece ++ rest) = some (front, y ++ rest) := by
  induction x with
  | nil => exact ⟨piece, [], by simpa using cutBehind?_self hpiece rest⟩
  | cons c x ih =>
    by_cases hprefix : piece <+: c :: (x ++ piece ++ rest)
    · obtain ⟨t, ht⟩ := hprefix
      have hrest : rest <:+ t := by
        refine List.suffix_of_suffix_length_le (List.suffix_append (c :: (x ++ piece)) rest)
          ⟨piece, ht⟩ ?_
        have hlength := congrArg List.length ht
        simp at hlength
        omega
      obtain ⟨y, rfl⟩ := hrest
      refine ⟨piece, y, ?_⟩
      rw [List.cons_append, List.cons_append, ← ht, cutBehind?_self hpiece]
    · obtain ⟨front, y, hcut⟩ := ih
      refine ⟨c :: front, y, ?_⟩
      rw [List.cons_append, List.cons_append, cutBehind?_cons_of_not_front hprefix, hcut]
      rfl

/-! ### The address of an anchor -/

theorem hrefOpening_eq : hrefOpening = ['h', 'r', 'e', 'f', '=', '"'] := by
  decide

theorem anchorClosing_eq : anchorClosing = ['<', '/', 'a', '>'] := by
  decide

theorem hrefOpening_ne_nil : hrefOpening ≠ [] := by
  decide

theorem anchorClosing_ne_nil : anchorClosing ≠ [] := by
  decide

theorem cutBehindHref?_cons (inWord : Bool) (c : Char) (s : List Char) :
    cutBehindHref? inWord (c :: s) =
      if !inWord && hrefOpening.isPrefixOf (c :: s) then
        some (hrefOpening, (c :: s).drop hrefOpening.length)
      else if c = '>' then none
      else (cutBehindHref? (isWordChar c) s).map fun (front, rest) ↦ (c :: front, rest) :=
  rfl

theorem cutBehindHref?_self (rest : List Char) :
    cutBehindHref? false (hrefOpening ++ rest) = some (hrefOpening, rest) := by
  rw [hrefOpening_eq]
  simp [cutBehindHref?_cons, hrefOpening_eq]

theorem cutBehindHref?_close (inWord : Bool) (s : List Char) :
    cutBehindHref? inWord ('>' :: s) = none := by
  simp [cutBehindHref?_cons, hrefOpening_eq]

theorem cutBehindHref?_cons_of_not_front {inWord : Bool} {c : Char} {s : List Char}
    (h : ¬ (inWord = false ∧ hrefOpening <+: c :: s)) (hc : c ≠ '>') :
    cutBehindHref? inWord (c :: s) =
      (cutBehindHref? (isWordChar c) s).map fun (front, rest) ↦ (c :: front, rest) := by
  rw [cutBehindHref?_cons, if_neg (by simpa using h), if_neg hc]

/-- The cut behind the front of an address does not look at `<a`. -/
theorem cutBehindHref?_open (inWord : Bool) (s : List Char) :
    cutBehindHref? inWord ('<' :: 'a' :: s) =
      (cutBehindHref? true s).map fun (front, rest) ↦ ('<' :: 'a' :: front, rest) := by
  have hword : isWordChar 'a' = true := by decide
  rw [cutBehindHref?_cons_of_not_front (by simp [hrefOpening_eq]) (by decide),
    cutBehindHref?_cons_of_not_front (by simp [hrefOpening_eq]) (by decide), hword,
    Option.map_map]
  rfl

/-- The cut behind the front of an address stays where it is whatever follows. -/
theorem cutBehindHref?_append {inWord : Bool} {s front rest : List Char}
    (h : cutBehindHref? inWord s = some (front, rest)) :
    s = front ++ rest ∧ hrefOpening <:+ front ∧
      ∀ rest', cutBehindHref? inWord (front ++ rest') = some (front, rest') := by
  induction s generalizing inWord front with
  | nil => cases h
  | cons c s ih =>
    by_cases hprefix : inWord = false ∧ hrefOpening <+: c :: s
    · obtain ⟨rfl, t, ht⟩ := hprefix
      rw [← ht, cutBehindHref?_self] at h
      obtain ⟨rfl, rfl⟩ := Prod.mk.inj (Option.some.inj h)
      exact ⟨ht.symm, List.suffix_rfl, cutBehindHref?_self⟩
    · by_cases hc : c = '>'
      · rw [hc, cutBehindHref?_close] at h
        cases h
      rw [cutBehindHref?_cons_of_not_front hprefix hc, Option.map_eq_some_iff] at h
      obtain ⟨⟨front', rest'⟩, hs, heq⟩ := h
      obtain ⟨rfl, rfl⟩ := Prod.mk.inj heq
      obtain ⟨rfl, hsuffix, hcut⟩ := ih hs
      refine ⟨rfl, hsuffix.trans (List.suffix_cons c front'), fun other ↦ ?_⟩
      rw [List.cons_append, cutBehindHref?_cons_of_not_front _ hc, hcut other]
      · rfl
      · rintro ⟨hword, hother⟩
        have hfront : hrefOpening <+: c :: front' :=
          List.prefix_of_prefix_length_le hother (List.prefix_append (c :: front') other)
            (Nat.le_trans hsuffix.length_le (Nat.le_succ _))
        exact hprefix ⟨hword, hfront.trans (List.prefix_append (c :: front') rest')⟩

/-! ### Anchors -/

/-- What may stand between the tags of an anchor: a text that is first closed at its end. -/
def ClosedAtEnd (inner : List Char) : Prop :=
  cutBehind? anchorClosing (inner ++ anchorClosing) = some (inner ++ anchorClosing, [])

/-- Whether a text holds, in this order, the end of an address, the end of an opening tag and the
end of an anchor. -/
def Completes (s : List Char) : Prop :=
  ∃ href back inner rest,
    s = href ++ '"' :: (back ++ '>' :: (inner ++ (anchorClosing ++ rest)))

theorem Completes.append {s : List Char} (h : Completes s) (x : List Char) :
    Completes (x ++ s) := by
  obtain ⟨href, back, inner, rest, rfl⟩ := h
  exact ⟨x ++ href, back, inner, rest, by simp⟩

/-- The text of an anchor behind `<a`. -/
def Anchor.tail (a : Anchor) : List Char :=
  a.attributes ++ '>' :: (a.inner ++ anchorClosing)

theorem Anchor.write_eq (a : Anchor) : a.write = '<' :: 'a' :: a.tail := by
  simp [Anchor.write, Anchor.tail]

theorem closedAtEnd_of_cutBehind? {s inner rest : List Char}
    (h : cutBehind? anchorClosing s = some (inner, rest)) :
    ClosedAtEnd (inner.take (inner.length - anchorClosing.length)) ∧
      inner = inner.take (inner.length - anchorClosing.length) ++ anchorClosing := by
  obtain ⟨-, ⟨x, rfl⟩, hcut⟩ := cutBehind?_append anchorClosing_ne_nil h
  have hx : (x ++ anchorClosing).take ((x ++ anchorClosing).length - anchorClosing.length) = x := by
    simp
  rw [hx]
  exact ⟨by simpa [ClosedAtEnd] using hcut [], rfl⟩

/-- How an anchor is found: its address is the first before any `>`, and its opening tag, its
address and its content end where they first can. -/
theorem anchor?_eq_some_iff {s rest : List Char} {a : Anchor} :
    anchor? s = some (a, rest) ↔ startsInWord s = false ∧ ∃ front back,
      cutBehindHref? true s =
        some (front, a.href ++ '"' :: (back ++ '>' :: (a.inner ++ (anchorClosing ++ rest)))) ∧
      '"' ∉ a.href ∧ '>' ∉ back ∧ ClosedAtEnd a.inner ∧
      a.attributes = front ++ a.href ++ '"' :: back := by
  constructor
  · intro h
    cases hword : startsInWord s with
    | true => simp [anchor?, hword] at h
    | false =>
      simp only [anchor?, hword, Bool.false_eq_true, if_false, Option.bind_eq_bind,
        Option.bind_eq_some_iff, Prod.exists] at h
      obtain ⟨front, r₁, hfront, href, r₂, hhref, back, r₃, hback, inner, r₄, hinner, ha⟩ := h
      obtain ⟨rfl, rfl⟩ := Prod.mk.inj (Option.some.inj ha)
      rw [cutBehind?_singleton] at hhref hback
      obtain ⟨href, hquote, rfl, rfl⟩ := hhref
      obtain ⟨back, hclose, rfl, rfl⟩ := hback
      obtain ⟨hclosed, hwhole⟩ := closedAtEnd_of_cutBehind? hinner
      obtain ⟨rfl, -, -⟩ := cutBehind?_append anchorClosing_ne_nil hinner
      refine ⟨rfl, front, back, ?_, by simpa using hquote, hclose, hclosed, by simp⟩
      rw [hfront]
      simp only [List.dropLast_concat, ← List.append_assoc, ← hwhole]
  · obtain ⟨attributes, href, inner⟩ := a
    rintro ⟨hword, front, back, hfront, hhref, hback, hinner, hattributes⟩
    have hcut := (cutBehind?_append anchorClosing_ne_nil hinner).2.2 rest
    rw [List.append_assoc] at hcut
    simp only at hattributes hfront hhref hcut
    simp [hattributes, anchor?, hword, hfront, cutBehind?_singleton.mpr ⟨_, hhref, rfl, rfl⟩,
      cutBehind?_singleton.mpr ⟨_, hback, rfl, rfl⟩, hcut]

/-- An anchor is what stands between `<a` and the text behind it. -/
theorem eq_tail_append {s rest : List Char} {a : Anchor} (h : anchor? s = some (a, rest)) :
    s = a.tail ++ rest := by
  rw [anchor?_eq_some_iff] at h
  obtain ⟨-, front, back, hfront, -, -, -, hattributes⟩ := h
  obtain ⟨rfl, -, -⟩ := cutBehindHref?_append hfront
  simp [Anchor.tail, hattributes]

theorem completes_of_anchor? {s rest : List Char} {a : Anchor} (h : anchor? s = some (a, rest)) :
    ∃ front behind, cutBehindHref? true s = some (front, behind) ∧ Completes behind := by
  rw [anchor?_eq_some_iff] at h
  obtain ⟨-, front, back, hfront, -⟩ := h
  exact ⟨front, _, hfront, a.href, back, a.inner, rest, rfl⟩

theorem closedAtEnd_of_anchor? {s rest : List Char} {a : Anchor} (h : anchor? s = some (a, rest)) :
    ClosedAtEnd a.inner := by
  rw [anchor?_eq_some_iff] at h
  obtain ⟨-, -, -, -, -, -, hinner, -⟩ := h
  exact hinner

theorem startsInWord_append {front : List Char} (h : front ≠ []) (s t : List Char) :
    startsInWord (front ++ s) = startsInWord (front ++ t) := by
  obtain ⟨c, front, rfl⟩ := List.exists_cons_of_ne_nil h
  rfl

theorem ne_nil_of_cutBehindHref? {inWord : Bool} {s front rest : List Char}
    (h : cutBehindHref? inWord s = some (front, rest)) : front ≠ [] := by
  obtain ⟨-, ⟨x, rfl⟩, -⟩ := cutBehindHref?_append h
  simp [hrefOpening_ne_nil]

/-- An anchor is found again with other content between its tags and another text behind it. -/
theorem anchor?_exchange {s rest : List Char} {a : Anchor} (h : anchor? s = some (a, rest))
    {inner : List Char} (hinner : ClosedAtEnd inner) (rest' : List Char) :
    anchor? ({ a with inner }.tail ++ rest') = some ({ a with inner }, rest') := by
  rw [anchor?_eq_some_iff] at h
  obtain ⟨hword, front, back, hfront, hhref, hback, -, hattributes⟩ := h
  obtain ⟨rfl, -, hcut⟩ := cutBehindHref?_append hfront
  have htail : { a with inner }.tail ++ rest' =
      front ++ (a.href ++ '"' :: (back ++ '>' :: (inner ++ (anchorClosing ++ rest')))) := by
    simp [Anchor.tail, hattributes]
  rw [anchor?_eq_some_iff, htail]
  refine ⟨?_, front, back, hcut _, hhref, hback, hinner, hattributes⟩
  rw [← hword]
  exact startsInWord_append (ne_nil_of_cutBehindHref? hfront) _ _

/-- Behind an address there is an anchor as soon as the text completes one. -/
theorem anchor?_isSome {s front behind : List Char} (hword : startsInWord s = false)
    (hfront : cutBehindHref? true s = some (front, behind)) (h : Completes behind) :
    ∃ a rest, anchor? s = some (a, rest) := by
  obtain ⟨href, back, inner, rest, rfl⟩ := h
  obtain ⟨_, y, hhref⟩ := exists_cutBehind? (List.cons_ne_nil '"' []) href
    (back ++ '>' :: (inner ++ (anchorClosing ++ rest)))
  obtain ⟨_, z, hback⟩ := exists_cutBehind? (List.cons_ne_nil '>' []) (y ++ back)
    (inner ++ (anchorClosing ++ rest))
  obtain ⟨_, w, hinner⟩ := exists_cutBehind? anchorClosing_ne_nil (z ++ inner) rest
  simp only [List.append_assoc, List.singleton_append] at hhref hback hinner
  simp [anchor?, hword, hfront, hhref, hback, hinner]

end SiteSearch.Site
