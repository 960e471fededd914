import SiteSearch.Proofs.Site.Lookup
import SiteSearch.Site.Links

/-!
# Addresses of pages

The address of a page is its path below the base, with an ending behind it. Which page an address
points to is found by taking the first ending out of it (`RemovesFirst`). No ending begins inside of
another, so none stands across the end of a path, and what is taken out of an address is the ending
behind the path, unless there is one in the path itself (`removeFirst_append`).
-/

set_option autoImplicit false
set_option relaxedAutoImplicit false

namespace SiteSearch.Site

open Text

variable {piece s t : List Char} {c : Char}

/-! ### Taking out a piece -/

/-- The second text is the first without the first occurrence of a piece, or the first itself if the
piece does not occur in it. -/
def RemovesFirst (piece s t : List Char) : Prop :=
  (∃ front back, s = front ++ piece ++ back ∧ t = front ++ back ∧
    ∀ front' back', s = front' ++ piece ++ back' → front.length ≤ front'.length) ∨
  ¬ piece <:+: s ∧ t = s

theorem removeFirst_cons (piece : List Char) (c : Char) (s : List Char) :
    removeFirst piece (c :: s) =
      if piece.isPrefixOf (c :: s) then (c :: s).drop piece.length else c :: removeFirst piece s :=
  rfl

theorem removeFirst_of_not_infix (h : ¬ piece <:+: s) : removeFirst piece s = s := by
  induction s with
  | nil => rfl
  | cons c s ih =>
    rw [List.infix_cons_iff, not_or] at h
    rw [removeFirst_cons, if_neg (mt List.isPrefixOf_iff_prefix.mp h.1), ih h.2]

theorem RemovesFirst.cons (h : RemovesFirst piece s t) (hfront : ¬ piece <+: c :: s) :
    RemovesFirst piece (c :: s) (c :: t) := by
  obtain ⟨front, back, rfl, rfl, hleast⟩ | ⟨hnot, rfl⟩ := h
  · refine .inl ⟨c :: front, back, rfl, rfl, fun front' back' heq ↦ ?_⟩
    cases front' with
    | nil => exact absurd ⟨back', heq.symm⟩ hfront
    | cons d front' => exact Nat.succ_le_succ (hleast front' back' (List.cons.inj heq).2)
  · exact .inr ⟨by rw [List.infix_cons_iff, not_or]; exact ⟨hfront, hnot⟩, rfl⟩

theorem removesFirst_removeFirst (hpiece : piece ≠ []) (s : List Char) :
    RemovesFirst piece s (removeFirst piece s) := by
  induction s with
  | nil => exact .inr ⟨fun h ↦ hpiece (List.infix_nil.mp h), rfl⟩
  | cons c s ih =>
    rw [removeFirst_cons]
    split
    · next hfront =>
      obtain ⟨back, hback⟩ := List.isPrefixOf_iff_prefix.mp hfront
      rw [← hback, List.drop_left]
      exact .inl ⟨[], back, rfl, rfl, fun _ _ _ ↦ Nat.zero_le _⟩
    · next hfront => exact ih.cons (mt List.isPrefixOf_iff_prefix.mpr hfront)

/-- There is one first occurrence. -/
theorem RemovesFirst.unique {t' : List Char} (h : RemovesFirst piece s t)
    (h' : RemovesFirst piece s t') : t = t' := by
  obtain ⟨front, back, hs, rfl, hleast⟩ | ⟨hnot, rfl⟩ := h
  · obtain ⟨front', back', hs', rfl, hleast'⟩ | ⟨hnot', -⟩ := h'
    · have hlength : front.length = front'.length :=
        Nat.le_antisymm (hleast front' back' hs') (hleast' front back hs)
      rw [hs, List.append_assoc, List.append_assoc] at hs'
      obtain ⟨rfl, hrest⟩ := List.append_inj hs' hlength
      rw [List.append_cancel_left hrest]
    · exact absurd ⟨front, back, hs.symm⟩ hnot'
  · obtain ⟨front', back', hs', -, -⟩ | ⟨-, rfl⟩ := h'
    · exact absurd ⟨front', back', hs'.symm⟩ hnot
    · rfl

theorem removesFirst_iff (hpiece : piece ≠ []) : RemovesFirst piece s t ↔ t = removeFirst piece s :=
  ⟨fun h ↦ h.unique (removesFirst_removeFirst hpiece s),
    fun h ↦ h ▸ removesFirst_removeFirst hpiece s⟩

/-- A piece whose first character does not occur again in it has no occurrence across its own
front. -/
theorem not_prefix_append {back : List Char} (hc : c ∉ piece) (hs : s ≠ [])
    (h : ¬ (c :: piece) <+: s) : ¬ (c :: piece) <+: s ++ (c :: piece ++ back) := by
  intro hacross
  obtain hinside | ⟨rest, hrest⟩ := List.prefix_or_prefix_of_prefix hacross (List.prefix_append s _)
  · exact h hinside
  · have hbegins : rest <+: c :: piece ++ back := by
      rw [← List.prefix_append_right_inj s, hrest]
      exact hacross
    cases rest with
    | nil => exact h ⟨[], by rw [← hrest, List.append_nil, List.append_nil]⟩
    | cons d rest =>
      obtain ⟨rfl, -⟩ := List.cons_prefix_cons.mp hbegins
      obtain ⟨x, s, rfl⟩ := List.exists_cons_of_ne_nil hs
      have heq : s ++ d :: rest = piece := (List.cons.inj hrest).2
      exact hc (heq ▸ List.mem_append_right s List.mem_cons_self)

/-- Behind a text without such a piece, it is the piece put there that is taken out. -/
theorem removeFirst_append {back : List Char} (hc : c ∉ piece) (h : ¬ (c :: piece) <:+: s) :
    removeFirst (c :: piece) (s ++ (c :: piece ++ back)) = s ++ back := by
  induction s with
  | nil =>
    have hfront : (c :: piece).isPrefixOf (c :: (piece ++ back)) = true :=
      List.isPrefixOf_iff_prefix.mpr (List.prefix_append (c :: piece) back)
    rw [List.nil_append, List.cons_append, removeFirst_cons, if_pos hfront]
    exact List.drop_left
  | cons d s ih =>
    rw [List.infix_cons_iff, not_or] at h
    have hacross : ¬ (c :: piece).isPrefixOf (d :: (s ++ (c :: piece ++ back))) = true :=
      mt List.isPrefixOf_iff_prefix.mp (not_prefix_append hc (List.cons_ne_nil d s) h.1)
    rw [List.cons_append, removeFirst_cons, if_neg hacross, ih h.2, List.cons_append]

/-! ### Titles of addresses -/

variable {l : Links} {href title : String}

theorem Links.titleFor_append (l : Links) (rest : String) :
    l.titleFor (l.base ++ rest) =
      l.index.titleFor (.ofList (removeFirst pageSuffix rest.toList)) := by
  have hfront : l.base.toList.isPrefixOf (l.base ++ rest).toList = true := by
    rw [String.toList_append]
    exact List.isPrefixOf_iff_prefix.mpr (List.prefix_append _ _)
  rw [titleFor, if_pos hfront]
  simp only [String.toList_append, List.drop_left]

theorem Links.exists_rest_of_titleFor (h : l.titleFor href = some title) :
    ∃ rest, href = l.base ++ rest := by
  rw [titleFor] at h
  split at h
  · next hfront =>
    obtain ⟨rest, hrest⟩ := List.isPrefixOf_iff_prefix.mp hfront
    refine ⟨.ofList rest, ?_⟩
    rw [← String.toList_inj, String.toList_append, String.toList_ofList, hrest]
  · cases h

theorem pageSuffix_eq : pageSuffix = ['.', 'h', 't', 'm', 'l'] := by
  decide

theorem pageSuffix_ne_nil : pageSuffix ≠ [] :=
  pageSuffix_eq ▸ List.cons_ne_nil _ _

/-- The ending of an address is what is taken out if the path has none. -/
theorem removeFirst_pageSuffix (h : ¬ pageSuffix <:+: s) :
    removeFirst pageSuffix (s ++ pageSuffix) = s := by
  rw [pageSuffix_eq] at h ⊢
  have hpoint : '.' ∉ ['h', 't', 'm', 'l'] := by decide
  simpa using @removeFirst_append _ s '.' [] hpoint h

/-- A page is found by its path below the base with or without the ending behind it, if the path has
no ending in it itself. An address has a title just if it is the base and a text behind that has the
path of a page once its first ending is taken out, and the title is that of the first page with this
path. -/
theorem Links.titleFor_finds_page (l : Links) :
    (∀ path : String, ¬ pageSuffix <:+: path.toList →
      l.titleFor (l.base ++ path ++ ".html") = l.index.titleFor path ∧
      l.titleFor (l.base ++ path) = l.index.titleFor path) ∧
    ∀ href title, l.titleFor href = some title ↔ ∃ rest path : String, href = l.base ++ rest ∧
      RemovesFirst pageSuffix rest.toList path.toList ∧ ∃ before after,
        l.index.entries = before ++ (path, title) :: after ∧ ∀ e ∈ before, e.1 ≠ path := by
  refine ⟨fun path hpath ↦ ⟨?_, ?_⟩, fun href title ↦ ⟨fun h ↦ ?_, ?_⟩⟩
  · have hending : (path ++ ".html").toList = path.toList ++ pageSuffix := String.toList_append
    rw [String.append_assoc, l.titleFor_append, hending, removeFirst_pageSuffix hpath,
      String.ofList_toList]
  · rw [l.titleFor_append, removeFirst_of_not_infix hpath, String.ofList_toList]
  · obtain ⟨rest, rfl⟩ := exists_rest_of_titleFor h
    rw [l.titleFor_append] at h
    refine ⟨rest, .ofList (removeFirst pageSuffix rest.toList), rfl, ?_,
      Index.titleFor_eq_some_iff.mp h⟩
    rw [String.toList_ofList]
    exact removesFirst_removeFirst pageSuffix_ne_nil _
  · rintro ⟨rest, path, rfl, hremoved, hfirst⟩
    have hpath := (removesFirst_iff pageSuffix_ne_nil).mp hremoved
    rw [l.titleFor_append, ← hpath, String.ofList_toList]
    exact Index.titleFor_eq_some_iff.mpr hfirst

/-- A path that ends in the front of the ending, and has points. -/
theorem Links.titleFor_finds_page_htm :
    let l : Links := ⟨"https://docs.test/", ⟨[("v1.0/a.htm", "A"), ("v1.0/a.htm", "B")]⟩⟩
    l.titleFor "https://docs.test/v1.0/a.htm.html" = some "A" ∧
      l.titleFor "https://docs.test/v1.0/a.htm" = some "A" := by
  intro l
  have hpath : ¬ pageSuffix <:+: "v1.0/a.htm".toList := by
    rw [String.toList_ofList]
    decide
  obtain ⟨hending, hbare⟩ := l.titleFor_finds_page.1 "v1.0/a.htm" hpath
  have htitle : l.index.titleFor "v1.0/a.htm" = some "A" := by decide
  exact ⟨hending.trans htitle, hbare.trans htitle⟩

end SiteSearch.Site
