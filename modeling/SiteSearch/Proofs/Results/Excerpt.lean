import SiteSearch.Proofs.Text.Collapse
import SiteSearch.Proofs.Text.Encoding
import SiteSearch.Proofs.Text.Escape
import SiteSearch.Results.Excerpt

/-!
# Excerpts

An excerpt is the text of the main part of a page if this is short enough, and otherwise a front of
it with dots behind, cut between two characters and before any blank (`cut_of_length_le`,
`cut_of_lt_length`). The text is escaped only then, so that no reference is cut
(`excerpt_cut_cleanly`).
-/

set_option autoImplicit false
set_option relaxedAutoImplicit false

namespace SiteSearch.Results

open Text Html

variable {max : Nat} {page text : String} {s : List Char}

/-- The text of the main part of a page is collapsed, and there is some. -/
theorem isCollapsed_mainText (h : mainText page = some text) :
    IsCollapsed text.toList ∧ text.toList ≠ [] := by
  unfold mainText mainText? at h
  split at h
  · cases h
  · next inside main _ =>
    by_cases hempty : collapse (if inside then [] else main.textOutside isHeaderLink) = []
    · simp [hempty] at h
    · simp only [hempty, if_false] at h
      obtain rfl := Option.some.inj h
      rw [String.toList_ofList]
      exact ⟨isCollapsed_collapse _, hempty⟩

theorem cut_of_length_le (hs : IsCollapsed s) (h : s.length ≤ max) : cut max s = s := by
  have hshort := mt Utf8.length_encode_take_lt.mp (Nat.not_lt.mpr h)
  rw [cut, if_neg hshort, List.append_nil, List.take_of_length_le h, hs.trimBack_eq_self]

/-- A front of a text with `max` characters, or with one less if a blank follows, that does not end
in white space. -/
structure IsFront (max : Nat) (s part : List Char) : Prop where
  isPrefix : part <+: s
  last : ∀ c ∈ part.getLast?, isBlank c = false
  length : part.length = max ∨ part.length + 1 = max ∧ s[part.length]? = some ' '

theorem cut_of_lt_length (hs : IsCollapsed s) (h : max < s.length) :
    ∃ part, cut max s = part ++ "...".toList ∧ IsFront max s part := by
  have hlong := Utf8.length_encode_take_lt.mpr h
  have hlength : (s.take max).length = max := List.length_take_of_le (Nat.le_of_lt h)
  refine ⟨trimBack (s.take max), by rw [cut, if_pos hlong]; rfl, ?_, getLast?_dropEndWhile _ _, ?_⟩
  · obtain ⟨back, hback, -⟩ := exists_dropEndWhile isBlank (s.take max)
    exact (hback ▸ List.prefix_append _ back).trans (List.take_prefix max s)
  · obtain heq | heq := hs.trimBack_take max
    · rw [heq]
      exact .inl hlength
    · have hone := congrArg List.length heq
      rw [List.length_append, List.length_singleton, hlength] at hone
      refine .inr ⟨hone, ?_⟩
      rw [← List.getElem?_take_of_lt (Nat.lt_of_succ_le (Nat.le_of_eq hone))]
      nth_rewrite 1 [← heq]
      exact List.getElem?_concat_length

/-- An excerpt is a front of a text, with dots behind it unless it is the whole. -/
theorem exists_prefix_cut (max : Nat) (hs : IsCollapsed s) :
    ∃ part dots, cut max s = part ++ dots ∧ part <+: s ∧ (dots = [] ∨ dots = "...".toList) := by
  rcases Nat.lt_or_ge max s.length with h | h
  · obtain ⟨part, hcut, hpart⟩ := cut_of_lt_length hs h
    exact ⟨part, _, hcut, hpart.isPrefix, .inr rfl⟩
  · exact ⟨s, [], by rw [cut_of_length_le hs h, List.append_nil], List.prefix_rfl, .inl rfl⟩

theorem excerpt_eq_none_iff : excerpt max page = none ↔ mainText page = none :=
  Option.map_eq_none_iff

/-- There is an excerpt just when the main part of a page has text. It shows the whole text if this
has no more characters than allowed, and otherwise the allowed number of them, or one less where a
blank would be the last, with dots behind. What is shown is escaped as a whole: reading the
references gives a front of the text, with the dots at most behind it, and each ampersand begins a
whole reference. -/
theorem excerpt_cut_cleanly (max : Nat) (page : String) :
    (excerpt max page = none ↔ mainText page = none) ∧
    ∀ text, mainText page = some text → ∃ shown,
      excerpt max page = some ("<p class=\"context\">" ++ escapeHtml shown ++ "</p>") ∧
      (text.length ≤ max → shown = text) ∧
      (max < text.length → ∃ part, shown = part ++ "..." ∧ IsFront max text.toList part.toList) ∧
      (∃ part dots, unescape (escapeHtml shown).toList = part ++ dots ∧ part <+: text.toList ∧
        (dots = [] ∨ dots = "...".toList)) ∧
      ∀ front back, (escapeHtml shown).toList = front ++ '&' :: back →
        ∃ reference ∈ references, reference <+: back := by
  refine ⟨excerpt_eq_none_iff, fun text htext ↦ ?_⟩
  obtain ⟨hcollapsed, -⟩ := isCollapsed_mainText htext
  have hescape : (escapeHtml (.ofList (cut max text.toList))).toList =
      (cut max text.toList).flatMap escapeChar := by
    rw [escapeHtml, String.toList_ofList, String.toList_ofList]
  refine ⟨.ofList (cut max text.toList), by rw [excerpt, htext, Option.map_some], fun hle ↦ ?_,
    fun hlt ↦ ?_, ?_, fun front back h ↦ ?_⟩
  · rw [cut_of_length_le hcollapsed hle, String.ofList_toList]
  · obtain ⟨part, hcut, hpart⟩ := cut_of_lt_length hcollapsed hlt
    refine ⟨.ofList part, ?_, String.toList_ofList ▸ hpart⟩
    rw [hcut, String.ofList_append, String.ofList_toList]
  · rw [hescape, unescape_escape]
    exact exists_prefix_cut max hcollapsed
  · rw [hescape] at h
    exact exists_reference_of_escape h

/-- A text cut at a blank, behind a character with a meaning in HTML. -/
theorem excerpt_cut_cleanly_blank :
    let page := "<div role=main>é>  b</div>"
    ∃ part, excerpt 3 page =
        some ("<p class=\"context\">" ++ escapeHtml (part ++ "...") ++ "</p>") ∧
      IsFront 3 "é> b".toList part.toList ∧
      excerpt 3 page = some "<p class=\"context\">é&gt;...</p>" := by
  intro page
  have htext : mainText page = some "é> b" := by decide +kernel
  obtain ⟨shown, hshown, -, hcut, -⟩ := (excerpt_cut_cleanly 3 page).2 _ htext
  obtain ⟨part, rfl, hpart⟩ := hcut (by decide)
  exact ⟨part, hshown, hpart, by decide +kernel⟩

end SiteSearch.Results
