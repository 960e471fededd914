import Mathlib.Data.List.Chain
import SiteSearch.Proofs.Text.Trim
import SiteSearch.Proofs.Text.Words

/-!
# Collapsed texts

The only white space in a collapsed text are single blanks, which stand neither at its front nor at
its end (`isCollapsed_collapse`). So what is cut off such a text at any place ends in one blank at
most, and trimming takes off no more than that (`IsCollapsed.trimBack_take`).
-/

set_option autoImplicit false
set_option relaxedAutoImplicit false

namespace SiteSearch.Text

variable {s : List Char} {c : Char}

/-- The white space of a text are single blanks between other characters. -/
structure IsCollapsed (s : List Char) : Prop where
  /-- All white space are blanks. -/
  blank : ∀ c ∈ s, isBlank c = true → c = ' '
  /-- No two blanks follow each other. -/
  single : s.IsChain fun c d ↦ isBlank c = true → isBlank d = false
  /-- None is at the front. -/
  head : ∀ c ∈ s.head?, isBlank c = false
  /-- None is at the end. -/
  last : ∀ c ∈ s.getLast?, isBlank c = false

theorem isCollapsed_of_forall (h : ∀ c ∈ s, isBlank c = false) : IsCollapsed s where
  blank c hc hblank := absurd hblank (Bool.eq_false_iff.mp (h c hc))
  single := by
    have hpairs : s.Pairwise fun c d ↦ isBlank c = true → isBlank d = false :=
      List.pairwise_of_forall_mem_list fun _ _ d hd _ ↦ h d hd
    exact hpairs.isChain
  head c hc := h c (List.mem_of_mem_head? hc)
  last c hc := h c (List.mem_of_getLast? hc)

/-- A blank between two collapsed texts makes them one. -/
theorem IsCollapsed.append_blank {t : List Char} (hs : IsCollapsed s) (ht : IsCollapsed t)
    (hsne : s ≠ []) (htne : t ≠ []) : IsCollapsed (s ++ ' ' :: t) where
  blank := by
    simp only [List.mem_append, List.mem_cons]
    rintro c (hc | rfl | hc) hblank
    · exact hs.blank c hc hblank
    · rfl
    · exact ht.blank c hc hblank
  single := by
    rw [List.isChain_append, List.isChain_cons]
    refine ⟨hs.single, ⟨fun d hd _ ↦ ht.head d hd, ht.single⟩, fun c hc d _ hblank ↦ ?_⟩
    rw [hs.last c hc] at hblank
    cases hblank
  head c hc := by
    rw [List.head?_append_of_ne_nil _ hsne] at hc
    exact hs.head c hc
  last c hc := by
    rw [List.getLast?_append_of_ne_nil _ (List.cons_ne_nil _ _),
      List.getLast?_cons_of_ne_nil htne] at hc
    exact ht.last c hc

theorem isCollapsed_intercalate {ws : List (List Char)}
    (h : ∀ w ∈ ws, w ≠ [] ∧ ∀ c ∈ w, isBlank c = false) : IsCollapsed ([' '].intercalate ws) := by
  induction ws with
  | nil => exact isCollapsed_of_forall (by simp)
  | cons w ws ih =>
    obtain ⟨⟨hne, hw⟩, hws⟩ := List.forall_mem_cons.mp h
    cases ws with
    | nil => simpa using isCollapsed_of_forall hw
    | cons v vs =>
      rw [List.intercalate_cons_cons, List.append_assoc, List.singleton_append]
      refine (isCollapsed_of_forall hw).append_blank (ih hws) hne fun hnil ↦ ?_
      have hwords := words_intercalate hws
      rw [hnil] at hwords
      cases hwords

theorem isCollapsed_collapse (s : List Char) : IsCollapsed (collapse s) :=
  isCollapsed_intercalate fun _ hw ↦ of_mem_words hw

/-- What is cut off a collapsed text ends in one blank at most, which trimming takes off. -/
theorem IsCollapsed.trimBack_take (h : IsCollapsed s) (n : Nat) :
    trimBack (s.take n) = s.take n ∨ trimBack (s.take n) ++ [' '] = s.take n := by
  obtain hnil | ⟨front, c, hfront⟩ := (s.take n).eq_nil_or_concat'
  · rw [hnil]
    exact .inl rfl
  · rw [hfront]
    cases hc : isBlank c with
    | false => exact .inl (dropEndWhile_concat front hc)
    | true =>
      have hchain := h.single.take n
      rw [hfront, List.isChain_append] at hchain
      have hlast : ∀ d ∈ front.getLast?, isBlank d = false := by
        intro d hd
        rw [← Bool.not_eq_true]
        intro hblank
        have hnot := hchain.2.2 d hd c rfl hblank
        rw [hc] at hnot
        cases hnot
      have hmem : c ∈ s := List.mem_of_mem_take (hfront ▸ List.mem_concat_self)
      obtain rfl := h.blank c hmem hc
      rw [trimBack, dropEndWhile_append front (by simpa using hc), dropEndWhile_eq_self hlast]
      exact .inr rfl

/-- Nothing is trimmed off a collapsed text. -/
theorem IsCollapsed.trimBack_eq_self (h : IsCollapsed s) : trimBack s = s :=
  dropEndWhile_eq_self h.last

end SiteSearch.Text
