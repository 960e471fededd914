import Mathlib.Data.List.Basic
import Mathlib.Data.List.TakeWhile
import SiteSearch.Text.Blank

/-!
# Texts without their ends

What is taken off the end of a text is the longest part at its end of characters of a kind: further
characters of the kind there are taken off as well (`dropEndWhile_append`), and another character
keeps all that precedes it (`dropEndWhile_eq_self`). Trimming takes off white space at both ends
and nothing else (`exists_trim`, `trim_append`).
-/

set_option autoImplicit false
set_option relaxedAutoImplicit false

namespace SiteSearch.Text

variable {p : Char → Bool} {c : Char} {s t : List Char}

theorem dropEndWhile_append (s : List Char) (ht : ∀ c ∈ t, p c = true) :
    dropEndWhile p (s ++ t) = dropEndWhile p s := by
  have hreverse : ∀ c ∈ t.reverse, p c = true := fun c hc ↦ ht c (List.mem_reverse.mp hc)
  rw [dropEndWhile, List.reverse_append, List.dropWhile_append_of_pos hreverse, dropEndWhile]

theorem dropEndWhile_eq_self (h : ∀ c ∈ s.getLast?, p c = false) : dropEndWhile p s = s := by
  obtain rfl | ⟨s, c, rfl⟩ := s.eq_nil_or_concat'
  · rfl
  · have hc : p c = false := h c (by simp)
    rw [dropEndWhile, List.reverse_concat, List.dropWhile_cons_of_neg (by simp [hc]),
      List.reverse_cons, List.reverse_reverse]

theorem dropEndWhile_concat (s : List Char) (hc : p c = false) :
    dropEndWhile p (s ++ [c]) = s ++ [c] := by
  refine dropEndWhile_eq_self ?_
  rw [List.getLast?_concat]
  rintro d ⟨⟩
  exact hc

theorem dropEndWhile_cons (hc : p c = false) (s : List Char) :
    dropEndWhile p (c :: s) = c :: dropEndWhile p s := by
  have hlast : [c].dropWhile p = [c] := List.dropWhile_cons_of_neg (by simp [hc])
  rw [dropEndWhile, dropEndWhile, List.reverse_cons, List.dropWhile_append, hlast]
  split
  · next hempty => rw [List.isEmpty_iff.mp hempty]; rfl
  · rw [List.reverse_append]; rfl

theorem exists_dropEndWhile (p : Char → Bool) (s : List Char) :
    ∃ t, s = dropEndWhile p s ++ t ∧ ∀ c ∈ t, p c = true := by
  refine ⟨(s.reverse.takeWhile p).reverse, ?_, fun c hc ↦ ?_⟩
  · rw [dropEndWhile, ← List.reverse_append, List.takeWhile_append_dropWhile, List.reverse_reverse]
  · exact List.mem_takeWhile_imp (List.mem_reverse.mp hc)

/-- No character of the kind is left at the end. -/
theorem getLast?_dropEndWhile (p : Char → Bool) (s : List Char) :
    ∀ c ∈ (dropEndWhile p s).getLast?, p c = false := by
  intro c hc
  rw [dropEndWhile, List.getLast?_reverse] at hc
  have hnot := List.head?_dropWhile_not p s.reverse
  rw [hc] at hnot
  simpa using hnot

theorem trimFront_append (hs : ∀ c ∈ s, isBlank c = true) (hc : isBlank c = false)
    (t : List Char) : trimFront (s ++ c :: t) = c :: t := by
  rw [trimFront, List.dropWhile_append_of_pos hs, List.dropWhile_cons_of_neg (by simp [hc])]

theorem exists_trim (s : List Char) :
    ∃ front back, s = front ++ trim s ++ back ∧ front.all isBlank ∧ back.all isBlank := by
  obtain ⟨back, htrim, hback⟩ := exists_dropEndWhile isBlank (trimFront s)
  refine ⟨s.takeWhile isBlank, back, ?_, List.all_takeWhile, List.all_eq_true.mpr hback⟩
  rw [List.append_assoc, trim, trimBack, ← htrim, trimFront, List.takeWhile_append_dropWhile]

/-- White space around a text that has none is what is taken off. -/
theorem trim_append {front word back : List Char} (hfront : front.all isBlank)
    (hword : ∀ c ∈ word, isBlank c = false) (hback : back.all isBlank) :
    trim (front ++ word ++ back) = word := by
  cases word with
  | nil =>
    have hnothing : trimFront (front ++ [] ++ back) = [] := by
      rw [trimFront, List.append_nil, List.dropWhile_eq_nil_iff, ← List.all_eq_true,
        List.all_append, hfront, hback]
      rfl
    rw [trim, hnothing]
    rfl
  | cons c word =>
    have hlast : ∀ d ∈ (c :: word).getLast?, isBlank d = false :=
      fun d hd ↦ hword d (List.mem_of_getLast? hd)
    rw [trim, List.append_assoc, List.cons_append,
      trimFront_append (List.all_eq_true.mp hfront) (hword c List.mem_cons_self), trimBack,
      ← List.cons_append, dropEndWhile_append _ (List.all_eq_true.mp hback),
      dropEndWhile_eq_self hlast]

end SiteSearch.Text
