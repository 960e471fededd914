import Mathlib.Data.List.TakeWhile
import SiteSearch.Text.Lower

/-!
# Lower case of a part of a text

A character has the same lower-case form wherever it stands, but for the capital sigma, which is
final behind a letter and before none (`isFinal`). A part of a text whose sigmas are final in the
text just where they are final in the part alone has its lower-case form within that of the text
(`lower_infix`). So it is with a part without capital sigmas (`keepsSigmas_of_notMem`), and with one
that no letter adjoins (`keepsSigmas_of_apart`).
-/

set_option autoImplicit false
set_option relaxedAutoImplicit false

namespace SiteSearch.Text

/-- Whether a capital sigma between two texts is the last letter of a word. -/
def isFinal (before after : List Char) : Bool :=
  cased? before.reverse && !cased? after

/-- The sigmas of a part are final in the text just where they are final in the part alone. -/
def KeepsSigmas (front part back : List Char) : Prop :=
  ∀ u v, part = u ++ 'Σ' :: v → isFinal (front ++ u) (v ++ back) = isFinal u v

theorem keepsSigmas_of_notMem {part : List Char} (h : 'Σ' ∉ part) (front back : List Char) :
    KeepsSigmas front part back :=
  fun _ _ huv ↦ absurd (by simp [huv]) h

/-- What has no letter of its own to begin with leaves the choice to what precedes it. -/
theorem cased?_append {s t : List Char} (ht : cased? t = false) : cased? (s ++ t) = cased? s := by
  unfold cased? at ht ⊢
  cases hs : s.dropWhile isCaseIgnorable with
  | nil =>
    have hignored : ∀ c ∈ s, isCaseIgnorable c = true := List.dropWhile_eq_nil_iff.mp hs
    rw [List.dropWhile_append_of_pos hignored]
    exact ht
  | cons c rest => simp [List.dropWhile_append, hs]

theorem keepsSigmas_of_apart {front back : List Char} (hfront : cased? front.reverse = false)
    (hback : cased? back = false) (part : List Char) : KeepsSigmas front part back := by
  intro u v _
  rw [isFinal, isFinal, List.reverse_append, cased?_append hfront, cased?_append hback]

theorem exists_lowerFrom_append (before s t : List Char) :
    ∃ form, lowerFrom before (s ++ t) = form ++ lowerFrom (s.reverse ++ before) t := by
  induction s generalizing before with
  | nil => exact ⟨[], rfl⟩
  | cons c s ih =>
    obtain ⟨form, hform⟩ := ih (c :: before)
    rw [List.cons_append, lowerFrom, hform, List.reverse_cons, List.append_assoc,
      List.singleton_append]
    exact ⟨_, (List.append_assoc _ _ _).symm⟩

/-- A part keeps its lower-case form where its sigmas keep theirs. -/
theorem lowerFrom_append {before before' part back : List Char}
    (h : ∀ u v, part = u ++ 'Σ' :: v →
      (cased? (u.reverse ++ before) && !cased? (v ++ back)) =
        (cased? (u.reverse ++ before') && !cased? v)) :
    lowerFrom before (part ++ back) =
      lowerFrom before' part ++ lowerFrom (part.reverse ++ before) back := by
  induction part generalizing before before' with
  | nil => rfl
  | cons c part ih =>
    have hrest : lowerFrom (c :: before) (part ++ back) =
        lowerFrom (c :: before') part ++ lowerFrom (part.reverse ++ c :: before) back :=
      ih fun u v huv ↦ by
        have hsigma := h (c :: u) v (by rw [huv, List.cons_append])
        simpa only [List.reverse_cons, List.append_assoc, List.singleton_append] using hsigma
    have hhere : (if c = 'Σ' then
          (if cased? before && !cased? (part ++ back) then ['ς'] else ['σ']) else lowerChar c) =
        if c = 'Σ' then (if cased? before' && !cased? part then ['ς'] else ['σ'])
          else lowerChar c := by
      split
      · next hc =>
        have hsigma := h [] part (by rw [hc, List.nil_append])
        rw [List.reverse_nil, List.nil_append, List.nil_append] at hsigma
        rw [hsigma]
      · rfl
    rw [List.cons_append, lowerFrom, lowerFrom, hhere, hrest, List.reverse_cons]
    simp only [List.append_assoc, List.singleton_append]

theorem lower_infix {front part back : List Char} (h : KeepsSigmas front part back) :
    lower part <:+: lower (front ++ part ++ back) := by
  obtain ⟨form, hform⟩ := exists_lowerFrom_append [] front (part ++ back)
  have hpart : lowerFrom front.reverse (part ++ back) =
      lowerFrom [] part ++ lowerFrom (part.reverse ++ front.reverse) back :=
    lowerFrom_append fun u v huv ↦ by
      simpa only [isFinal, List.reverse_append, List.append_nil] using h u v huv
  rw [List.append_nil] at hform
  refine ⟨form, lowerFrom (part.reverse ++ front.reverse) back, ?_⟩
  rw [lower, lower, List.append_assoc front, hform, hpart, List.append_assoc]

end SiteSearch.Text
