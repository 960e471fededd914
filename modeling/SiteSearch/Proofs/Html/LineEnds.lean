import SiteSearch.Proofs.Text.Reference
import SiteSearch.Proofs.Text.Words

/-!
# Line ends of HTML

Before a text of HTML is read, its line ends are made alike. This has nothing to do with escaping
(`normalLines_escape`), does not reach across what is neither a return nor a line feed
(`normalLines_of_no_return`, `normalLines_append`), and changes no word (`words_normalLines`).
-/

set_option autoImplicit false
set_option relaxedAutoImplicit false

namespace SiteSearch.Html

open Text

/-! ### One line end -/

theorem normalLines_feed (s : List Char) :
    normalLines ('\r' :: '\n' :: s) = '\n' :: normalLines s :=
  rfl

/-- What starts no return with a line feed behind it is one character by itself. -/
theorem normalLines_cons_of_not_feed {c : Char} {s : List Char}
    (h : c = '\r' → s.head? ≠ some '\n') :
    normalLines (c :: s) = (if c = '\r' then '\n' else c) :: normalLines s := by
  rw [normalLines.eq_def]
  split <;> grind

theorem normalLines_return {s : List Char} (h : s.head? ≠ some '\n') :
    normalLines ('\r' :: s) = '\n' :: normalLines s :=
  normalLines_cons_of_not_feed fun _ ↦ h

theorem normalLines_cons {c : Char} (h : c ≠ '\r') (s : List Char) :
    normalLines (c :: s) = c :: normalLines s := by
  rw [normalLines_cons_of_not_feed fun hc ↦ absurd hc h, if_neg h]

/-- Induction from one line end to the next: a return may have a line feed behind it. -/
theorem line_induction {motive : List Char → Prop} (nil : motive [])
    (feed : ∀ s, motive s → motive ('\r' :: '\n' :: s))
    (alone : ∀ s, s.head? ≠ some '\n' → motive s → motive ('\r' :: s))
    (other : ∀ c s, c ≠ '\r' → motive s → motive (c :: s)) (s : List Char) : motive s := by
  match s with
  | [] => exact nil
  | c :: s =>
    have ih := line_induction nil feed alone other s
    by_cases hc : c = '\r'
    · by_cases hs : s.head? = some '\n'
      · obtain ⟨t, rfl⟩ := List.head?_eq_some_iff.mp hs
        exact hc ▸ feed t (line_induction nil feed alone other t)
      · exact hc ▸ alone s hs ih
    · exact other c s hc ih

/-! ### Texts and their line ends -/

theorem normalLines_of_no_return {s : List Char} (h : '\r' ∉ s) (t : List Char) :
    normalLines (s ++ t) = s ++ normalLines t := by
  induction s with
  | nil => rfl
  | cons c s ih =>
    simp only [List.mem_cons, not_or] at h
    rw [List.cons_append, normalLines_cons (Ne.symm h.1), ih h.2, List.cons_append]

/-- Line ends do not reach into a text that does not start with a line feed. -/
theorem normalLines_append (s : List Char) {t : List Char} (h : t.head? ≠ some '\n') :
    normalLines (s ++ t) = normalLines s ++ normalLines t := by
  induction s using line_induction with
  | nil => rfl
  | feed s ih =>
    rw [List.cons_append, List.cons_append, normalLines_feed, normalLines_feed, ih,
      List.cons_append]
  | alone s hs ih =>
    have hst : (s ++ t).head? ≠ some '\n' := by
      cases s with
      | nil => exact h
      | cons c s => exact hs
    rw [List.cons_append, normalLines_return hst, normalLines_return hs, ih, List.cons_append]
  | other c s hc ih =>
    rw [List.cons_append, normalLines_cons hc, normalLines_cons hc, ih, List.cons_append]

theorem return_not_mem_escapeChar {c : Char} (h : c ≠ '\r') : '\r' ∉ escapeChar c := by
  unfold escapeChar
  iterate 5
    split
    · decide
  exact fun hmem ↦ h (List.mem_singleton.mp hmem).symm

theorem head?_flatMap_escapeChar {s : List Char} (h : s.head? ≠ some '\n') :
    (s.flatMap escapeChar).head? ≠ some '\n' := by
  cases s with
  | nil => exact h
  | cons c s =>
    obtain ⟨reference, hc, -⟩ | ⟨hc, -⟩ := escapeChar_cases c
    · rw [List.flatMap_cons, hc]
      exact fun heq ↦ absurd (Option.some.inj heq) (by decide)
    · rw [List.flatMap_cons, hc]
      exact h

/-- Escaping and line ends have nothing to do with one another. -/
theorem normalLines_escape (s : List Char) :
    normalLines (s.flatMap escapeChar) = (normalLines s).flatMap escapeChar := by
  have hfeed : escapeChar '\n' = ['\n'] := rfl
  have hreturn : escapeChar '\r' = ['\r'] := rfl
  induction s using line_induction with
  | nil => rfl
  | feed s ih =>
    simp only [List.flatMap_cons, hfeed, hreturn, List.singleton_append, normalLines_feed, ih]
  | alone s hs ih =>
    simp only [List.flatMap_cons, hfeed, hreturn, List.singleton_append, normalLines_return hs,
      normalLines_return (head?_flatMap_escapeChar hs), ih]
  | other c s hc ih =>
    rw [normalLines_cons hc, List.flatMap_cons,
      normalLines_of_no_return (return_not_mem_escapeChar hc), ih, List.flatMap_cons]

theorem mem_normalLines {s : List Char} {c : Char} (h : c ∈ normalLines s) : c ∈ s ∨ c = '\n' := by
  induction s using line_induction with
  | nil => cases h
  | feed s ih =>
    rw [normalLines_feed] at h
    refine (List.mem_cons.mp h).elim .inr fun h ↦ (ih h).imp_left fun hmem ↦ ?_
    exact List.mem_cons_of_mem _ (List.mem_cons_of_mem _ hmem)
  | alone s hs ih =>
    rw [normalLines_return hs] at h
    exact (List.mem_cons.mp h).elim .inr fun h ↦ (ih h).imp_left (List.mem_cons_of_mem _)
  | other d s hd ih =>
    rw [normalLines_cons hd] at h
    obtain rfl | h := List.mem_cons.mp h
    · exact .inl List.mem_cons_self
    · exact (ih h).imp_left (List.mem_cons_of_mem d)

/-! ### Words -/

theorem all_isBlank_head?_normalLines (s : List Char) :
    (normalLines s).head?.all isBlank = s.head?.all isBlank := by
  induction s using line_induction with
  | nil | feed _ _ => rfl
  | alone s hs _ =>
    rw [normalLines_return hs]
    rfl
  | other c s hc _ => rw [normalLines_cons hc, List.head?_cons, List.head?_cons]

/-- Another kind of line end changes no word of a text. -/
theorem words_normalLines (s : List Char) : words (normalLines s) = words s := by
  have hreturn : isBlank '\r' = true := by decide
  have hfeed : isBlank '\n' = true := by decide
  induction s using line_induction with
  | nil => rfl
  | feed s ih =>
    rw [normalLines_feed, words_cons_blank hfeed, words_cons_blank hreturn, words_cons_blank hfeed,
      ih]
  | alone s hs ih =>
    rw [normalLines_return hs, words_cons_blank hfeed, words_cons_blank hreturn, ih]
  | other c s hc ih =>
    rw [normalLines_cons hc, words_cons, words_cons, all_isBlank_head?_normalLines, ih]

end SiteSearch.Html
