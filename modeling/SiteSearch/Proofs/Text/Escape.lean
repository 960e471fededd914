import SiteSearch.Text.Escape

/-!
# Escaped texts

No quote and no angle bracket stands in an escaped text, so that it ends no attribute value and
starts no tag. Each ampersand there begins one of five references, which stands in the text as a
whole (`exists_reference_of_escape`), and reading the references gives the text back
(`unescape_escape`).
-/

set_option autoImplicit false
set_option relaxedAutoImplicit false

namespace SiteSearch.Text

/-- A character that ends neither a value in quotes nor a tag, and starts no tag. -/
def IsTagChar (c : Char) : Prop :=
  c ≠ '"' ∧ c ≠ '<' ∧ c ≠ '>'

instance (c : Char) : Decidable (IsTagChar c) :=
  inferInstanceAs (Decidable (_ ∧ _ ∧ _))

/-- What is found to hold of all characters of a text holds of each. -/
theorem of_mem_of_all {p : Char → Prop} [DecidablePred p] {s : List Char} {c : Char} (hc : c ∈ s)
    (h : s.all (fun c ↦ p c) = true) : p c :=
  of_decide_eq_true (List.all_eq_true.mp h c hc)

theorem isTagChar_of_mem_escapeChar {c d : Char} (h : d ∈ escapeChar c) : IsTagChar d := by
  unfold escapeChar at h
  iterate 5
    split at h
    · exact of_mem_of_all h (by decide)
  obtain rfl := List.mem_singleton.mp h
  exact ⟨by assumption, by assumption, by assumption⟩

theorem not_mem_escapeHtml (s : String) :
    '<' ∉ (escapeHtml s).toList ∧ '>' ∉ (escapeHtml s).toList := by
  simp only [escapeHtml, String.toList_ofList, List.mem_flatMap, not_exists, not_and]
  exact ⟨fun _ _ h ↦ (isTagChar_of_mem_escapeChar h).2.1 rfl,
    fun _ _ h ↦ (isTagChar_of_mem_escapeChar h).2.2 rfl⟩

/-! ### References -/

/-- The references that characters of meaning in HTML are written as, behind their ampersands. -/
def references : List (List Char) :=
  ["amp;".toList, "lt;".toList, "gt;".toList, "quot;".toList, "#39;".toList]

/-- A text with a character in the place of each such reference. -/
def unescape : List Char → List Char
  | '&' :: 'a' :: 'm' :: 'p' :: ';' :: s => '&' :: unescape s
  | '&' :: 'l' :: 't' :: ';' :: s => '<' :: unescape s
  | '&' :: 'g' :: 't' :: ';' :: s => '>' :: unescape s
  | '&' :: 'q' :: 'u' :: 'o' :: 't' :: ';' :: s => '"' :: unescape s
  | '&' :: '#' :: '3' :: '9' :: ';' :: s => '\x27' :: unescape s
  | c :: s => c :: unescape s
  | [] => []

/-- An escaped character is one of the references, or no ampersand and as it was. -/
theorem escapeChar_eq (c : Char) :
    (∃ reference ∈ references, escapeChar c = '&' :: reference) ∨ escapeChar c = [c] ∧ c ≠ '&' := by
  unfold escapeChar
  split
  · exact .inl (by decide)
  next hamp =>
    iterate 4
      split
      · exact .inl (by decide)
    exact .inr ⟨rfl, hamp⟩

theorem unescape_of_ne {c : Char} (hc : c ≠ '&') (s : List Char) :
    unescape (c :: s) = c :: unescape s := by
  rw [unescape]
  all_goals simp [hc]

theorem unescape_escapeChar (c : Char) (s : List Char) :
    unescape (escapeChar c ++ s) = c :: unescape s := by
  unfold escapeChar
  iterate 5
    split
    · next hc => rw [hc]; rfl
  next hamp _ _ _ _ => exact unescape_of_ne hamp s

/-- Reading the references undoes the escape. -/
theorem unescape_escape (s : List Char) : unescape (s.flatMap escapeChar) = s := by
  induction s with
  | nil => rfl
  | cons c s ih => rw [List.flatMap_cons, unescape_escapeChar, ih]

theorem references_amp : ∀ reference ∈ references, '&' ∉ reference := by
  decide

/-- An ampersand in the written form of a character is its first character. -/
theorem mem_references_of_escapeChar {c : Char} {front back : List Char}
    (h : escapeChar c = front ++ '&' :: back) : back ∈ references := by
  obtain ⟨reference, hmem, hc⟩ | ⟨hc, hamp⟩ := escapeChar_eq c
  · cases front with
    | nil => exact (List.cons.inj (hc.symm.trans h)).2 ▸ hmem
    | cons d front =>
      have heq : reference = front ++ '&' :: back := (List.cons.inj (hc.symm.trans h)).2
      exact absurd (heq ▸ List.mem_append_right _ List.mem_cons_self) (references_amp _ hmem)
  · have hmem : '&' ∈ [c] := hc ▸ h ▸ List.mem_append_right _ List.mem_cons_self
    exact absurd (List.mem_singleton.mp hmem).symm hamp

/-- An ampersand in an escaped text begins one of the references, which is there as a whole. -/
theorem exists_reference_of_escape {s front back : List Char}
    (h : s.flatMap escapeChar = front ++ '&' :: back) :
    ∃ reference ∈ references, reference <+: back := by
  induction s generalizing front with
  | nil => simp at h
  | cons c s ih =>
    rw [List.flatMap_cons, List.append_eq_append_iff] at h
    obtain ⟨rest, -, hrest⟩ | ⟨tail, hfront, htail⟩ := h
    · exact ih hrest
    · cases tail with
      | nil => exact ih (htail.symm.trans (List.nil_append _).symm)
      | cons d tail =>
        obtain ⟨rfl, rfl⟩ := List.cons.inj htail
        exact ⟨tail, mem_references_of_escapeChar hfront, List.prefix_append _ _⟩

end SiteSearch.Text
