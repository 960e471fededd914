import SiteSearch.Text.Blank

/-!
# Words of texts

The words of a text are the words on both sides of any white space in it (`words_append_blank`).
Where two texts meet without any, the last word of the one and the first word of the other become
one word (`words_append_joined`), so that nothing but white space there keeps their words apart
(`words_append_eq_iff`). Collapsing white space changes no word (`words_collapse`).
-/

set_option autoImplicit false
set_option relaxedAutoImplicit false

namespace SiteSearch.Text

variable {c : Char} {s t w : List Char}

theorem words_nil : words [] = [] :=
  rfl

theorem words_cons (c : Char) (s : List Char) :
    words (c :: s) =
      if isBlank c then words s
      else if s.head?.all isBlank then [c] :: words s
      else match words s with
        | [] => [[c]]
        | w :: ws => (c :: w) :: ws := by
  rw [words.eq_def]
  cases s <;> rfl

theorem words_cons_blank (hc : isBlank c = true) (s : List Char) : words (c :: s) = words s := by
  rw [words_cons, if_pos hc]

/-- A character that is not white space begins a word, which it is alone or with the characters that
follow it. -/
theorem words_cons_letter (hc : isBlank c = false) (s : List Char) :
    words (c :: s) = [c] :: words s ∧ s.head?.all isBlank = true ∨
      ∃ w ws, words s = w :: ws ∧ words (c :: s) = (c :: w) :: ws := by
  induction s generalizing c with
  | nil => exact .inl ⟨by simp [words_cons, hc, words_nil], rfl⟩
  | cons d s ih =>
    cases hd : isBlank d with
    | true => exact .inl ⟨by simp [words_cons c, hc, hd], by simp [hd]⟩
    | false =>
      have hword : ∃ w ws, words (d :: s) = w :: ws := by
        obtain ⟨heq, -⟩ | ⟨w, ws, -, heq⟩ := ih hd
        · exact ⟨[d], words s, heq⟩
        · exact ⟨d :: w, ws, heq⟩
      obtain ⟨w, ws, heq⟩ := hword
      exact .inr ⟨w, ws, heq, by simp [words_cons c, hc, hd, heq]⟩

theorem exists_words_cons (hc : isBlank c = false) (s : List Char) :
    ∃ w ws, words (c :: s) = (c :: w) :: ws := by
  obtain ⟨heq, -⟩ | ⟨w, ws, -, heq⟩ := words_cons_letter hc s
  · exact ⟨[], words s, heq⟩
  · exact ⟨w, ws, heq⟩

/-! ### Where words begin -/

/-- A text that does not begin with white space has the characters up to the next as its first
word. -/
theorem words_cons_takeWhile (hc : isBlank c = false) (s : List Char) :
    words (c :: s) =
      (c :: s).takeWhile (!isBlank ·) :: words (s.dropWhile (!isBlank ·)) := by
  induction s generalizing c with
  | nil => simp [words_cons, hc, words_nil]
  | cons d s ih =>
    cases hd : isBlank d with
    | true => simp [words_cons c, hc, hd]
    | false => simp [words_cons c, hc, hd, ih hd]

/-- The rests of a text that its words begin, of which the first begins the text only if `first`.
The recursor makes this quick to evaluate in the kernel. -/
noncomputable def wordTails (first : Bool) (s : List Char) : List (List Char) :=
  s.rec (motive := fun _ ↦ Bool → List (List Char)) (fun _ ↦ [])
    (fun c s tails first ↦
      bif first && !isBlank c then (c :: s) :: tails false else tails (isBlank c)) first

theorem wordTails_cons (first : Bool) (c : Char) (s : List Char) :
    wordTails first (c :: s) =
      bif first && !isBlank c then (c :: s) :: wordTails false s else wordTails (isBlank c) s :=
  rfl

theorem map_wordTails (first : Bool) (s : List Char) :
    (wordTails first s).map (List.takeWhile (!isBlank ·)) =
      words (bif first then s else s.dropWhile (!isBlank ·)) := by
  induction s generalizing first with
  | nil => cases first <;> rfl
  | cons c s ih =>
    cases hc : isBlank c with
    | true => cases first <;> simp [wordTails_cons, hc, ih, words_cons_blank]
    | false =>
      cases first with
      | true => simp [wordTails_cons, hc, ih, words_cons_takeWhile]
      | false => simp [wordTails_cons, hc, ih]

/-- The words of a text, each as the front of a rest of the text. -/
theorem words_eq_map_wordTails (s : List Char) :
    words s = (wordTails true s).map (List.takeWhile (!isBlank ·)) :=
  (map_wordTails true s).symm

/-! ### Texts put together -/

/-- White space keeps the words on its two sides apart. -/
theorem words_append_blank (s : List Char) (hc : isBlank c = true) (t : List Char) :
    words (s ++ c :: t) = words s ++ words t := by
  induction s with
  | nil => exact words_cons_blank hc t
  | cons d s ih =>
    cases s with
    | nil => cases hd : isBlank d <;> simp [words_cons, hc, hd, words_nil]
    | cons e s =>
      simp only [List.cons_append] at ih ⊢
      cases hd : isBlank d with
      | true => rw [words_cons_blank hd, words_cons_blank hd, ih]
      | false =>
        cases he : isBlank e with
        | true => simp [words_cons d, hd, he, ih]
        | false =>
          obtain ⟨w, ws, hword⟩ := exists_words_cons he s
          simp [words_cons d, hd, he, ih, hword]

/-- Without white space where two texts meet, a word of each is a part of one word. -/
theorem words_append_joined (hs : ∃ c ∈ s.getLast?, isBlank c = false)
    (ht : ∃ c ∈ t.head?, isBlank c = false) :
    ∃ ws w v vs, words s = ws ++ [w] ∧ words t = v :: vs ∧ words (s ++ t) = ws ++ (w ++ v) :: vs := by
  obtain ⟨x, hx, hblank⟩ := ht
  obtain ⟨t, rfl⟩ := List.head?_eq_some_iff.mp hx
  obtain ⟨v, vs, hfirst⟩ := exists_words_cons hblank t
  induction s with
  | nil => simp at hs
  | cons c s ih =>
    cases s with
    | nil =>
      have hc : isBlank c = false := by simpa using hs
      exact ⟨[], [c], x :: v, vs, by simp [words_cons c, hc, words_nil], hfirst,
        by simp [words_cons c, hc, hblank, hfirst]⟩
    | cons d s =>
      obtain ⟨ws, w, v', vs', hlast, hfirst', hjoined⟩ := ih (by simpa using hs)
      simp only [List.cons_append] at hjoined ⊢
      cases hc : isBlank c with
      | true =>
        exact ⟨ws, w, v', vs', by rw [words_cons_blank hc, hlast], hfirst',
          by rw [words_cons_blank hc, hjoined]⟩
      | false =>
        cases hd : isBlank d with
        | true =>
          exact ⟨[c] :: ws, w, v', vs', by simp [words_cons c, hc, hd, hlast], hfirst',
            by simp [words_cons c, hc, hd, hjoined]⟩
        | false =>
          cases ws with
          | nil =>
            exact ⟨[], c :: w, v', vs', by simp [words_cons c, hc, hd, hlast], hfirst',
              by simp [words_cons c, hc, hd, hjoined]⟩
          | cons u us =>
            exact ⟨(c :: u) :: us, w, v', vs', by simp [words_cons c, hc, hd, hlast], hfirst',
              by simp [words_cons c, hc, hd, hjoined]⟩

/-- Words stay apart just when the first text is empty or ends in white space, given that the second
begins with none. -/
theorem words_append_eq_iff (ht : ∃ c ∈ t.head?, isBlank c = false) :
    words (s ++ t) = words s ++ words t ↔ ∀ c ∈ s.getLast?, isBlank c = true := by
  constructor
  · intro h c hc
    cases hblank : isBlank c with
    | true => rfl
    | false =>
      -- one word less than the two texts have
      obtain ⟨ws, w, v, vs, hs, hfirst, hjoined⟩ := words_append_joined ⟨c, hc, hblank⟩ ht
      have hlength := congrArg List.length h
      simp only [hs, hfirst, hjoined, List.length_append, List.length_cons, List.length_nil]
        at hlength
      omega
  · intro h
    cases hlast : s.getLast? with
    | none =>
      obtain rfl := List.getLast?_eq_none_iff.mp hlast
      rfl
    | some c =>
      obtain ⟨front, rfl⟩ := List.getLast?_eq_some_iff.mp hlast
      have hc : isBlank c = true := h c hlast
      rw [List.append_assoc, List.singleton_append, words_append_blank front hc,
        words_append_blank front hc, words_nil, List.append_nil]

/-! ### Words and collapsed texts -/

/-- A word has characters, and none of them is white space. -/
theorem of_mem_words (h : w ∈ words s) : w ≠ [] ∧ ∀ c ∈ w, isBlank c = false := by
  induction s generalizing w with
  | nil => simp [words_nil] at h
  | cons c s ih =>
    cases hc : isBlank c with
    | true => exact ih (words_cons_blank hc s ▸ h)
    | false =>
      obtain ⟨heq, -⟩ | ⟨v, vs, hword, heq⟩ := words_cons_letter hc s
      · obtain rfl | h := List.mem_cons.mp (heq ▸ h)
        · simp [hc]
        · exact ih h
      · obtain rfl | h := List.mem_cons.mp (heq ▸ h)
        · have hletters := (ih (hword ▸ List.mem_cons_self)).2
          simp only [ne_eq, reduceCtorEq, not_false_eq_true, List.forall_mem_cons, hc, true_and]
          exact hletters
        · exact ih (hword ▸ List.mem_cons_of_mem v h)

theorem words_of_forall (hw : w ≠ []) (h : ∀ c ∈ w, isBlank c = false) : words w = [w] := by
  induction w with
  | nil => exact absurd rfl hw
  | cons c w ih =>
    have hc := h c List.mem_cons_self
    cases w with
    | nil => simp [words_cons, hc, words_nil]
    | cons d w =>
      have hword := ih (List.cons_ne_nil d w) fun e he ↦ h e (List.mem_cons_of_mem c he)
      simp [words_cons c, hc, h d (by simp), hword]

theorem words_intercalate {ws : List (List Char)}
    (h : ∀ w ∈ ws, w ≠ [] ∧ ∀ c ∈ w, isBlank c = false) : words ([' '].intercalate ws) = ws := by
  induction ws with
  | nil => rfl
  | cons w ws ih =>
    obtain ⟨⟨hne, hw⟩, hws⟩ := List.forall_mem_cons.mp h
    cases ws with
    | nil => simpa using words_of_forall hne hw
    | cons v vs =>
      have hblank : isBlank ' ' = true := by decide
      rw [List.intercalate_cons_cons, List.append_assoc, List.singleton_append,
        words_append_blank w hblank, ih hws, words_of_forall hne hw, List.singleton_append]

theorem words_collapse (s : List Char) : words (collapse s) = words s :=
  words_intercalate fun _ hw ↦ of_mem_words hw

end SiteSearch.Text
