import SiteSearch.Html.Document
import SiteSearch.Proofs.Text.Reference

/-!
# Reading HTML piece by piece

A text takes the builder of a document from one state to another, whatever follows the text
(`Builder.Reaches`), and what two texts do one behind the other is done by both together. A tag
without attributes or with one is such a text (`reaches_opening`, `reaches_openingWith`,
`reaches_closing`), and an escaped text brings its own characters and no others (`reaches_escape`).
-/

set_option autoImplicit false
set_option relaxedAutoImplicit false

namespace SiteSearch.Html

open Text

/-! ### Texts -/

/-- What is read of a text that is given by its characters. -/
theorem readable_ofList (s : List Char) :
    readable (.ofList s) = match s with
      | '\uFEFF' :: s => normalLines s
      | s => normalLines s := by
  generalize htext : String.ofList s = text
  obtain rfl : text.toList = s := htext ▸ String.toList_ofList
  rfl

/-! ### Pieces -/

variable (foreign : Bool) (rest : List Char)

theorem next?_amp : next? foreign ('&' :: rest) =
    match readReference? false rest with
    | some (cs, rest) => some (.chars cs, rest)
    | none => some (.chars ['&'], rest) :=
  rfl

theorem next?_escapeChar (c : Char) :
    next? foreign (escapeChar c ++ rest) = some (.chars [c], rest) := by
  obtain ⟨reference, hreference, hread⟩ | ⟨hplain, hamp, hangle⟩ := escapeChar_cases c
  · rw [hreference, List.cons_append, next?_amp, hread]
  · rw [hplain, List.singleton_append]
    unfold next?
    split <;> simp_all

/-- The characters of a name as tags and attributes have it: no space, no sign of a tag. -/
def IsName (name : List Char) : Prop :=
  ∀ c ∈ name, isTagName c = true ∧ c ≠ '='

instance (name : List Char) : Decidable (IsName name) :=
  decidable_of_iff (name.all (fun c ↦ isTagName c && c ≠ '=') = true) (by simp [IsName])

theorem takeWhile_isTagName {name : List Char} (hname : IsName name) {c : Char}
    (hc : isTagName c = false) :
    (name ++ c :: rest).takeWhile isTagName = name ∧
      (name ++ c :: rest).dropWhile isTagName = c :: rest := by
  have hpos : ∀ c ∈ name, isTagName c = true := fun c hc ↦ (hname c hc).1
  have hneg : ¬ isTagName c = true := by simp [hc]
  rw [List.takeWhile_append_of_pos hpos, List.takeWhile_cons_of_neg hneg, List.append_nil,
    List.dropWhile_append_of_pos hpos, List.dropWhile_cons_of_neg hneg]
  exact ⟨rfl, rfl⟩

theorem readAttributes?_succ (fuel : Nat) (read : List (String × String)) (s : List Char) :
    readAttributes? (fuel + 1) read s =
      match s.dropWhile isSpace with
      | [] => none
      | '>' :: rest => some (read, false, rest)
      | '/' :: '>' :: rest => some (read, true, rest)
      | '/' :: rest => readAttributes? fuel read rest
      | rest =>
        match readAttribute? rest with
        | none => none
        | some (a, rest) =>
          readAttributes? fuel (if read.any (·.1 = a.1) then read else read ++ [a]) rest :=
  rfl

/-- A tag with nothing but its name. -/
theorem readTag_plain (closing : Bool) {name : List Char} (hname : IsName name) :
    readTag closing (name ++ '>' :: rest) =
      (if closing then .closing (nameText name) else .opening (nameText name) [] false, rest) := by
  obtain ⟨htake, hdrop⟩ := takeWhile_isTagName rest hname (by decide : isTagName '>' = false)
  rw [readTag, htake, hdrop, readAttributes?_succ]
  rfl

theorem readAttribute?_quoted (c : Char) {name value : List Char} (hname : IsName name)
    (hvalue : '"' ∉ value) :
    readAttribute? (c :: name ++ '=' :: '"' :: (value ++ '"' :: rest)) =
      some ((nameText (c :: name), attributeText value), rest) := by
  have hpart : ∀ d ∈ name, (!isSpace d && d ≠ '/' && d ≠ '>' && d ≠ '=') = true := by
    intro d hd
    have hname := hname d hd
    simp only [isTagName, Bool.and_eq_true, decide_eq_true_eq] at hname ⊢
    exact hname
  have hquote : ∀ d ∈ value, decide (d ≠ '"') = true := by
    rintro d hd
    exact decide_eq_true fun hdq ↦ hvalue (hdq ▸ hd)
  have hread : readValue? ('"' :: (value ++ '"' :: rest)) = some (attributeText value, rest) := by
    have htake : (value ++ '"' :: rest).takeWhile (· ≠ '"') = value := by
      rw [List.takeWhile_append_of_pos hquote, List.takeWhile_cons_of_neg (by decide),
        List.append_nil]
    have hdrop : (value ++ '"' :: rest).dropWhile (· ≠ '"') = '"' :: rest := by
      rw [List.dropWhile_append_of_pos hquote, List.dropWhile_cons_of_neg (by decide)]
    rw [readValue?, List.dropWhile_cons_of_neg (by decide)]
    simp only [true_or, if_true, htake, hdrop]
  rw [List.cons_append, readAttribute?]
  simp only [List.takeWhile_append_of_pos hpart, List.dropWhile_append_of_pos hpart]
  rw [List.takeWhile_cons_of_neg (by decide), List.dropWhile_cons_of_neg (by decide),
    List.dropWhile_cons_of_neg (by decide), List.append_nil]
  simp only [hread, Option.map_some]

theorem readAttributes?_quoted {c : Char} {name value : List Char} (hname : IsName (c :: name))
    (hvalue : '"' ∉ value) (fuel : Nat) :
    readAttributes? (fuel + 2) []
        (' ' :: (c :: name ++ '=' :: '"' :: (value ++ '"' :: '>' :: rest))) =
      some ([(nameText (c :: name), attributeText value)], false, rest) := by
  obtain ⟨hc, hcs⟩ := List.forall_mem_cons.mp hname
  have hfront : isSpace c = false ∧ c ≠ '/' ∧ c ≠ '>' := by
    simpa [isTagName, and_assoc] using hc.1
  have hread := readAttribute?_quoted ('>' :: rest) c hcs hvalue
  rw [readAttributes?_succ, List.dropWhile_cons_of_pos (by decide), List.cons_append,
    List.dropWhile_cons_of_neg (by simp [hfront.1])]
  rw [List.cons_append] at hread
  split
  · next heq => cases heq
  · next heq => exact absurd (List.cons.inj heq).1 hfront.2.2
  · next heq => exact absurd (List.cons.inj heq).1 hfront.2.1
  · next heq => exact absurd (List.cons.inj heq).1 hfront.2.1
  · rw [hread]
    rfl

/-- An opening tag with one attribute. -/
theorem readTag_attribute {name field value : List Char} (hname : IsName name)
    (hfield : IsName field) (hne : field ≠ []) (hvalue : '"' ∉ value) :
    readTag false (name ++ ' ' :: (field ++ '=' :: '"' :: (value ++ '"' :: '>' :: rest))) =
      (.opening (nameText name) [(nameText field, attributeText value)] false, rest) := by
  obtain ⟨c, field, rfl⟩ := List.exists_cons_of_ne_nil hne
  obtain ⟨htake, hdrop⟩ :=
    takeWhile_isTagName (c :: field ++ '=' :: '"' :: (value ++ '"' :: '>' :: rest)) hname
      (by decide : isTagName ' ' = false)
  have hfuel : ∃ fuel, (name ++
      ' ' :: (c :: field ++ '=' :: '"' :: (value ++ '"' :: '>' :: rest))).length =
        fuel + 1 := by
    simp only [List.length_append, List.length_cons]
    exact ⟨_, rfl⟩
  obtain ⟨fuel, hfuel⟩ := hfuel
  rw [readTag, htake, hdrop, hfuel, readAttributes?_quoted rest hfield hvalue]
  rfl

/-- A letter begins a tag behind an angle bracket, and behind a slash that follows one. -/
theorem next?_letter {c : Char} (hc : c.isAlpha = true) (s : List Char) :
    next? foreign ('<' :: c :: s) =
        some (.token (readTag false (c :: s)).1, (readTag false (c :: s)).2) ∧
      next? foreign ('<' :: '/' :: c :: s) =
        some (.token (readTag true (c :: s)).1, (readTag true (c :: s)).2) := by
  have hne {d : Char} (hd : d.isAlpha = false) : c ≠ d := by
    rintro rfl
    cases hc.symm.trans hd
  have hslash : c ≠ '/' := hne (by decide)
  have hbang : c ≠ '!' := hne (by decide)
  have hmark : c ≠ '?' := hne (by decide)
  have hclose : c ≠ '>' := hne (by decide)
  unfold next?
  constructor
  all_goals split <;> grind

theorem next?_opening {c : Char} (hc : c.isAlpha = true) {s : List Char} {t : Token}
    (h : readTag false (c :: s) = (t, rest)) :
    next? foreign ('<' :: c :: s) = some (.token t, rest) := by
  rw [(next?_letter foreign hc s).1, h]

theorem next?_closing {c : Char} (hc : c.isAlpha = true) {s : List Char} {t : Token}
    (h : readTag true (c :: s) = (t, rest)) :
    next? foreign ('<' :: '/' :: c :: s) = some (.token t, rest) := by
  rw [(next?_letter foreign hc s).2, h]

/-! ### Reading on -/

namespace Builder

variable {b b' b'' : Builder} {s t : List Char}

/-- A text takes a builder from one state to another, whatever follows the text. -/
def Reaches (b : Builder) (s : List Char) (b' : Builder) : Prop :=
  ∀ rest fuel, (s ++ rest).length < fuel →
    ∃ fuel', rest.length < fuel' ∧ b.read fuel (s ++ rest) = b'.read fuel' rest

theorem Reaches.refl (b : Builder) : b.Reaches [] b :=
  fun _ fuel hfuel ↦ ⟨fuel, hfuel, rfl⟩

theorem Reaches.append (h : b.Reaches s b') (h' : b'.Reaches t b'') : b.Reaches (s ++ t) b'' := by
  intro rest fuel hfuel
  rw [List.append_assoc] at hfuel ⊢
  obtain ⟨fuel', hfuel', hread⟩ := h (t ++ rest) fuel hfuel
  obtain ⟨fuel'', hfuel'', hread'⟩ := h' rest fuel' hfuel'
  exact ⟨fuel'', hfuel'', hread.trans hread'⟩

/-- A whole text is read to where it takes the builder, and then it ends. -/
theorem Reaches.read (h : b.Reaches s b') : b.read (s.length + 1) s = b'.take .ending := by
  obtain ⟨fuel, hfuel, hread⟩ := h [] (s.length + 1) (by simp)
  rw [List.append_nil] at hread
  rw [hread]
  cases fuel with
  | zero => rfl
  | succ fuel => rfl

theorem read_succ (b : Builder) (fuel : Nat) (s : List Char) :
    b.read (fuel + 1) s =
      match next? b.takesSections s with
      | none => b.take .ending
      | some (.nothing, rest) => { b with skipFeed := false }.read fuel rest
      | some (.chars cs, rest) => (b.takeChars cs).read fuel rest
      | some (.token t, rest) =>
        match (b.take t).raw with
        | none => (b.take t).read fuel rest
        | some kind =>
          let (text, rest) := rawText kind ((b.take t).cell (b.take t).current).name rest
          ({ b.take t with raw := none }.takeChars text).read fuel rest :=
  rfl

theorem Reaches.chars {c : Char} {cs : List Char}
    (h : ∀ foreign rest, next? foreign (c :: s ++ rest) = some (.chars cs, rest)) :
    b.Reaches (c :: s) (b.takeChars cs) := by
  intro rest fuel hfuel
  cases fuel with
  | zero => exact absurd hfuel (Nat.not_lt_zero _)
  | succ fuel =>
    simp only [List.cons_append, List.length_cons, List.length_append] at hfuel
    exact ⟨fuel, by omega, by rw [read_succ, h]⟩

theorem Reaches.token {c : Char} {t : Token} (hraw : (b.take t).raw = none)
    (h : ∀ foreign rest, next? foreign (c :: s ++ rest) = some (.token t, rest)) :
    b.Reaches (c :: s) (b.take t) := by
  intro rest fuel hfuel
  cases fuel with
  | zero => exact absurd hfuel (Nat.not_lt_zero _)
  | succ fuel =>
    simp only [List.cons_append, List.length_cons, List.length_append] at hfuel
    refine ⟨fuel, by omega, ?_⟩
    rw [read_succ, h]
    simp only [hraw]

/-- A fragment is what its text takes the builder to, once the text has ended. -/
theorem Reaches.parseFragment {text : String} (hfront : text.toList.head? ≠ some '\uFEFF')
    (h : startFragment.Reaches (normalLines text.toList) b) :
    parseFragment text = (b.take .ending).nodes := by
  have hreadable : readable text = normalLines text.toList := by
    unfold readable
    split
    · next s heq => exact absurd (congrArg List.head? heq) hfront
    · rfl
  rw [Html.parseFragment, hreadable, h.read]

/-- An escaped text brings its own characters. -/
theorem reaches_escape (b : Builder) (s : List Char) :
    b.Reaches (s.flatMap escapeChar) (b.takeChars s) := by
  induction s generalizing b with
  | nil => exact .refl b
  | cons c s ih =>
    have hchar : b.Reaches (escapeChar c) (b.takeChars [c]) := by
      obtain ⟨d, cs, hd⟩ := List.exists_cons_of_ne_nil
        (List.ne_nil_of_length_pos (length_escapeChar_pos c))
      rw [hd]
      refine .chars fun foreign rest ↦ ?_
      rw [← hd]
      exact next?_escapeChar foreign rest c
    exact hchar.append (ih _)

/-! ### Tags -/

variable {c : Char} {name : String} (hc : c.isAlpha = true) (hs : IsName (c :: s))
  (hname : nameText (c :: s) = name) (hraw : b'.raw = none)
include hc hs hname hraw

/-- An opening tag without attributes. -/
theorem reaches_opening (htake : b.take (.opening name [] false) = b') :
    b.Reaches ('<' :: (c :: s ++ ['>'])) b' := by
  subst htake hname
  refine .token hraw fun foreign rest ↦ ?_
  have hread := readTag_plain rest false hs
  simp only [List.cons_append, List.append_assoc, List.nil_append] at hread ⊢
  exact next?_opening foreign rest hc hread

/-- An opening tag with an attribute. -/
theorem reaches_openingWith {field value : List Char} (hfield : IsName field) (hne : field ≠ [])
    (hvalue : '"' ∉ value)
    (htake : b.take (.opening name [(nameText field, attributeText value)] false) = b') :
    b.Reaches ('<' :: (c :: s ++ ' ' :: (field ++ '=' :: '"' :: (value ++ ['"', '>'])))) b' := by
  subst htake hname
  refine .token hraw fun foreign rest ↦ ?_
  have hread := readTag_attribute rest hs hfield hne hvalue
  simp only [List.cons_append, List.append_assoc, List.nil_append] at hread ⊢
  exact next?_opening foreign rest hc hread

/-- A closing tag. -/
theorem reaches_closing (htake : b.take (.closing name) = b') :
    b.Reaches ('<' :: '/' :: (c :: s ++ ['>'])) b' := by
  subst htake hname
  refine .token hraw fun foreign rest ↦ ?_
  have hread := readTag_plain rest true hs
  simp only [List.cons_append, List.append_assoc, List.nil_append] at hread ⊢
  exact next?_closing foreign rest hc hread

end Builder

end SiteSearch.Html
