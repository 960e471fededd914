import SiteSearch.Html.Token
import SiteSearch.Proofs.Text.Escape
import SiteSearch.Proofs.Text.Words

/-!
# References in escaped texts

An escaped text is read back character by character: each reference that escaping writes is one
that the reader knows, and ends where escaping ends it (`escapeChar_cases`), so that an attribute
has the very text that was escaped for it (`replaceReferences_escape`). The four names that escaping
uses stand for one character each in the table of names (`escapeNames_filter`).
-/

set_option autoImplicit false
set_option relaxedAutoImplicit false

namespace SiteSearch.Text

open Html

/-! ### Names -/

/-- The name in an entry of the table. -/
def entryName (entry : List Char) : List Char :=
  entry.takeWhile (· ≠ '=')

/-- The characters in an entry of the table. -/
def entryChars (entry : List Char) : List Char :=
  charsOfHex ((entry.dropWhile (· ≠ '=')).drop 1)

/-- The entries of the table. -/
def referenceEntries : List (List Char) :=
  referenceTable.flatMap fun line ↦ words line.toList

/-- The names that escaping uses, with what they stand for. -/
def escapeNames : List (List Char × Char) :=
  [("amp".toList, '&'), ("lt".toList, '<'), ("gt".toList, '>'), ("quot".toList, '"')]

/-- The entries of these names. -/
def escapeEntries : List (List Char) :=
  ["amp=26".toList, "gt=3e".toList, "lt=3c".toList, "quot=22".toList]

theorem map_toList_cons {cs : List Char} {lines : List String} {table : List (List Char)}
    (h : lines.map String.toList = table) :
    (String.ofList cs :: lines).map String.toList = cs :: table := by
  rw [List.map_cons, String.toList_ofList, h]

/-- The entry has one of the names that escaping uses. -/
def isEscapeEntry (entry : List Char) : Bool :=
  escapeNames.any fun e ↦ entryName entry = e.1

/-- One of these names begins with the character. -/
def startsEscapeName (c : Char) : Bool :=
  escapeNames.any fun e ↦ e.1.head? = some c

theorem startsEscapeName_of_isEscapeEntry {s : List Char} {p : Char → Bool}
    (h : isEscapeEntry (s.takeWhile p) = true) : s.head?.any startsEscapeName = true := by
  obtain ⟨e, he, hname⟩ := List.any_eq_true.mp h
  have hfront : e.1 <+: s :=
    of_decide_eq_true hname ▸ (List.takeWhile_prefix _).trans (List.takeWhile_prefix _)
  have hne : ∀ e ∈ escapeNames, e.1 ≠ [] := by decide
  obtain ⟨c, name, hcons⟩ := List.exists_cons_of_ne_nil (hne e he)
  obtain ⟨rest, rfl⟩ := hfront
  rw [hcons, List.cons_append, List.head?_cons, Option.any_some]
  exact List.any_eq_true.mpr ⟨e, he, decide_eq_true (by rw [hcons, List.head?_cons])⟩

/-- The entries with these names are among the words that begin like one of them. -/
theorem filter_isEscapeEntry (lines : List (List Char)) :
    (lines.flatMap words).filter isEscapeEntry =
      (((lines.flatMap (wordTails true)).filter (·.head?.any startsEscapeName)).map
        (List.takeWhile (!isBlank ·))).filter isEscapeEntry := by
  have hwords : lines.flatMap words =
      (lines.flatMap (wordTails true)).map (List.takeWhile (!isBlank ·)) := by
    rw [List.map_flatMap]
    exact congrArg (lines.flatMap ·) (funext words_eq_map_wordTails)
  rw [hwords, List.filter_map, List.filter_map, List.filter_filter]
  refine congrArg _ (List.filter_congr fun s _ ↦ ?_)
  rw [Bool.eq_iff_iff, Bool.and_eq_true]
  exact ⟨fun h ↦ ⟨h, startsEscapeName_of_isEscapeEntry h⟩, And.left⟩

/-- The table has one entry for each of the names that escaping uses. -/
theorem escapeNames_filter : referenceEntries.filter isEscapeEntry = escapeEntries := by
  have htable : ∃ table, referenceTable.map String.toList = table ∧
      (((table.flatMap (wordTails true)).filter (·.head?.any startsEscapeName)).map
        (List.takeWhile (!isBlank ·))).filter isEscapeEntry = escapeEntries := by
    apply Exists.intro
    apply And.intro
    · -- The lines are spelled out, since a text is slow to take apart in the kernel.
      repeat first | exact List.map_nil | apply map_toList_cons
    · decide +kernel
  obtain ⟨table, rfl, hfilter⟩ := htable
  rwa [← filter_isEscapeEntry, List.flatMap_map] at hfilter

/-- What is found in a table does not depend on where it stands, if all that is put under its name
is the same. -/
theorem getElem?_insertMany_of_agree {l : List (String × List Char)} {name : String}
    {cs : List Char} (hall : ∀ e ∈ l, e.1 = name → e.2 = cs)
    {m : Std.HashMap String (List Char)} (h : m[name]? = some cs ∨ ∃ e ∈ l, e.1 = name) :
    (m.insertMany l)[name]? = some cs := by
  induction l generalizing m with
  | nil => simpa using h
  | cons e l ih =>
    rw [Std.HashMap.insertMany_cons]
    refine ih (fun e' he' ↦ hall e' (List.mem_cons_of_mem e he')) ?_
    rw [Std.HashMap.getElem?_insert]
    by_cases hname : e.1 = name
    · refine .inl ?_
      rw [if_pos (beq_of_eq hname), hall e List.mem_cons_self hname]
    · rw [if_neg (by simpa using hname)]
      refine h.imp id fun ⟨e', he', hname'⟩ ↦ ⟨e', ?_, hname'⟩
      exact (List.mem_cons.mp he').resolve_left fun heq ↦ hname (heq ▸ hname')

theorem escapeEntries_agree : ∀ e ∈ escapeNames,
    (∃ entry ∈ escapeEntries, entryName entry = e.1) ∧
      ∀ entry ∈ escapeEntries, entryName entry = e.1 → entryChars entry = [e.2] := by
  decide

/-- A name that escaping uses stands for its character. -/
theorem namedReference?_of_mem {e : List Char × Char} (he : e ∈ escapeNames) :
    namedReference? e.1 = some [e.2] := by
  obtain ⟨⟨known, hknown, hknownName⟩, hagree⟩ := escapeEntries_agree e he
  have hentry {entry : List Char} (hname : entryName entry = e.1) :
      entry ∈ referenceEntries ↔ entry ∈ escapeEntries := by
    rw [← escapeNames_filter, List.mem_filter, isEscapeEntry, List.any_eq_true]
    exact ⟨fun hmem ↦ ⟨hmem, e, he, decide_eq_true hname⟩, fun h ↦ h.1⟩
  rw [namedReference?, namedReferences, Std.HashMap.ofList_eq_insertMany_empty]
  refine getElem?_insertMany_of_agree (fun pair hpair hname ↦ ?_) (.inr ?_)
  · obtain ⟨entry, hmem, rfl⟩ := List.mem_map.mp hpair
    have hname : entryName entry = e.1 := String.ofList_inj.mp hname
    exact hagree entry ((hentry hname).mp hmem) hname
  · exact ⟨_, List.mem_map_of_mem ((hentry hknownName).mpr hknown),
      congrArg String.ofList hknownName⟩

/-! ### References -/

variable (inAttribute : Bool) (rest : List Char)

/-- A name that is known is read as far as the semicolon behind it. -/
theorem readNamed?_of_lookup {lookup : List Char → Option (List Char)} {isBare : List Char → Bool}
    {name cs : List Char} (hname : lookup name = some cs) (hne : name ≠ []) :
    readNamed? lookup isBare inAttribute (name ++ ';' :: rest) name.length = some (cs, rest) := by
  cases hlength : name.length with
  | zero => exact absurd (List.length_eq_zero_iff.mp hlength) hne
  | succ n =>
    have htake : (name ++ ';' :: rest).take (n + 1) = name := by
      rw [← hlength, List.take_left]
    have hdrop : (name ++ ';' :: rest).drop (n + 1) = ';' :: rest := by
      rw [← hlength, List.drop_left]
    simp only [readNamed?, htake, hdrop, hname]

theorem readReference?_name {c : Char} {name cs : List Char}
    (hname : namedReference? (c :: name) = some cs)
    (halphanum : ∀ d ∈ c :: name, d.isAlphanum = true) (hlength : (c :: name).length ≤ 32) :
    readReference? inAttribute (c :: name ++ ';' :: rest) = some (cs, rest) := by
  have hlong : min 32 ((c :: name ++ ';' :: rest).takeWhile Char.isAlphanum).length =
      (c :: name).length := by
    rw [List.takeWhile_append_of_pos halphanum, List.takeWhile_cons_of_neg (by decide),
      List.append_nil]
    exact Nat.min_eq_right hlength
  rw [readReference?, hlong]
  · exact readNamed?_of_lookup inAttribute rest hname (List.cons_ne_nil c name)
  · rintro rest' heq
    obtain rfl : c = '#' := (List.cons.inj heq).1
    exact absurd (halphanum '#' List.mem_cons_self) (by decide)

theorem readReference?_escapeName {e : List Char × Char} (he : e ∈ escapeNames) :
    readReference? inAttribute (e.1 ++ ';' :: rest) = some ([e.2], rest) := by
  have hplain : ∀ e ∈ escapeNames,
      e.1 ≠ [] ∧ e.1.all Char.isAlphanum = true ∧ e.1.length ≤ 32 := by
    decide
  obtain ⟨hne, hall, hlength⟩ := hplain e he
  have halphanum := List.all_eq_true.mp hall
  have hnamed := namedReference?_of_mem he
  obtain ⟨c, name, hname⟩ := List.exists_cons_of_ne_nil hne
  rw [hname] at halphanum hlength hnamed ⊢
  exact readReference?_name inAttribute rest hnamed halphanum hlength

theorem readReference?_quote :
    readReference? inAttribute ("#39;".toList ++ rest) = some (['\x27'], rest) :=
  rfl

/-! ### Escaped characters -/

/-- An escaped character is a reference that the reader gives this character for, or it has no
meaning in HTML and stands for itself. -/
theorem escapeChar_cases (c : Char) :
    (∃ reference, escapeChar c = '&' :: reference ∧ ∀ inAttribute rest,
      readReference? inAttribute (reference ++ rest) = some ([c], rest)) ∨
    (escapeChar c = [c] ∧ c ≠ '&' ∧ c ≠ '<') := by
  have hnamed : ∀ e ∈ escapeNames, escapeChar e.2 = '&' :: (e.1 ++ [';']) := by decide
  by_cases hname : ∃ e ∈ escapeNames, e.2 = c
  · obtain ⟨e, he, rfl⟩ := hname
    refine .inl ⟨e.1 ++ [';'], hnamed e he, fun inAttribute rest ↦ ?_⟩
    rw [List.append_assoc]
    exact readReference?_escapeName inAttribute rest he
  · have hother {d : Char} (hd : ∃ e ∈ escapeNames, e.2 = d) : c ≠ d :=
      fun hc ↦ hname (hc ▸ hd)
    have hamp : c ≠ '&' := hother (by decide)
    have hless : c ≠ '<' := hother (by decide)
    have hgreater : c ≠ '>' := hother (by decide)
    have hdouble : c ≠ '"' := hother (by decide)
    by_cases hquote : c = '\x27'
    · subst hquote
      exact .inl ⟨"#39;".toList, rfl, fun inAttribute rest ↦ readReference?_quote inAttribute rest⟩
    · refine .inr ⟨?_, hamp, hless⟩
      rw [escapeChar, if_neg hamp, if_neg hless, if_neg hgreater, if_neg hdouble, if_neg hquote]

theorem length_escapeChar_pos (c : Char) : 0 < (escapeChar c).length := by
  obtain ⟨reference, hc, -⟩ | ⟨hc, -⟩ := escapeChar_cases c <;> rw [hc] <;> exact Nat.succ_pos _

theorem replaceReferences_escapeChar (c : Char) (hc : c ≠ '\x00') (fuel : Nat) :
    replaceReferences inAttribute (fuel + 1) (escapeChar c ++ rest) =
      c :: replaceReferences inAttribute fuel rest := by
  obtain ⟨reference, hreference, hread⟩ | ⟨hplain, hamp, -⟩ := escapeChar_cases c
  · rw [hreference, List.cons_append, replaceReferences, hread]
    rfl
  · rw [hplain, List.singleton_append, replaceReferences, visible, if_neg hc]
    exact hamp

/-- An attribute has the text that was escaped for it. -/
theorem replaceReferences_escape {s : List Char} (hs : '\x00' ∉ s) {fuel : Nat}
    (hfuel : (s.flatMap escapeChar).length ≤ fuel) :
    replaceReferences inAttribute fuel (s.flatMap escapeChar) = s := by
  induction s generalizing fuel with
  | nil => cases fuel <;> rfl
  | cons c s ih =>
    simp only [List.mem_cons, not_or] at hs
    rw [List.flatMap_cons, List.length_append] at hfuel
    have hlength := length_escapeChar_pos c
    cases fuel with
    | zero => omega
    | succ fuel =>
      rw [List.flatMap_cons, replaceReferences_escapeChar _ _ c (Ne.symm hs.1), ih hs.2 (by omega)]

end SiteSearch.Text
