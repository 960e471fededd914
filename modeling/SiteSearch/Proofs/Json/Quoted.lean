import SiteSearch.Json.Reader

/-!
# Texts as JSON strings

A text is written as a JSON string with its quotes, backslashes and control characters escaped: by
one letter where there is one, else by a unit of four digits (`quote`). The written form is read
back as the text (`text?_read?_quote`), and no control character occurs in it (`le_of_mem_quote`).
-/

set_option autoImplicit false
set_option relaxedAutoImplicit false

namespace SiteSearch.Json

/-! ### The written form -/

/-- The letter that escapes a character behind a backslash, if there is one. -/
def escapeLetter? (c : Char) : Option Char :=
  if c = '"' then some '"'
  else if c = '\\' then some '\\'
  else if c = '\x08' then some 'b'
  else if c = '\x0c' then some 'f'
  else if c = '\n' then some 'n'
  else if c = '\r' then some 'r'
  else if c = '\t' then some 't'
  else none

/-- A lower-case hexadecimal digit. -/
def hexLower (n : Nat) : Char :=
  if n < 10 then Char.ofNat (0x30 + n) else Char.ofNat (0x61 + (n - 10))

/-- A character inside a string. -/
def quoteChar (c : Char) : List Char :=
  match escapeLetter? c with
  | some e => ['\\', e]
  | none =>
    if c.toNat < 0x20 then
      ['\\', 'u', '0', '0', hexLower (c.toNat / 16), hexLower (c.toNat % 16)]
    else [c]

/-- A text as a string. -/
def quote (s : String) : List Char :=
  '"' :: s.toList.flatMap quoteChar ++ ['"']

/-! ### Reading the written form -/

theorem hexDigit?_hexLower : ∀ n < 16, hexDigit? (hexLower n) = some n := by
  decide

theorem hexUnit?_hexLower {n : Nat} (h : n < 0x20) :
    hexUnit? '0' '0' (hexLower (n / 16)) (hexLower (n % 16)) = some n := by
  have hzero : hexDigit? '0' = some 0 := by decide
  simp only [hexUnit?, hzero, hexDigit?_hexLower (n / 16) (by omega),
    hexDigit?_hexLower (n % 16) (by omega), Option.bind_eq_bind, Option.bind_some]
  exact congrArg some (by omega)

theorem readPieces?_closing (rest : List Char) : readPieces? ('"' :: rest) = some ([], rest) :=
  rfl

theorem readPieces?_unit {n : Nat} {a b c d : Char} (hn : hexUnit? a b c d = some n)
    (rest : List Char) :
    readPieces? ('\\' :: 'u' :: a :: b :: c :: d :: rest) =
      (readPieces? rest).map fun (pieces, rest) ↦ (pieceOfUnit n :: pieces, rest) := by
  change (hexUnit? a b c d).bind _ = _
  rw [hn]
  cases readPieces? rest <;> rfl

theorem readPieces?_short {e : Char} (he : e ≠ 'u') (rest : List Char) :
    readPieces? ('\\' :: e :: rest) = do
      let c ← shortEscape? e
      let (pieces, rest) ← readPieces? rest
      return (.char c :: pieces, rest) := by
  rw [readPieces?]
  rintro a b c d s rfl -
  exact he rfl

theorem readPieces?_plain {c : Char} (hquote : c ≠ '"') (hslash : c ≠ '\\')
    (hcontrol : ¬ c.toNat < 0x20) (rest : List Char) :
    readPieces? (c :: rest) = do
      let (pieces, rest) ← readPieces? rest
      return (.char c :: pieces, rest) := by
  rw [readPieces?]
  · rw [if_neg (by simp [hcontrol, hslash])]
  · rintro rfl
    exact hquote rfl
  · rintro a b d e s rfl -
    exact hslash rfl
  · rintro e s rfl -
    exact hslash rfl

/-- The letter that escapes a character is read as that character. -/
theorem shortEscape?_of_escapeLetter? {c e : Char} (h : escapeLetter? c = some e) :
    e ≠ 'u' ∧ shortEscape? e = some c := by
  unfold escapeLetter? at h
  repeat' split at h
  all_goals
    try obtain rfl := Option.some.inj h
    simp_all [shortEscape?]

theorem readPieces?_quoteChar (c : Char) (rest : List Char) :
    readPieces? (quoteChar c ++ rest) =
      (readPieces? rest).map fun (pieces, rest) ↦ (.char c :: pieces, rest) := by
  unfold quoteChar
  cases hletter : escapeLetter? c with
  | some e =>
    obtain ⟨he, hshort⟩ := shortEscape?_of_escapeLetter? hletter
    change readPieces? ('\\' :: e :: rest) = _
    rw [readPieces?_short he, hshort]
    cases readPieces? rest <;> rfl
  | none =>
    by_cases hcontrol : c.toNat < 0x20
    · have hpiece : pieceOfUnit c.toNat = .char c := by
        rw [pieceOfUnit, if_neg (by omega), c.ofNat_toNat]
      simp only [if_pos hcontrol, List.cons_append, List.nil_append,
        readPieces?_unit (hexUnit?_hexLower hcontrol), hpiece]
    · have hquote : c ≠ '"' := by rintro rfl; cases hletter
      have hslash : c ≠ '\\' := by rintro rfl; cases hletter
      simp only [if_neg hcontrol, List.singleton_append, readPieces?_plain hquote hslash hcontrol]
      cases readPieces? rest <;> rfl

theorem readPieces?_quoted (s rest : List Char) :
    readPieces? (s.flatMap quoteChar ++ '"' :: rest) = some (s.map .char, rest) := by
  induction s with
  | nil => exact readPieces?_closing rest
  | cons c s ih =>
    rw [List.flatMap_cons, List.append_assoc, readPieces?_quoteChar, ih]
    rfl

theorem textOf?_map_char (s : List Char) : textOf? (s.map .char) = some s := by
  induction s with
  | nil => rfl
  | cons c s ih => rw [List.map_cons, textOf?, ih, Option.map_some]

theorem readValue?_string (fuel : Nat) (s : List Char) :
    readValue? (fuel + 1) ('"' :: s) =
      (readPieces? s).map fun (pieces, rest) ↦ (.string pieces, rest) :=
  rfl

/-- A quoted text is read as the text. -/
theorem text?_read?_quote (s : String) :
    (read? (.ofList (quote s))).bind Value.text? = some s := by
  have hread : read? (.ofList (quote s)) = some (.string (s.toList.map .char)) := by
    rw [read?, String.toList_ofList, quote, List.cons_append, readValue?_string,
      readPieces?_quoted]
    rfl
  rw [hread, Option.bind_some, Value.text?, textOf?_map_char, Option.map_some, String.ofList_toList]

/-! ### Characters of the written form -/

theorem hexLower_ge : ∀ n < 16, 0x20 ≤ (hexLower n).toNat := by
  decide

/-- No control character occurs in a quoted text. -/
theorem le_of_mem_quote {s : String} {c : Char} (h : c ∈ quote s) : 0x20 ≤ c.toNat := by
  have hchar : ∀ d, c ∈ quoteChar d → 0x20 ≤ c.toNat := by
    intro d hd
    unfold quoteChar at hd
    cases hletter : escapeLetter? d with
    | some e =>
      rw [hletter] at hd
      unfold escapeLetter? at hletter
      repeat' split at hletter
      all_goals
        try obtain rfl := Option.some.inj hletter
        simp at hd hletter
      all_goals obtain rfl | rfl := hd <;> decide
    | none =>
      rw [hletter] at hd
      by_cases hcontrol : d.toNat < 0x20
      · simp only [if_pos hcontrol, List.mem_cons, List.not_mem_nil, or_false] at hd
        obtain rfl | rfl | rfl | rfl | rfl | rfl := hd
        · decide
        · decide
        · decide
        · decide
        · exact hexLower_ge _ (by omega)
        · exact hexLower_ge _ (by omega)
      · simp only [if_neg hcontrol, List.mem_singleton] at hd
        rw [hd]
        exact Nat.le_of_not_lt hcontrol
  simp only [quote, List.mem_cons, List.mem_append, List.mem_flatMap, List.not_mem_nil,
    or_false, List.cons_append] at h
  obtain rfl | ⟨d, -, hd⟩ | rfl := h
  · decide
  · exact hchar d hd
  · decide

end SiteSearch.Json
