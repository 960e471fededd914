import Mathlib.Data.List.Forall2
import SiteSearch.Proofs.Json.Quoted

/-!
# The grammar of JSON

How a text may be written between quotes (`Spells`), what a JSON value looks like (`IsValue`), and
how a list of texts and an object with given members may be written (`SpellsTexts`,
`SpellsObject`): with any blanks between the parts, and with any characters of a text escaped. One
way to write them is without blanks and with no more escapes than it takes (`spellsTexts_quoted`,
`spellsObject_quoted`).
-/

set_option autoImplicit false
set_option relaxedAutoImplicit false

namespace SiteSearch.Json

/-! ### What is written -/

/-- Blanks and nothing else. -/
def IsSpaces (s : List Char) : Prop :=
  ∀ c ∈ s, isSpace c = true

/-- What a text may be written as between quotes. -/
inductive Spells : List Char → List Char → Prop
  | nil : Spells [] []
  | plain {c : Char} {t s : List Char} (hquote : c ≠ '"') (hslash : c ≠ '\\')
      (hcontrol : ¬ c.toNat < 0x20) (h : Spells t s) : Spells (c :: t) (c :: s)
  | short {c e : Char} {t s : List Char} (he : shortEscape? e = some c) (h : Spells t s) :
      Spells (c :: t) ('\\' :: e :: s)
  | unit {n : Nat} {a b c d : Char} {t s : List Char} (hn : hexUnit? a b c d = some n)
      (hwhole : ¬ (0xD800 ≤ n ∧ n ≤ 0xDFFF)) (h : Spells t s) :
      Spells (Char.ofNat n :: t) ('\\' :: 'u' :: a :: b :: c :: d :: s)
  | pair {m n : Nat} {a b c d a' b' c' d' : Char} {t s : List Char}
      (hm : hexUnit? a b c d = some m) (hn : hexUnit? a' b' c' d' = some n)
      (hhigh : 0xD800 ≤ m ∧ m < 0xDC00) (hlow : 0xDC00 ≤ n ∧ n ≤ 0xDFFF) (h : Spells t s) :
      Spells (Char.ofNat (0x10000 + 0x400 * (m - 0xD800) + (n - 0xDC00)) :: t)
        ('\\' :: 'u' :: a :: b :: c :: d :: '\\' :: 'u' :: a' :: b' :: c' :: d' :: s)

/-- What may stand between quotes. -/
inductive IsInside : List Char → Prop
  | nil : IsInside []
  | plain {c : Char} {s : List Char} (hquote : c ≠ '"') (hslash : c ≠ '\\')
      (hcontrol : ¬ c.toNat < 0x20) (h : IsInside s) : IsInside (c :: s)
  | short {c e : Char} {s : List Char} (he : shortEscape? e = some c) (h : IsInside s) :
      IsInside ('\\' :: e :: s)
  | unit {n : Nat} {a b c d : Char} {s : List Char} (hn : hexUnit? a b c d = some n)
      (h : IsInside s) : IsInside ('\\' :: 'u' :: a :: b :: c :: d :: s)

/-- A row of digits. -/
def IsDigits (s : List Char) : Prop :=
  s ≠ [] ∧ ∀ c ∈ s, c.isDigit = true

/-- The digits after a point, if there are any. -/
inductive IsFraction : List Char → Prop
  | absent : IsFraction []
  | present {ds : List Char} (hds : IsDigits ds) : IsFraction ('.' :: ds)

/-- An exponent in either case with or without a sign, if there is one. -/
inductive IsExponent : List Char → Prop
  | absent : IsExponent []
  | present {e : Char} {sign ds : List Char} (he : e = 'e' ∨ e = 'E')
      (hsign : sign = [] ∨ sign = ['+'] ∨ sign = ['-']) (hds : IsDigits ds) :
      IsExponent (e :: (sign ++ ds))

/-- A number, which has no superfluous zero at its front. -/
inductive IsNumeral : List Char → Prop
  | mk {sign whole fraction exponent : List Char} (hsign : sign = [] ∨ sign = ['-'])
      (hwhole : IsDigits whole) (hzero : whole.head? = some '0' → whole.length = 1)
      (hfraction : IsFraction fraction) (hexponent : IsExponent exponent) :
      IsNumeral (sign ++ (whole ++ (fraction ++ exponent)))

/-- Parts with commas between them and blanks around each. -/
inductive Listed : List (List Char) → List Char → Prop
  | empty {s : List Char} (hs : IsSpaces s) : Listed [] s
  | last {x front back : List Char} (hfront : IsSpaces front) (hback : IsSpaces back) :
      Listed [x] (front ++ (x ++ back))
  | more {x y front back s : List Char} {ys : List (List Char)} (hfront : IsSpaces front)
      (hback : IsSpaces back) (h : Listed (y :: ys) s) :
      Listed (x :: y :: ys) (front ++ (x ++ (back ++ ',' :: s)))

/-- A member of an object, of which the name is written as `key`. -/
def IsMember (key value member : List Char) : Prop :=
  ∃ before behind, IsSpaces before ∧ IsSpaces behind ∧
    member = '"' :: (key ++ '"' :: (before ++ ':' :: (behind ++ value)))

/-- A JSON value. -/
inductive IsValue : List Char → Prop
  | nullWord : IsValue ['n', 'u', 'l', 'l']
  | trueWord : IsValue ['t', 'r', 'u', 'e']
  | falseWord : IsValue ['f', 'a', 'l', 's', 'e']
  | number {s : List Char} (hs : IsNumeral s) : IsValue s
  | string {s : List Char} (hs : IsInside s) : IsValue ('"' :: (s ++ ['"']))
  | array {xs : List (List Char)} {s : List Char} (hs : Listed xs s)
      (hxs : ∀ x ∈ xs, IsValue x) : IsValue ('[' :: (s ++ [']']))
  | object {members : List (List Char × List Char)} {xs : List (List Char)} {s : List Char}
      (hs : Listed xs s) (hmembers : List.Forall₂ (fun m x ↦ IsMember m.1 m.2 x) members xs)
      (hkeys : ∀ m ∈ members, IsInside m.1) (hvalues : ∀ m ∈ members, IsValue m.2) :
      IsValue ('{' :: (s ++ ['}']))

/-- A list of texts. -/
def SpellsTexts (texts : List String) (s : List Char) : Prop :=
  ∃ items inside, List.Forall₂ (fun (t : String) x ↦
      ∃ written, Spells t.toList written ∧ x = '"' :: (written ++ ['"'])) texts items ∧
    Listed items inside ∧ s = '[' :: (inside ++ [']'])

/-- An object with members given by their names and by what is written for their values. -/
def SpellsObject (members : List (String × List Char)) (s : List Char) : Prop :=
  ∃ items inside front back, List.Forall₂ (fun (m : String × List Char) x ↦
      ∃ key, Spells m.1.toList key ∧ IsMember key m.2 x) members items ∧
    Listed items inside ∧ IsSpaces front ∧ IsSpaces back ∧
    s = front ++ '{' :: (inside ++ '}' :: back)

/-! ### How values begin -/

variable {s t : List Char} {c : Char}

theorem IsNumeral.exists_cons (h : IsNumeral s) :
    ∃ c t, s = c :: t ∧ (c.isDigit = true ∨ c = '-') := by
  obtain @⟨sign, whole, fraction, exponent, hsign, hwhole, -, -, -⟩ := h
  obtain rfl | rfl := hsign
  · obtain ⟨d, ds, rfl⟩ := List.exists_cons_of_ne_nil hwhole.1
    exact ⟨d, _, rfl, .inl (hwhole.2 d List.mem_cons_self)⟩
  · exact ⟨'-', _, rfl, .inr rfl⟩

theorem not_isSpace_of_numeral (hc : c.isDigit = true ∨ c = '-') : isSpace c = false := by
  rw [← Bool.not_eq_true]
  intro hspace
  simp only [isSpace, Bool.or_eq_true, decide_eq_true_eq] at hspace
  obtain ((rfl | rfl) | rfl) | rfl := hspace <;> exact absurd hc (by decide)

/-- A value starts with a character that is neither a blank nor the end of a list. -/
theorem IsValue.exists_cons (h : IsValue s) :
    ∃ c t, s = c :: t ∧ isSpace c = false ∧ c ≠ ']' := by
  cases h with
  | nullWord | trueWord | falseWord => exact ⟨_, _, rfl, by decide, by decide⟩
  | number hs =>
    obtain ⟨c, t, rfl, hc⟩ := hs.exists_cons
    refine ⟨c, t, rfl, not_isSpace_of_numeral hc, ?_⟩
    rintro rfl
    exact absurd hc (by decide)
  | string _ | array _ _ | object _ _ _ _ => exact ⟨_, _, rfl, by decide, by decide⟩

/-! ### Texts in their places -/

theorem isSpaces_nil : IsSpaces [] :=
  fun _ h ↦ nomatch h

theorem Spells.isInside (h : Spells t s) : IsInside s := by
  induction h with
  | nil => exact .nil
  | plain hquote hslash hcontrol _ ih => exact .plain hquote hslash hcontrol ih
  | short he _ ih => exact .short he ih
  | unit hn _ _ ih => exact .unit hn ih
  | pair hm hn _ _ _ ih => exact .unit hm (.unit hn ih)

theorem spells_quoteChar (h : Spells t s) (c : Char) : Spells (c :: t) (quoteChar c ++ s) := by
  rw [quoteChar]
  cases hletter : escapeLetter? c with
  | some e => exact .short (shortEscape?_of_escapeLetter? hletter).2 h
  | none =>
    dsimp only
    split
    · next hcontrol =>
      have hunit := Spells.unit (hexUnit?_hexLower hcontrol) (by omega) h
      rwa [c.ofNat_toNat] at hunit
    · next hcontrol =>
      have hquote : c ≠ '"' := by rintro rfl; cases hletter
      have hslash : c ≠ '\\' := by rintro rfl; cases hletter
      exact .plain hquote hslash hcontrol h

theorem spells_quoted (t : List Char) : Spells t (t.flatMap quoteChar) := by
  induction t with
  | nil => exact .nil
  | cons c t ih => exact spells_quoteChar ih c

/-- Parts with a comma between each two and no blanks. -/
theorem listed_intercalate (xs : List (List Char)) : Listed xs ([','].intercalate xs) := by
  match xs with
  | [] => exact .empty isSpaces_nil
  | [x] => simpa using Listed.last (x := x) isSpaces_nil isSpaces_nil
  | x :: y :: xs =>
    simpa using Listed.more (x := x) isSpaces_nil isSpaces_nil (listed_intercalate (y :: xs))

/-- A list of texts as an array of strings. -/
def quotedTexts (texts : List String) : List Char :=
  '[' :: ([','].intercalate (texts.map quote) ++ [']'])

/-- An object of members given by their names and by what is written for their values. -/
def quotedObject (members : List (String × List Char)) : List Char :=
  '{' :: ([','].intercalate (members.map fun m ↦ quote m.1 ++ ':' :: m.2) ++ ['}'])

theorem spellsTexts_quoted (texts : List String) : SpellsTexts texts (quotedTexts texts) := by
  refine ⟨_, _, ?_, listed_intercalate _, rfl⟩
  rw [List.forall₂_map_right_iff, List.forall₂_same]
  exact fun t _ ↦ ⟨_, spells_quoted t.toList, rfl⟩

theorem spellsObject_quoted (members : List (String × List Char)) :
    SpellsObject members (quotedObject members) := by
  refine ⟨_, _, [], [], ?_, listed_intercalate _, isSpaces_nil, isSpaces_nil, rfl⟩
  rw [List.forall₂_map_right_iff, List.forall₂_same]
  exact fun m _ ↦
    ⟨_, spells_quoted m.1.toList, [], [], isSpaces_nil, isSpaces_nil, by simp [quote]⟩

end SiteSearch.Json
