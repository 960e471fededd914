import Mathlib.Data.Nat.Digits.Defs
import SiteSearch.Proofs.Text.Trim
import SiteSearch.Settings

/-!
# The texts of variables

What the readers of the variables accept, and what it stands for: a word in any case between white
space (`plainWord_eq_iff`), which names a builder (`readBuilder_eq_ok_iff`) or a truth value
(`readFlag?_eq_some_iff`), and a row of decimal digits (`readCount?_eq_some_iff`).
-/

set_option autoImplicit false
set_option relaxedAutoImplicit false

namespace SiteSearch

open Text (isBlank)

/-! ### Words -/

theorem Text.isBlank_toLower {c : Char} (h : isBlank c) : isBlank c.toLower := by
  delta Char.toLower
  split
  · next hupper =>
    -- no letter is white space
    have hlow : 65 ≤ c.toNat := hupper.1
    have hhigh : c.toNat ≤ 90 := hupper.2
    simp only [isBlank, Bool.or_eq_true, Bool.and_eq_true, decide_eq_true_eq, beq_iff_eq] at h
    omega
  · exact h

/-- A text is a word of which the case does not matter, with white space around it. -/
def IsWord (word s : String) : Prop :=
  ∃ front middle back, s.toList = front ++ middle ++ back ∧ front.all isBlank ∧
    middle.map Char.toLower = word.toList ∧ back.all isBlank

theorem plainWord_eq_iff {word : String} (hword : word.toList.all (!isBlank ·)) {s : String} :
    plainWord s = word ↔ IsWord word s := by
  have hlist : plainWord s = word ↔ (Text.trim s.toList).map Char.toLower = word.toList := by
    rw [plainWord, ← String.toList_inj, String.toList_ofList]
  rw [hlist]
  constructor
  · intro h
    obtain ⟨front, back, hs, hfront, hback⟩ := Text.exists_trim s.toList
    exact ⟨front, _, back, hs, hfront, h, hback⟩
  · rintro ⟨front, middle, back, hs, hfront, hmiddle, hback⟩
    have hnone (c : Char) (hc : c ∈ middle) : isBlank c = false := by
      rw [Bool.eq_false_iff]
      intro hblank
      have hmem : c.toLower ∈ word.toList := hmiddle ▸ List.mem_map_of_mem hc
      have hkept := List.all_eq_true.mp hword _ hmem
      rw [Text.isBlank_toLower hblank] at hkept
      cases hkept
    rw [hs, Text.trim_append hfront hnone hback, hmiddle]

theorem plainWord_mem_iff {words : List String}
    (hwords : words.all fun word ↦ word.toList.all (!isBlank ·)) {s : String} :
    plainWord s ∈ words ↔ ∃ word ∈ words, IsWord word s := by
  have hword (word : String) (hmem : word ∈ words) : plainWord s = word ↔ IsWord word s :=
    plainWord_eq_iff (List.all_eq_true.mp hwords word hmem)
  constructor
  · intro h
    exact ⟨_, h, (hword _ h).mp rfl⟩
  · rintro ⟨word, hmem, h⟩
    exact (hword word hmem).mpr h ▸ hmem

/-- The names of a builder. -/
def Site.Builder.names : Site.Builder → List String
  | .html => ["html", "default"]
  | .dirhtml => ["dirhtml"]

theorem Site.Builder.ofName?_eq_some_iff {name : String} {b : Site.Builder} :
    ofName? name = some b ↔ name ∈ b.names := by
  rw [ofName?]
  cases b with
  | html =>
    simp only [names, List.mem_cons, List.not_mem_nil, or_false]
    split
    · next h => exact iff_of_true rfl h
    · next h =>
      refine iff_of_false ?_ h
      split <;> simp
  | dirhtml =>
    simp only [names, List.mem_singleton]
    split
    · next h =>
      refine iff_of_false (by simp) ?_
      rintro rfl
      exact absurd h (by decide)
    · split
      · next h => exact iff_of_true rfl h
      · next h => exact iff_of_false (by simp) h

theorem readBuilder_eq_ok_iff {s : String} {b : Site.Builder} :
    readBuilder s = .ok b ↔ ∃ name ∈ b.names, IsWord name s := by
  have hwords : b.names.all fun word ↦ word.toList.all (!isBlank ·) := by
    cases b <;> decide
  rw [← plainWord_mem_iff hwords, ← Site.Builder.ofName?_eq_some_iff, readBuilder]
  cases Site.Builder.ofName? (plainWord s) <;> simp

/-- The words for a truth value. -/
def flagWords : Bool → List String
  | true => ["1", "true", "yes", "on"]
  | false => ["0", "false", "no", "off"]

theorem readFlag?_eq_some_iff {s : String} {b : Bool} :
    readFlag? s = some b ↔ ∃ word ∈ flagWords b, IsWord word s := by
  have hwords : (flagWords b).all fun word ↦ word.toList.all (!isBlank ·) := by
    cases b <;> decide
  have hdisjoint : ∀ word ∈ flagWords false, word ∉ flagWords true := by decide
  have hread : readFlag? s = if (flagWords true).contains (plainWord s) then some true
      else if (flagWords false).contains (plainWord s) then some false else none := rfl
  simp only [List.contains_iff_mem] at hread
  rw [← plainWord_mem_iff hwords, hread]
  split
  · next htrue =>
    cases b with
    | true => exact iff_of_true rfl htrue
    | false => exact iff_of_false (by simp) fun hfalse ↦ hdisjoint _ hfalse htrue
  · next htrue =>
    cases b with
    | true =>
      refine iff_of_false ?_ htrue
      split <;> simp
    | false =>
      split
      · next hfalse => exact iff_of_true rfl hfalse
      · next hfalse => exact iff_of_false (by simp) hfalse

/-! ### Numbers -/

/-- The number that a row of decimal digits stands for. -/
def digitsValue (digits : List Char) : Nat :=
  Nat.ofDigits 10 (digits.map fun c ↦ c.toNat - '0'.toNat).reverse

/-- A text is a number: decimal digits, which a plus sign may precede. -/
def IsNumeral (n : Nat) (s : String) : Prop :=
  ∃ sign digits, s.toList = sign ++ digits ∧ (sign = [] ∨ sign = ['+']) ∧ digits ≠ [] ∧
    digits.all Char.isDigit ∧ digitsValue digits = n

theorem foldl_digits (digits : List Char) :
    digits.foldl (fun n c ↦ 10 * n + (c.toNat - '0'.toNat)) 0 = digitsValue digits := by
  rw [digitsValue, Nat.ofDigits_eq_foldr, List.foldr_reverse, List.foldl_map]
  simp only [Nat.cast_id, Nat.add_comm]

theorem ofNat_eq_some_iff {m : Nat} {n : UInt64} :
    (if m < UInt64.size then some (UInt64.ofNat m) else none) = some n ↔ m = n.toNat := by
  split
  · next hm =>
    rw [Option.some_inj, ← UInt64.toNat_inj, UInt64.toNat_ofNat_of_lt' hm]
  · next hm =>
    refine iff_of_false (by simp) ?_
    rintro rfl
    exact hm n.toNat_lt

theorem readCount?_eq_some_iff {s : String} {n : UInt64} :
    readCount? s = some n ↔ IsNumeral n.toNat s := by
  have hdigits (digits : List Char) :
      (if digits ≠ [] ∧ digits.all Char.isDigit then
        if digitsValue digits < UInt64.size then some (UInt64.ofNat (digitsValue digits)) else none
      else none) = some n ↔
        digits ≠ [] ∧ digits.all Char.isDigit ∧ digitsValue digits = n.toNat := by
    split
    · next h => simp only [ofNat_eq_some_iff, h, ne_eq, not_false_eq_true, true_and]
    · next h => exact iff_of_false (by simp) fun hd ↦ h ⟨hd.1, hd.2.1⟩
  simp only [readCount?, foldl_digits, hdigits, IsNumeral]
  split
  · next digits hs =>
    constructor
    · exact fun h ↦ ⟨['+'], digits, hs, .inr rfl, h⟩
    · rintro ⟨sign, others, hsign, rfl | rfl, h⟩
      · -- a plus sign is no digit
        rw [hs] at hsign
        obtain rfl : '+' :: digits = others := hsign
        cases h.2.1
      · obtain rfl : digits = others := (List.cons.inj (hs.symm.trans hsign)).2
        exact h
  · next hs =>
    constructor
    · exact fun h ↦ ⟨[], _, rfl, .inl rfl, h⟩
    · rintro ⟨sign, digits, hsign, rfl | rfl, h⟩
      · rw [hsign]
        exact h
      · exact (hs digits hsign).elim

end SiteSearch
