import Mathlib.Algebra.Group.Nat.Defs
import SiteSearch.Text.Utf8

/-!
# Bytes of one character

A first byte, with the states after it, reads exactly the UTF-8 encodings of the characters: the
bytes that `lead` and the bounds of `Unfinished` let through are those of one scalar value, and the
encoding of every scalar value is let through (`cons_eq_encoding_iff`). No encoding starts another
(`eq_nil_of_encoding_append`), and every byte of an encoding behind the first lies outside ASCII
(`ascii_lt_of_encoding`). Each character has bytes, so a front of a text is shorter than the text in
bytes just when it is in characters (`length_encode_take_lt`).
-/

set_option autoImplicit false
set_option relaxedAutoImplicit false

namespace SiteSearch.Text.Utf8

open String (utf8EncodeChar)

theorem toNat_byte {n : Nat} (h : n < 256) : (UInt8.ofNat n).toNat = n := by
  simp [Nat.mod_eq_of_lt h]

theorem byte_eq {n : Nat} {b : UInt8} (h : b.toNat = n) : UInt8.ofNat n = b := by
  simp [← h]

theorem toNat_scalar {v : Nat} (h : v.isValidChar) : (Char.ofNat v).toNat = v := by
  unfold Char.ofNat
  rw [dif_pos h]
  rfl

/-! ### First bytes -/

/-- The meaning of a first byte, in terms of its number. -/
theorem lead_eq (b : UInt8) : lead b =
    if b.toNat ≤ 0x7F then .char (Char.ofNat b.toNat)
    else if 0xC2 ≤ b.toNat ∧ b.toNat ≤ 0xDF then .opens ⟨b.toNat - 0xC0, 0, 0x80, 0xBF⟩
    else if b.toNat = 0xE0 then .opens ⟨0, 1, 0xA0, 0xBF⟩
    else if b.toNat = 0xED then .opens ⟨0xD, 1, 0x80, 0x9F⟩
    else if 0xE1 ≤ b.toNat ∧ b.toNat ≤ 0xEF then .opens ⟨b.toNat - 0xE0, 1, 0x80, 0xBF⟩
    else if b.toNat = 0xF0 then .opens ⟨0, 2, 0x90, 0xBF⟩
    else if 0xF1 ≤ b.toNat ∧ b.toNat ≤ 0xF3 then .opens ⟨b.toNat - 0xF0, 2, 0x80, 0xBF⟩
    else if b.toNat = 0xF4 then .opens ⟨4, 2, 0x80, 0x8F⟩
    else .invalid := by
  simp [lead, UInt8.le_iff_toNat_le, ← UInt8.toNat_inj]

theorem lead_of_ascii {b : UInt8} (h : b.toNat ≤ 0x7F) : lead b = .char (Char.ofNat b.toNat) := by
  rw [lead_eq, if_pos h]

theorem eq_of_lead_eq_char {b : UInt8} {c : Char} (h : lead b = .char c) :
    b.toNat ≤ 0x7F ∧ c = Char.ofNat b.toNat := by
  rw [lead_eq] at h
  split at h
  · rename_i hb
    exact ⟨hb, (Lead.char.inj h).symm⟩
  · repeat' split at h
    all_goals cases h

/-- The seven ways in which a byte opens a longer sequence. -/
theorem eq_of_lead_eq_opens {b : UInt8} {u : Unfinished} (h : lead b = .opens u) :
    0xC2 ≤ b.toNat ∧ b.toNat ≤ 0xDF ∧ u = ⟨b.toNat - 0xC0, 0, 0x80, 0xBF⟩ ∨
      b.toNat = 0xE0 ∧ u = ⟨0, 1, 0xA0, 0xBF⟩ ∨
      b.toNat = 0xED ∧ u = ⟨0xD, 1, 0x80, 0x9F⟩ ∨
      (0xE1 ≤ b.toNat ∧ b.toNat ≤ 0xEF ∧ b.toNat ≠ 0xED) ∧
        u = ⟨b.toNat - 0xE0, 1, 0x80, 0xBF⟩ ∨
      b.toNat = 0xF0 ∧ u = ⟨0, 2, 0x90, 0xBF⟩ ∨
      (0xF1 ≤ b.toNat ∧ b.toNat ≤ 0xF3) ∧ u = ⟨b.toNat - 0xF0, 2, 0x80, 0xBF⟩ ∨
      b.toNat = 0xF4 ∧ u = ⟨4, 2, 0x80, 0x8F⟩ := by
  rw [lead_eq] at h
  split at h
  · cases h
  split at h
  · rename_i hb
    exact .inl ⟨hb.1, hb.2, (Lead.opens.inj h).symm⟩
  refine .inr ?_
  split at h
  · rename_i hb
    exact .inl ⟨hb, (Lead.opens.inj h).symm⟩
  refine .inr ?_
  split at h
  · rename_i hb
    exact .inl ⟨hb, (Lead.opens.inj h).symm⟩
  refine .inr ?_
  split at h
  · rename_i hsurrogate hb
    exact .inl ⟨⟨hb.1, hb.2, hsurrogate⟩, (Lead.opens.inj h).symm⟩
  refine .inr ?_
  split at h
  · rename_i hb
    exact .inl ⟨hb, (Lead.opens.inj h).symm⟩
  refine .inr ?_
  split at h
  · rename_i hb
    exact .inl ⟨hb, (Lead.opens.inj h).symm⟩
  refine .inr ?_
  split at h
  · rename_i hb
    exact ⟨hb, (Lead.opens.inj h).symm⟩
  · cases h

/-! ### Sequences under way -/

/-- The character that some bytes complete, when they are the rest of the sequence under way. -/
def Unfinished.complete? (u : Unfinished) : List UInt8 → Option Char
  | [] => none
  | b :: s =>
    if u.low ≤ b ∧ b ≤ u.high then
      match u.owed with
      | 0 => if s = [] then some (Char.ofNat (64 * u.value + (b.toNat - 0x80))) else none
      | n + 1 => complete? ⟨64 * u.value + (b.toNat - 0x80), n, 0x80, 0xBF⟩ s
    else none

theorem Unfinished.complete?_cons (u : Unfinished) (b : UInt8) (s : List UInt8) :
    u.complete? (b :: s) =
      if u.low ≤ b ∧ b ≤ u.high then
        match u.owed with
        | 0 => if s = [] then some (Char.ofNat (64 * u.value + (b.toNat - 0x80))) else none
        | n + 1 => complete? ⟨64 * u.value + (b.toNat - 0x80), n, 0x80, 0xBF⟩ s
      else none :=
  rfl

/-- The values whose encodings go on from a state. -/
def Unfinished.Covers (u : Unfinished) (v : Nat) : Prop :=
  v / 64 ^ (u.owed + 1) = u.value ∧ u.low.toNat ≤ v / 64 ^ u.owed % 64 + 0x80 ∧
    v / 64 ^ u.owed % 64 + 0x80 ≤ u.high.toNat

/-- The last bytes of the encoding of a value, `n` of them beside the last. -/
def continuation (v : Nat) : Nat → List UInt8
  | 0 => [UInt8.ofNat (v % 64 + 0x80)]
  | n + 1 => UInt8.ofNat (v / 64 ^ (n + 1) % 64 + 0x80) :: continuation v n

theorem ascii_lt_of_mem_continuation {v n : Nat} {b : UInt8} (h : b ∈ continuation v n) :
    0x7F < b.toNat := by
  induction n with
  | zero =>
    rw [continuation, List.mem_singleton] at h
    rw [h, toNat_byte (by omega)]
    omega
  | succ n ih =>
    rw [continuation, List.mem_cons] at h
    rcases h with rfl | h
    · rw [toNat_byte (by omega)]
      omega
    · exact ih h

/-- A state reads on exactly the last bytes of the values that it covers. Assumes: the bounds of
the state lie among the bytes of continuations. -/
theorem complete?_eq_some_iff {u : Unfinished} {s : List UInt8} {c : Char}
    (hlow : 0x80 ≤ u.low.toNat) (hhigh : u.high.toNat ≤ 0xBF) :
    u.complete? s = some c ↔
      ∃ v, u.Covers v ∧ s = continuation v u.owed ∧ c = Char.ofNat v := by
  obtain ⟨value, owed, low, high⟩ := u
  simp only [Unfinished.Covers] at hlow hhigh ⊢
  induction owed generalizing value low high s with
  | zero =>
    simp only [Nat.zero_add, Nat.pow_one, Nat.pow_zero, Nat.div_one, continuation]
    constructor
    · intro h
      cases s with
      | nil => cases h
      | cons b s =>
        simp only [Unfinished.complete?_cons, UInt8.le_iff_toNat_le,
          Option.ite_none_right_eq_some] at h
        obtain ⟨hb, rfl, h⟩ := h
        refine ⟨64 * value + (b.toNat - 0x80), ⟨by omega, by omega, by omega⟩, ?_,
          (Option.some.inj h).symm⟩
        rw [byte_eq (by omega : b.toNat = _)]
    · rintro ⟨v, ⟨hv, hlo, hhi⟩, rfl, rfl⟩
      have hb : (UInt8.ofNat (v % 64 + 0x80)).toNat = v % 64 + 0x80 := toNat_byte (by omega)
      have hvalue : 64 * value + (v % 64 + 0x80 - 0x80) = v := by omega
      simp only [Unfinished.complete?_cons, UInt8.le_iff_toNat_le, hb, and_self, hlo, hhi, if_true,
        hvalue]
  | succ n ih =>
    have ih := fun w t ↦ @ih t w 0x80 0xBF (by decide) (by decide)
    have hdiv (v : Nat) : v / 64 ^ (n + 1 + 1) = v / 64 ^ (n + 1) / 64 := by
      rw [Nat.div_div_eq_div_mul, ← Nat.pow_succ]
    simp only [hdiv]
    constructor
    · intro h
      cases s with
      | nil => cases h
      | cons b s =>
        simp only [Unfinished.complete?_cons, UInt8.le_iff_toNat_le,
          Option.ite_none_right_eq_some] at h
        obtain ⟨hb, h⟩ := h
        obtain ⟨v, ⟨hv, -, -⟩, rfl, rfl⟩ := (ih _ _).mp h
        refine ⟨v, ⟨by omega, by omega, by omega⟩, ?_, rfl⟩
        rw [continuation, byte_eq (by omega : b.toNat = _)]
    · rintro ⟨v, ⟨hv, hlo, hhi⟩, rfl, rfl⟩
      have hb : (UInt8.ofNat (v / 64 ^ (n + 1) % 64 + 0x80)).toNat =
          v / 64 ^ (n + 1) % 64 + 0x80 := toNat_byte (by omega)
      simp only [continuation, Unfinished.complete?_cons, UInt8.le_iff_toNat_le, hb, and_self, hlo,
        hhi, if_true]
      refine (ih _ _).mpr ⟨v, ⟨by omega, ?_, ?_⟩, rfl, rfl⟩
      · change 0x80 ≤ _
        omega
      · change _ ≤ 0xBF
        omega

/-- A state that completes a sequence completes none that goes on behind it. -/
theorem eq_nil_of_complete?_append {u : Unfinished} {s t : List UInt8} {c d : Char}
    (hs : u.complete? s = some c) (ht : u.complete? (s ++ t) = some d) : t = [] := by
  induction s generalizing u with
  | nil => cases hs
  | cons b s ih =>
    rw [List.cons_append] at ht
    simp only [Unfinished.complete?_cons] at hs ht
    split at hs
    · rename_i hb
      rw [if_pos hb] at ht
      cases ho : u.owed with
      | zero =>
        simp only [ho, Option.ite_none_right_eq_some] at hs ht
        exact (List.append_eq_nil_iff.mp ht.1).2
      | succ n =>
        simp only [ho] at hs ht
        exact ih hs ht
    · cases hs

/-- A state with room for the next byte leads to some character. -/
theorem exists_complete? {u : Unfinished} (h : u.low ≤ u.high) : ∃ s c, u.complete? s = some c := by
  obtain ⟨value, owed, low, high⟩ := u
  simp only at h
  induction owed generalizing value low high with
  | zero =>
    refine ⟨[low], Char.ofNat (64 * value + (low.toNat - 0x80)), ?_⟩
    simp only [Unfinished.complete?_cons, h, UInt8.le_refl, and_self, if_true]
  | succ n ih =>
    obtain ⟨s, c, hs⟩ := ih (64 * value + (low.toNat - 0x80)) 0x80 0xBF (by decide)
    refine ⟨low :: s, c, ?_⟩
    simp only [Unfinished.complete?_cons, h, UInt8.le_refl, and_self, if_true, hs]

/-! ### Encodings -/

/-- The encoding of a scalar value by its size, cut behind the first byte. -/
theorem encoding_of_scalar {v : Nat} (h : v.isValidChar) :
    utf8EncodeChar (Char.ofNat v) =
      if v ≤ 0x7F then [UInt8.ofNat v]
      else if v ≤ 0x7FF then UInt8.ofNat (v / 64 % 0x20 + 0xC0) :: continuation v 0
      else if v ≤ 0xFFFF then UInt8.ofNat (v / 4096 % 0x10 + 0xE0) :: continuation v 1
      else UInt8.ofNat (v / 262144 % 0x08 + 0xF0) :: continuation v 2 := by
  rw [utf8EncodeChar, show (Char.ofNat v).val.toNat = v from toNat_scalar h]
  rfl

theorem encoding_of_ascii {b : UInt8} (h : b.toNat ≤ 0x7F) :
    utf8EncodeChar (Char.ofNat b.toNat) = [b] := by
  rw [encoding_of_scalar (.inl (by omega)), if_pos h, byte_eq rfl]

/-- The sizes and first bytes of the values behind a byte that opens a sequence. -/
theorem range_of_lead {b : UInt8} {u : Unfinished} (h : lead b = .opens u) :
    0x80 ≤ u.low.toNat ∧ u.low.toNat ≤ u.high.toNat ∧ u.high.toNat ≤ 0xBF ∧
      ∀ v, u.Covers v → v.isValidChar ∧ 0x7F < v ∧
        (v ≤ 0x7FF ∧ v / 64 % 0x20 + 0xC0 = b.toNat ∧ u.owed = 0 ∨
          0x7FF < v ∧ v ≤ 0xFFFF ∧ v / 4096 % 0x10 + 0xE0 = b.toNat ∧ u.owed = 1 ∨
          0xFFFF < v ∧ v / 262144 % 0x08 + 0xF0 = b.toNat ∧ u.owed = 2) := by
  unfold Unfinished.Covers Nat.isValidChar
  -- the bounds of each state keep out overlong forms, surrogates and values beyond the last
  rcases eq_of_lead_eq_opens h with ⟨h1, h2, rfl⟩ | ⟨hb, rfl⟩ | ⟨hb, rfl⟩ | ⟨hb, rfl⟩ |
    ⟨hb, rfl⟩ | ⟨hb, rfl⟩ | ⟨hb, rfl⟩ <;>
  · refine ⟨by simp, by simp, by simp, ?_⟩
    rintro v ⟨hv, hlo, hhi⟩
    simp at hv hlo hhi ⊢
    omega

theorem encoding_of_covers {b : UInt8} {u : Unfinished} (h : lead b = .opens u) {v : Nat}
    (hv : u.Covers v) : utf8EncodeChar (Char.ofNat v) = b :: continuation v u.owed := by
  obtain ⟨-, -, -, hrange⟩ := range_of_lead h
  obtain ⟨hvalid, hascii, hsize⟩ := hrange v hv
  rw [encoding_of_scalar hvalid, if_neg (by omega)]
  rcases hsize with ⟨h2, hb, ho⟩ | ⟨h2, h3, hb, ho⟩ | ⟨h3, hb, ho⟩
  · rw [if_pos h2, ho, byte_eq hb.symm]
  · rw [if_neg (by omega), if_pos h3, ho, byte_eq hb.symm]
  · rw [if_neg (by omega), if_neg (by omega), ho, byte_eq hb.symm]

/-- Every scalar value beyond ASCII is led to by some first byte. -/
theorem exists_lead_covers {v : Nat} (h : v.isValidChar) (hv : 0x7F < v) :
    ∃ b u, lead b = .opens u ∧ u.Covers v := by
  unfold Nat.isValidChar at h
  unfold Unfinished.Covers
  by_cases h2 : v < 0x800
  · refine ⟨UInt8.ofNat (v / 64 + 0xC0), ⟨v / 64, 0, 0x80, 0xBF⟩, ?_, by simp; omega⟩
    rw [lead_eq, toNat_byte (by omega), if_neg (by omega), if_pos (by omega)]
    simp
  by_cases hE0 : v < 0x1000
  · exact ⟨0xE0, ⟨0, 1, 0xA0, 0xBF⟩, rfl, by simp; omega⟩
  by_cases hED : 0xD000 ≤ v ∧ v < 0xE000
  · exact ⟨0xED, ⟨0xD, 1, 0x80, 0x9F⟩, rfl, by simp; omega⟩
  by_cases h3 : v < 0x10000
  · refine ⟨UInt8.ofNat (v / 4096 + 0xE0), ⟨v / 4096, 1, 0x80, 0xBF⟩, ?_, by simp; omega⟩
    rw [lead_eq, toNat_byte (by omega), if_neg (by omega), if_neg (by omega), if_neg (by omega),
      if_neg (by omega), if_pos (by omega)]
    simp
  by_cases hF0 : v < 0x40000
  · exact ⟨0xF0, ⟨0, 2, 0x90, 0xBF⟩, rfl, by simp; omega⟩
  by_cases hF4 : 0x100000 ≤ v
  · exact ⟨0xF4, ⟨4, 2, 0x80, 0x8F⟩, rfl, by simp; omega⟩
  · refine ⟨UInt8.ofNat (v / 262144 + 0xF0), ⟨v / 262144, 2, 0x80, 0xBF⟩, ?_, by simp; omega⟩
    rw [lead_eq, toNat_byte (by omega), if_neg (by omega), if_neg (by omega), if_neg (by omega),
      if_neg (by omega), if_neg (by omega), if_neg (by omega), if_pos (by omega)]
    simp

/-- The bytes that encode a character are those that a first byte and the states after it read. -/
theorem cons_eq_encoding_iff {b : UInt8} {s : List UInt8} {c : Char} :
    b :: s = utf8EncodeChar c ↔
      lead b = .char c ∧ s = [] ∨ ∃ u, lead b = .opens u ∧ u.complete? s = some c := by
  constructor
  · intro h
    have hv : c.toNat.isValidChar := c.valid
    rw [← c.ofNat_toNat] at h ⊢
    generalize c.toNat = v at hv h
    by_cases hascii : v ≤ 0x7F
    · rw [encoding_of_scalar hv, if_pos hascii] at h
      obtain ⟨rfl, rfl⟩ := List.cons.inj h
      have hb : (UInt8.ofNat v).toNat = v := toNat_byte (by omega)
      exact .inl ⟨by rw [lead_of_ascii (by omega), hb], rfl⟩
    · obtain ⟨a, u, hlead, hu⟩ := exists_lead_covers hv (by omega)
      obtain ⟨hlow, -, hhigh, -⟩ := range_of_lead hlead
      rw [encoding_of_covers hlead hu] at h
      obtain ⟨rfl, rfl⟩ := List.cons.inj h
      exact .inr ⟨u, hlead, (complete?_eq_some_iff hlow hhigh).mpr ⟨v, hu, rfl, rfl⟩⟩
  · rintro (⟨hlead, rfl⟩ | ⟨u, hlead, hs⟩)
    · obtain ⟨hascii, rfl⟩ := eq_of_lead_eq_char hlead
      exact (encoding_of_ascii hascii).symm
    · obtain ⟨hlow, -, hhigh, -⟩ := range_of_lead hlead
      obtain ⟨v, hv, rfl, rfl⟩ := (complete?_eq_some_iff hlow hhigh).mp hs
      exact (encoding_of_covers hlead hv).symm

/-- Characters are told apart by their encodings. -/
theorem encoding_injective {c d : Char} (h : utf8EncodeChar c = utf8EncodeChar d) : c = d := by
  obtain ⟨b, s, hc⟩ := List.exists_cons_of_ne_nil (String.utf8EncodeChar_ne_nil (c := c))
  rw [hc, cons_eq_encoding_iff] at h
  rw [eq_comm, cons_eq_encoding_iff] at hc
  rcases hc with ⟨hlead, rfl⟩ | ⟨u, hlead, hs⟩ <;>
    rcases h with ⟨hlead', -⟩ | ⟨u', hlead', ht⟩ <;>
    rw [hlead] at hlead'
  · exact Lead.char.inj hlead'
  · cases hlead'
  · cases hlead'
  · obtain rfl := Lead.opens.inj hlead'
    rw [hs] at ht
    exact Option.some.inj ht

/-- No encoding starts another one. -/
theorem eq_nil_of_encoding_append {c d : Char} {t : List UInt8}
    (h : utf8EncodeChar c ++ t = utf8EncodeChar d) : t = [] := by
  obtain ⟨b, s, hc⟩ := List.exists_cons_of_ne_nil (String.utf8EncodeChar_ne_nil (c := c))
  rw [hc, List.cons_append, cons_eq_encoding_iff] at h
  rw [eq_comm, cons_eq_encoding_iff] at hc
  rcases hc with ⟨hlead, rfl⟩ | ⟨u, hlead, hs⟩ <;>
    rcases h with ⟨hlead', ht⟩ | ⟨u', hlead', ht⟩
  · exact ht
  · rw [hlead] at hlead'
    cases hlead'
  · rw [hlead] at hlead'
    cases hlead'
  · rw [hlead] at hlead'
    obtain rfl := Lead.opens.inj hlead'
    exact eq_nil_of_complete?_append hs ht

/-- The bytes of an encoding behind its first lie outside ASCII. -/
theorem ascii_lt_of_encoding {a b : UInt8} {s : List UInt8} {c : Char}
    (h : a :: s = utf8EncodeChar c) (hb : b ∈ s) : 0x7F < b.toNat := by
  rw [cons_eq_encoding_iff] at h
  rcases h with ⟨-, rfl⟩ | ⟨u, hlead, hs⟩
  · cases hb
  · obtain ⟨hlow, -, hhigh, -⟩ := range_of_lead hlead
    obtain ⟨v, -, rfl, -⟩ := (complete?_eq_some_iff hlow hhigh).mp hs
    exact ascii_lt_of_mem_continuation hb

/-! ### Bytes of texts -/

theorem encode_append (s t : List Char) : encode (s ++ t) = encode s ++ encode t :=
  List.flatMap_append

theorem length_encode_pos {s : List Char} (h : s ≠ []) : 0 < (encode s).length := by
  obtain ⟨c, s, rfl⟩ := List.exists_cons_of_ne_nil h
  rw [encode, List.flatMap_cons, List.length_append, String.length_utf8EncodeChar]
  exact Nat.add_pos_left c.utf8Size_pos _

/-- A front of a text has fewer bytes than the text just when it has fewer characters. -/
theorem length_encode_take_lt {s : List Char} {n : Nat} :
    (encode (s.take n)).length < (encode s).length ↔ n < s.length := by
  have hsplit : (encode s).length = (encode (s.take n)).length + (encode (s.drop n)).length := by
    rw [← List.length_append, ← encode_append, List.take_append_drop]
  rw [hsplit, Nat.lt_add_right_iff_pos]
  constructor
  · refine fun hpos ↦ Nat.lt_of_not_le fun hle ↦ ?_
    rw [List.drop_eq_nil_of_le hle] at hpos
    exact Nat.lt_irrefl 0 hpos
  · intro hlt
    exact length_encode_pos fun hnil ↦ absurd (List.drop_eq_nil_iff.mp hnil) (Nat.not_le.mpr hlt)

end SiteSearch.Text.Utf8
