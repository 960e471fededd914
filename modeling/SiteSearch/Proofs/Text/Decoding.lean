import SiteSearch.Proofs.Text.Encoding

/-!
# Decoding any bytes

`Reads` is decoding as the standard describes it, without a machine: bytes are cut into encodings of
characters and maximal ill-formed pieces, and each such piece stands for one replacement character.
`decode` is the one way of reading bytes so (`reads_iff`).

A byte of ASCII ends whatever stands before it, so bytes may be cut there before they are decoded
(`decode_append_ascii`), and a character of ASCII is read from its own byte only
(`mem_of_mem_decode`, `head?_of_head?_decode`). Decoding undoes encoding (`decode_encode`), and so
the bytes of a text are read as the text (`decode?_toUTF8`).
-/

set_option autoImplicit false
set_option relaxedAutoImplicit false

namespace SiteSearch.Text.Utf8

open String (utf8EncodeChar)

/-! ### Reading bytes piece by piece -/

/-- A maximal ill-formed piece at the front of some bytes: a part of an encoding that breaks off, or
one byte that starts no encoding; no encoding starts with the piece and the byte after it. -/
structure IllFormed (piece rest : List UInt8) : Prop where
  broken : (piece ≠ [] ∧ ∃ c s, s ≠ [] ∧ piece ++ s = utf8EncodeChar c) ∨
    ∃ b, piece = [b] ∧ ∀ c, ¬ piece <+: utf8EncodeChar c
  maximal : ∀ b ∈ rest.head?, ∀ c, ¬ piece ++ [b] <+: utf8EncodeChar c

/-- The text that bytes stand for. -/
inductive Reads : List UInt8 → List Char → Prop
  | nil : Reads [] []
  | char (c : Char) {s : List UInt8} {t : List Char} :
    Reads s t → Reads (utf8EncodeChar c ++ s) (c :: t)
  | replaced {piece s : List UInt8} {t : List Char} :
    IllFormed piece s → Reads s t → Reads (piece ++ s) (replacement :: t)

theorem IllFormed.ne_nil {piece rest : List UInt8} (h : IllFormed piece rest) : piece ≠ [] := by
  rcases h.broken with ⟨hne, -⟩ | ⟨b, rfl, -⟩
  · exact hne
  · exact List.cons_ne_nil b []

/-- An encoding and a maximal ill-formed piece never start the same bytes. -/
theorem IllFormed.not_encoding {piece rest s : List UInt8} {c : Char} (h : IllFormed piece rest) :
    piece ++ rest ≠ utf8EncodeChar c ++ s := by
  intro heq
  rcases List.append_eq_append_iff.mp heq with ⟨t, hc, hrest⟩ | ⟨t, hpiece, -⟩
  · cases t with
    | nil =>
      rcases h.broken with ⟨-, d, t, ht, hd⟩ | ⟨b, -, hb⟩
      · rw [List.append_nil] at hc
        rw [← hc] at hd
        exact ht (eq_nil_of_encoding_append hd)
      · exact hb c (by simp [hc])
    | cons b t =>
      refine h.maximal b (by rw [hrest]; rfl) c ⟨t, ?_⟩
      rw [hc, List.append_assoc, List.singleton_append]
  · rcases h.broken with ⟨-, d, u, hu, hd⟩ | ⟨b, hb, hnone⟩
    · rw [hpiece, List.append_assoc] at hd
      exact hu (List.append_eq_nil_iff.mp (eq_nil_of_encoding_append hd)).2
    · rw [hb] at hpiece
      obtain ⟨a, e, hc⟩ := List.exists_cons_of_ne_nil (String.utf8EncodeChar_ne_nil (c := c))
      rw [hc, List.cons_append] at hpiece
      obtain ⟨rfl, he⟩ := List.cons.inj hpiece
      refine hnone c ⟨e, ?_⟩
      rw [hb, hc, List.singleton_append]

/-- A maximal ill-formed piece is as long as any that starts the same bytes. -/
theorem IllFormed.length_le {piece piece' rest rest' : List UInt8} (h : IllFormed piece rest)
    (h' : IllFormed piece' rest') (heq : piece ++ rest = piece' ++ rest') :
    piece'.length ≤ piece.length := by
  rcases List.append_eq_append_iff.mp heq with ⟨t, hpiece, hrest⟩ | ⟨t, hpiece, -⟩
  · cases t with
    | nil => simp [hpiece]
    | cons b t =>
      exfalso
      rcases h'.broken with ⟨-, c, s, -, hc⟩ | ⟨a, ha, -⟩
      · refine h.maximal b (by rw [hrest]; rfl) c ⟨t ++ s, ?_⟩
        rw [← hc, hpiece]
        simp
      · rw [ha] at hpiece
        have hlength := congrArg List.length hpiece
        have hpos := List.length_pos_iff.mpr h.ne_nil
        simp at hlength
        omega
  · simp [hpiece]

/-- Bytes stand for one text only. -/
theorem Reads.unique {s : List UInt8} {t t' : List Char} (h : Reads s t) (h' : Reads s t') :
    t = t' := by
  induction h generalizing t' with
  | nil =>
    generalize hs : ([] : List UInt8) = s at h'
    cases h' with
    | nil => rfl
    | char c _ =>
      exact absurd (List.append_eq_nil_iff.mp hs.symm).1 String.utf8EncodeChar_ne_nil
    | replaced hpiece _ => exact absurd (List.append_eq_nil_iff.mp hs.symm).1 hpiece.ne_nil
  | @char c s t hst ih =>
    generalize hs : utf8EncodeChar c ++ s = bytes at h'
    cases h' with
    | nil => exact absurd (List.append_eq_nil_iff.mp hs).1 String.utf8EncodeChar_ne_nil
    | @char d s' t' hst' =>
      have hrest : utf8EncodeChar c = utf8EncodeChar d ∧ s = s' := by
        rcases List.append_eq_append_iff.mp hs with ⟨e, hd, hs⟩ | ⟨e, hc, hs⟩
        · obtain rfl := eq_nil_of_encoding_append hd.symm
          exact ⟨by simpa using hd.symm, by simpa using hs⟩
        · obtain rfl := eq_nil_of_encoding_append hc.symm
          exact ⟨by simpa using hc, by simpa using hs.symm⟩
      obtain ⟨hchar, rfl⟩ := hrest
      rw [encoding_injective hchar, ih hst']
    | replaced hpiece _ => exact absurd hs.symm hpiece.not_encoding
  | @replaced piece s t hpiece hst ih =>
    generalize hs : piece ++ s = bytes at h'
    cases h' with
    | nil => exact absurd (List.append_eq_nil_iff.mp hs).1 hpiece.ne_nil
    | char d _ => exact absurd hs hpiece.not_encoding
    | @replaced piece' s' t' hpiece' hst' =>
      have hlength := Nat.le_antisymm (hpiece'.length_le hpiece hs.symm)
        (hpiece.length_le hpiece' hs)
      obtain ⟨-, rfl⟩ := List.append_inj hs hlength
      rw [ih hst']

/-! ### The decoder -/

/-- A state is under way after some bytes when the bytes that complete them to an encoding are those
that it reads, and there are such bytes. -/
structure Unfinished.After (u : Unfinished) (piece : List UInt8) : Prop where
  ne_nil : piece ≠ []
  low_le_high : u.low ≤ u.high
  encoding_iff : ∀ s c, piece ++ s = utf8EncodeChar c ↔ u.complete? s = some c

theorem after_of_lead {b : UInt8} {u : Unfinished} (h : lead b = .opens u) : u.After [b] where
  ne_nil := List.cons_ne_nil b []
  low_le_high := by
    obtain ⟨-, hle, -⟩ := range_of_lead h
    exact UInt8.le_iff_toNat_le.mpr hle
  encoding_iff s c := by
    rw [List.singleton_append, cons_eq_encoding_iff]
    simp [h]

theorem Unfinished.After.next {u : Unfinished} {piece : List UInt8} {b : UInt8} {n : Nat}
    (h : u.After piece) (hb : u.low ≤ b ∧ b ≤ u.high) (ho : u.owed = n + 1) :
    Unfinished.After ⟨64 * u.value + (b.toNat - 0x80), n, 0x80, 0xBF⟩ (piece ++ [b]) where
  ne_nil := by simp
  low_le_high := (by decide : (0x80 : UInt8) ≤ 0xBF)
  encoding_iff s c := by
    rw [List.append_assoc, List.singleton_append, h.encoding_iff]
    simp only [Unfinished.complete?_cons, if_pos hb, ho]

/-- The bytes read are ill-formed as a whole when nothing, or a byte out of bounds, comes next. -/
theorem Unfinished.After.illFormed {u : Unfinished} {piece rest : List UInt8} (h : u.After piece)
    (hrest : ∀ b ∈ rest.head?, ¬ (u.low ≤ b ∧ b ≤ u.high)) : IllFormed piece rest where
  broken := by
    obtain ⟨s, c, hs⟩ := exists_complete? h.low_le_high
    refine .inl ⟨h.ne_nil, c, s, ?_, (h.encoding_iff s c).mpr hs⟩
    rintro rfl
    cases hs
  maximal b hb c hpiece := by
    obtain ⟨s, hs⟩ := hpiece
    rw [List.append_assoc, h.encoding_iff, List.singleton_append] at hs
    simp only [Unfinished.complete?_cons, if_neg (hrest b hb)] at hs
    cases hs

theorem illFormed_of_lead {b : UInt8} (h : lead b = .invalid) (rest : List UInt8) :
    IllFormed [b] rest := by
  have hnone (t : List UInt8) (c : Char) : b :: t ≠ utf8EncodeChar c := by
    intro hc
    rw [cons_eq_encoding_iff] at hc
    rcases hc with ⟨hlead, -⟩ | ⟨u, hlead, -⟩ <;>
      · rw [h] at hlead
        cases hlead
  refine ⟨.inr ⟨b, rfl, ?_⟩, ?_⟩
  · rintro c ⟨t, ht⟩
    exact hnone t c ht
  · rintro a - c ⟨t, ht⟩
    exact hnone (a :: t) c (by simpa using ht)

theorem decodeFrom_none_cons (b : UInt8) (s : List UInt8) :
    decodeFrom none (b :: s) =
      match lead b with
      | .char c => c :: decodeFrom none s
      | .opens u => decodeFrom (some u) s
      | .invalid => replacement :: decodeFrom none s :=
  rfl

/-- From the start, and from a state under way, the decoder reads as the standard describes. -/
theorem reads_decodeFrom (s : List UInt8) : Reads s (decodeFrom none s) ∧
    ∀ u piece, Unfinished.After u piece → Reads (piece ++ s) (decodeFrom (some u) s) := by
  induction s with
  | nil =>
    refine ⟨.nil, fun u piece h ↦ ?_⟩
    exact .replaced (h.illFormed (by simp)) .nil
  | cons b s ih =>
    have hnone : Reads (b :: s) (decodeFrom none (b :: s)) := by
      cases hlead : lead b with
      | char c =>
        have hb : [b] = utf8EncodeChar c := by
          rw [cons_eq_encoding_iff]
          exact .inl ⟨hlead, rfl⟩
        rw [decodeFrom_none_cons, hlead, ← List.singleton_append, hb]
        exact .char c ih.1
      | opens u =>
        rw [decodeFrom_none_cons, hlead]
        exact ih.2 u [b] (after_of_lead hlead)
      | invalid =>
        rw [decodeFrom_none_cons, hlead, ← List.singleton_append]
        exact .replaced (illFormed_of_lead hlead s) ih.1
    refine ⟨hnone, fun u piece h ↦ ?_⟩
    by_cases hb : u.low ≤ b ∧ b ≤ u.high
    · rw [decodeFrom, if_pos hb]
      cases ho : u.owed with
      | zero =>
        have hc : piece ++ [b] =
            utf8EncodeChar (Char.ofNat (64 * u.value + (b.toNat - 0x80))) := by
          rw [h.encoding_iff]
          simp only [Unfinished.complete?_cons, if_pos hb, ho, if_true]
        rw [List.append_cons, hc]
        exact .char _ ih.1
      | succ n =>
        rw [List.append_cons]
        exact ih.2 _ _ (h.next hb ho)
    · have hfrom : decodeFrom (some u) (b :: s) = replacement :: decodeFrom none (b :: s) := by
        simp only [decodeFrom, if_neg hb]
      rw [hfrom]
      exact .replaced (h.illFormed (by simpa using hb)) hnone

theorem reads_decode (s : List UInt8) : Reads s (decode s) :=
  (reads_decodeFrom s).1

/-- Bytes are decoded to the text that they stand for. -/
theorem reads_iff {s : List UInt8} {t : List Char} : Reads s t ↔ t = decode s :=
  ⟨fun h ↦ h.unique (reads_decode s), fun h ↦ h ▸ reads_decode s⟩

theorem decode_encoding_append (c : Char) (s : List UInt8) :
    decode (utf8EncodeChar c ++ s) = c :: decode s :=
  (reads_decode _).unique (.char c (reads_decode s))

/-- Encoded text is read back. -/
theorem decode_encode (t : List Char) : decode (encode t) = t := by
  induction t with
  | nil => rfl
  | cons c t ih => rw [encode, List.flatMap_cons, decode_encoding_append, ← encode, ih]

theorem toList_loop (b : ByteArray) (i : Nat) (s : List UInt8) :
    ByteArray.toList.loop b i s = s.reverse ++ b.data.toList.drop i := by
  fun_induction ByteArray.toList.loop b i s with
  | case1 i s h ih =>
    have hi : i < b.data.toList.length := h
    rw [ih, List.drop_eq_getElem_cons hi, List.reverse_cons, List.append_assoc]
    simp [ByteArray.get!, h]
  | case2 i s h =>
    rw [List.drop_eq_nil_of_le (Nat.le_of_not_lt h), List.append_nil]

/-- The bytes of a text are the encoding of its characters. -/
theorem toList_toUTF8 (s : String) : s.toUTF8.toList = encode s.toList := by
  rw [String.toUTF8_eq_toByteArray, ← String.utf8Encode_toList, ByteArray.toList, toList_loop,
    List.utf8Encode, List.toList_data_toByteArray]
  rfl

theorem decode_toUTF8 (s : String) : decode s.toUTF8.toList = s.toList := by
  rw [toList_toUTF8, decode_encode]

theorem decode?_toUTF8 (s : String) : decode? s.toUTF8.toList = some s.toList := by
  rw [toList_toUTF8, decode?, decode_encode, if_pos rfl]

/-! ### Bytes of ASCII -/

theorem IllFormed.append_ascii {piece rest : List UInt8} {b : UInt8} (hb : b.toNat ≤ 0x7F)
    (h : IllFormed piece rest) (s : List UInt8) : IllFormed piece (rest ++ b :: s) where
  broken := h.broken
  maximal a ha c hpiece := by
    cases rest with
    | cons d rest => exact h.maximal a ha c hpiece
    | nil =>
      obtain rfl : b = a := by simpa using ha
      obtain ⟨t, ht⟩ := hpiece
      obtain ⟨d, e, rfl⟩ := List.exists_cons_of_ne_nil h.ne_nil
      have hlt := ascii_lt_of_encoding (b := b) ht (by simp)
      omega

/-- Bytes may be cut before a byte of ASCII and read on their own. -/
theorem Reads.append_ascii {p s : List UInt8} {t t' : List Char} {b : UInt8}
    (hb : b.toNat ≤ 0x7F) (h : Reads p t) (h' : Reads (b :: s) t') :
    Reads (p ++ b :: s) (t ++ t') := by
  induction h with
  | nil => exact h'
  | char c _ ih =>
    rw [List.append_assoc]
    exact .char c ih
  | replaced hpiece _ ih =>
    rw [List.append_assoc]
    exact .replaced (hpiece.append_ascii hb s) ih

theorem decode_cons_ascii {b : UInt8} (hb : b.toNat ≤ 0x7F) (s : List UInt8) :
    decode (b :: s) = Char.ofNat b.toNat :: decode s := by
  rw [decode, decodeFrom_none_cons, lead_of_ascii hb, decode]

/-- Bytes may be cut at a byte of ASCII before they are decoded. -/
theorem decode_append_ascii {b : UInt8} (hb : b.toNat ≤ 0x7F) (p s : List UInt8) :
    decode (p ++ b :: s) = decode p ++ Char.ofNat b.toNat :: decode s := by
  rw [← decode_cons_ascii hb]
  exact (reads_decode _).unique (.append_ascii hb (reads_decode p) (reads_decode (b :: s)))

theorem encoding_of_ascii_char {c : Char} (hc : c.toNat ≤ 0x7F) :
    utf8EncodeChar c = [UInt8.ofNat c.toNat] := by
  have hb : (UInt8.ofNat c.toNat).toNat = c.toNat := toNat_byte (by omega)
  have h := encoding_of_ascii (b := UInt8.ofNat c.toNat) (by omega)
  rwa [hb, c.ofNat_toNat] at h

/-- A character of ASCII is read from its own byte. -/
theorem mem_of_mem_decode {c : Char} (hc : c.toNat ≤ 0x7F) {s : List UInt8} (h : c ∈ decode s) :
    UInt8.ofNat c.toNat ∈ s := by
  have hs := reads_decode s
  generalize decode s = t at hs h
  induction hs with
  | nil => cases h
  | char d _ ih =>
    rcases List.mem_cons.mp h with rfl | h
    · rw [encoding_of_ascii_char hc]
      exact List.mem_cons_self
    · exact List.mem_append_right _ (ih h)
  | replaced _ _ ih =>
    rcases List.mem_cons.mp h with rfl | h
    · exact absurd hc (by decide)
    · exact List.mem_append_right _ (ih h)

/-- A character of ASCII at the front of a text is read from its byte at the front. -/
theorem head?_of_head?_decode {c : Char} (hc : c.toNat ≤ 0x7F) {s : List UInt8}
    (h : (decode s).head? = some c) : s.head? = some (UInt8.ofNat c.toNat) := by
  have hs := reads_decode s
  generalize decode s = t at hs h
  cases hs with
  | nil => cases h
  | char d _ =>
    obtain rfl := Option.some.inj h
    rw [encoding_of_ascii_char hc]
    rfl
  | replaced _ _ =>
    obtain rfl := Option.some.inj h
    exact absurd hc (by decide)

end SiteSearch.Text.Utf8
