import SiteSearch.Proofs.Text.Decoding
import SiteSearch.Url.Form

/-!
# Writing and reading forms

A form is read byte by byte, so what is written for one byte is read as that byte in front of
anything else (`percentDecode_formByte`). No ampersand and no equals sign stands for itself in what
is written, which keeps the pairs apart: a written form is read as its pairs (`readForm_writeForm`),
and a pair behind any query, written here or not, is one pair more (`readForm_append`).
-/

set_option autoImplicit false
set_option relaxedAutoImplicit false

namespace SiteSearch.Url

open Text

/-- The form of a list of pairs. -/
def writeForm : List (String × String) → List Char
  | [] => []
  | [(key, value)] => formPair key value
  | (key, value) :: pair :: rest => formPair key value ++ '&' :: writeForm (pair :: rest)

/-! ### One byte -/

/-- A byte of a form with the blank for which a plus sign stands. -/
def unplus (b : UInt8) : UInt8 :=
  if b = 0x2B then 0x20 else b

/-- Whether a byte separates pairs, or a key from its value. -/
def isSeparator (b : UInt8) : Bool :=
  b = 0x26 || b = 0x3D

theorem ne_of_isFormPlain {a b : UInt8} (ha : isFormPlain a = true) (hb : isFormPlain b = false) :
    a ≠ b := by
  rintro rfl
  exact Bool.false_ne_true (hb.symm.trans ha)

/-- A byte that stands for itself is that of a visible character of ASCII. -/
theorem le_of_isFormPlain {b : UInt8} (h : isFormPlain b = true) :
    0x20 < b.toNat ∧ b.toNat ≤ 0x7E := by
  simp only [isFormPlain, Bool.or_eq_true, Bool.and_eq_true, decide_eq_true_eq,
    UInt8.le_iff_toNat_le, ← UInt8.toNat_inj, UInt8.reduceToNat] at h
  omega

theorem unplus_of_isFormPlain {b : UInt8} (h : isFormPlain b = true) : unplus b = b :=
  if_neg (ne_of_isFormPlain h rfl)

theorem isSeparator_of_isFormPlain {b : UInt8} (h : isFormPlain b = true) :
    isSeparator b = false := by
  rw [isSeparator, decide_eq_false (ne_of_isFormPlain h rfl),
    decide_eq_false (ne_of_isFormPlain h rfl), Bool.or_false]

theorem encode_hexUpper : ∀ n < 16,
    String.utf8EncodeChar (hexUpper n) = [(hexUpper n).toNat.toUInt8] := by
  decide

theorem isSeparator_hexUpper : ∀ n < 16, isSeparator (hexUpper n).toNat.toUInt8 = false := by
  decide

theorem hexValue?_hexUpper : ∀ n < 16, hexValue? (hexUpper n).toNat.toUInt8 = some n := by
  decide

theorem unplus_hexUpper : ∀ n < 16,
    unplus (hexUpper n).toNat.toUInt8 = (hexUpper n).toNat.toUInt8 := by
  decide

/-- The two digits of a byte are hexadecimal. -/
theorem digits_lt (b : UInt8) : b.toNat / 16 < 16 ∧ b.toNat % 16 < 16 :=
  ⟨Nat.div_lt_of_lt_mul b.toNat_lt, Nat.mod_lt _ (by decide)⟩

/-- What is written for a byte, in bytes. -/
theorem encode_formByte (b : UInt8) : Utf8.encode (formByte b) =
    if b = 0x20 then [0x2B]
    else if isFormPlain b then [b]
    else [0x25, (hexUpper (b.toNat / 16)).toNat.toUInt8,
      (hexUpper (b.toNat % 16)).toNat.toUInt8] := by
  rw [formByte]
  by_cases hblank : b = 0x20
  · rw [if_pos hblank, if_pos hblank]
    rfl
  rw [if_neg hblank, if_neg hblank]
  by_cases hplain : isFormPlain b = true
  · have hascii : b.toNat ≤ 0x7F := Nat.le_succ_of_le (le_of_isFormPlain hplain).2
    rw [if_pos hplain, if_pos hplain, Utf8.encode, List.flatMap_singleton,
      Utf8.encoding_of_ascii hascii]
  · obtain ⟨hhigh, hlow⟩ := digits_lt b
    have hpercent : String.utf8EncodeChar '%' = [0x25] := rfl
    rw [if_neg hplain, if_neg hplain, percentByte, Utf8.encode, List.flatMap_cons,
      List.flatMap_cons, List.flatMap_singleton, hpercent, encode_hexUpper _ hhigh,
      encode_hexUpper _ hlow]
    rfl

theorem percentDecode_cons {b : UInt8} (h : b ≠ 0x25) (s : List UInt8) :
    percentDecode (b :: s) = b :: percentDecode s := by
  rw [percentDecode]
  rintro c d rest rfl -
  exact h rfl

theorem percentDecode_percent (h l : UInt8) (s : List UInt8) :
    percentDecode (0x25 :: h :: l :: s) =
      match hexValue? h, hexValue? l with
      | some h, some l => (16 * h + l).toUInt8 :: percentDecode s
      | _, _ => 0x25 :: percentDecode (h :: l :: s) :=
  rfl

theorem percentDecode_digits {h l : Nat} (hh : h < 16) (hl : l < 16) (s : List UInt8) :
    percentDecode (0x25 :: (hexUpper h).toNat.toUInt8 :: (hexUpper l).toNat.toUInt8 :: s) =
      (16 * h + l).toUInt8 :: percentDecode s := by
  rw [percentDecode_percent, hexValue?_hexUpper h hh, hexValue?_hexUpper l hl]

/-- What is written for a byte is read as the byte, whatever is behind it. -/
theorem percentDecode_formByte (b : UInt8) (s : List UInt8) :
    percentDecode ((Utf8.encode (formByte b) ++ s).map unplus) =
      b :: percentDecode (s.map unplus) := by
  rw [encode_formByte]
  by_cases hblank : b = 0x20
  · rw [if_pos hblank, hblank]
    exact percentDecode_cons (by decide) _
  rw [if_neg hblank]
  by_cases hplain : isFormPlain b = true
  · rw [if_pos hplain, List.singleton_append, List.map_cons, unplus_of_isFormPlain hplain,
      percentDecode_cons (ne_of_isFormPlain hplain rfl)]
  · obtain ⟨hhigh, hlow⟩ := digits_lt b
    rw [if_neg hplain]
    simp only [List.cons_append, List.nil_append, List.map_cons, unplus_hexUpper _ hhigh,
      unplus_hexUpper _ hlow]
    have hvalue : 16 * (b.toNat / 16) + b.toNat % 16 = b.toNat := Nat.div_add_mod _ _
    have hpercent : unplus 0x25 = 0x25 := rfl
    rw [hpercent, percentDecode_digits hhigh hlow, hvalue, Nat.toUInt8, UInt8.ofNat_toNat]

theorem isSeparator_of_mem_formByte {a b : UInt8} (h : a ∈ Utf8.encode (formByte b)) :
    isSeparator a = false := by
  rw [encode_formByte] at h
  by_cases hblank : b = 0x20
  · rw [if_pos hblank] at h
    obtain rfl := List.mem_singleton.mp h
    rfl
  rw [if_neg hblank] at h
  by_cases hplain : isFormPlain b = true
  · rw [if_pos hplain] at h
    obtain rfl := List.mem_singleton.mp h
    exact isSeparator_of_isFormPlain hplain
  · rw [if_neg hplain, List.mem_cons, List.mem_cons, List.mem_singleton] at h
    obtain rfl | rfl | rfl := h
    · rfl
    · exact isSeparator_hexUpper _ (digits_lt b).1
    · exact isSeparator_hexUpper _ (digits_lt b).2

/-! ### Keys and values -/

theorem encode_formEncode (s : String) :
    Utf8.encode (formEncode s) =
      (Utf8.encode s.toList).flatMap fun b ↦ Utf8.encode (formByte b) := by
  rw [formEncode, Utf8.encode, List.flatMap_assoc]
  rfl

theorem percentDecode_flatMap (bytes : List UInt8) :
    percentDecode ((bytes.flatMap fun b ↦ Utf8.encode (formByte b)).map unplus) = bytes := by
  induction bytes with
  | nil => rfl
  | cons b bytes ih => rw [List.flatMap_cons, percentDecode_formByte, ih]

/-- A key or a value is read as it was written. -/
theorem formDecode_formEncode (s : String) : formDecode (Utf8.encode (formEncode s)) = s := by
  have hbytes : percentDecode ((Utf8.encode (formEncode s)).map unplus) = Utf8.encode s.toList := by
    rw [encode_formEncode, percentDecode_flatMap]
  change String.ofList (Utf8.decode (percentDecode ((Utf8.encode (formEncode s)).map unplus))) = s
  rw [hbytes, Utf8.decode_encode, String.ofList_toList]

theorem isSeparator_of_mem_formEncode {s : String} {a : UInt8}
    (h : a ∈ Utf8.encode (formEncode s)) : isSeparator a = false := by
  rw [encode_formEncode, List.mem_flatMap] at h
  obtain ⟨b, -, ha⟩ := h
  exact isSeparator_of_mem_formByte ha

/-! ### Pairs -/

theorem encode_formPair (key value : String) :
    Utf8.encode (formPair key value) =
      Utf8.encode (formEncode key) ++ 0x3D :: Utf8.encode (formEncode value) := by
  rw [formPair, Utf8.encode_append]
  rfl

theorem readPair_formPair (key value : String) :
    readPair (Utf8.encode (formPair key value)) = (key, value) := by
  have hkey : ∀ b ∈ Utf8.encode (formEncode key), decide (b ≠ 0x3D) = true := by
    intro b hb
    have hsep := isSeparator_of_mem_formEncode hb
    simp only [isSeparator, Bool.or_eq_false_iff, decide_eq_false_iff_not] at hsep
    exact decide_eq_true hsep.2
  rw [readPair, encode_formPair, List.takeWhile_append_of_pos hkey,
    List.dropWhile_append_of_pos hkey]
  simp [formDecode_formEncode]

theorem encode_formPair_ne_nil (key value : String) : Utf8.encode (formPair key value) ≠ [] := by
  rw [encode_formPair]
  exact List.append_ne_nil_of_right_ne_nil _ (List.cons_ne_nil _ _)

theorem ampersand_not_mem_formPair (key value : String) :
    0x26 ∉ Utf8.encode (formPair key value) := by
  intro h
  rw [encode_formPair, List.mem_append, List.mem_cons] at h
  obtain h | h | h := h
  · exact absurd (isSeparator_of_mem_formEncode h) (by decide)
  · exact absurd h (by decide)
  · exact absurd (isSeparator_of_mem_formEncode h) (by decide)

theorem splitPairs_cons (b : UInt8) (s : List UInt8) :
    splitPairs (b :: s) =
      match splitPairs s with
      | [] => [[b]]
      | p :: ps => if b = 0x26 then [] :: p :: ps else (b :: p) :: ps :=
  rfl

theorem splitPairs_ne_nil (s : List UInt8) : splitPairs s ≠ [] := by
  cases s with
  | nil => exact List.cons_ne_nil _ _
  | cons b s =>
    rw [splitPairs_cons]
    split
    · exact List.cons_ne_nil _ _
    · split <;> exact List.cons_ne_nil _ _

theorem splitPairs_of_not_mem {s : List UInt8} (h : 0x26 ∉ s) : splitPairs s = [s] := by
  induction s with
  | nil => rfl
  | cons b s ih =>
    rw [List.mem_cons, not_or] at h
    rw [splitPairs_cons, ih h.2]
    exact if_neg (Ne.symm h.1)

/-- An ampersand separates what is before it from what is behind it. -/
theorem splitPairs_append (s t : List UInt8) :
    splitPairs (s ++ 0x26 :: t) = splitPairs s ++ splitPairs t := by
  induction s with
  | nil =>
    obtain ⟨p, ps, ht⟩ := List.exists_cons_of_ne_nil (splitPairs_ne_nil t)
    rw [List.nil_append, splitPairs_cons, ht]
    rfl
  | cons b s ih =>
    obtain ⟨p, ps, hs⟩ := List.exists_cons_of_ne_nil (splitPairs_ne_nil s)
    rw [List.cons_append, splitPairs_cons, ih, splitPairs_cons, hs, List.cons_append]
    dsimp only
    split <;> rfl

/-! ### Forms -/

/-- The pairs of a form given by its bytes. -/
def readBytes (bytes : List UInt8) : List (String × String) :=
  ((splitPairs bytes).filter (· ≠ [])).map readPair

theorem readForm_ofList (s : List Char) : readForm (.ofList s) = readBytes (Utf8.encode s) := by
  rw [readForm, String.toList_ofList, readBytes]

theorem readBytes_append (s t : List UInt8) :
    readBytes (s ++ 0x26 :: t) = readBytes s ++ readBytes t := by
  rw [readBytes, splitPairs_append, List.filter_append, List.map_append, readBytes, readBytes]

theorem readBytes_formPair (key value : String) :
    readBytes (Utf8.encode (formPair key value)) = [(key, value)] := by
  rw [readBytes, splitPairs_of_not_mem (ampersand_not_mem_formPair key value),
    List.filter_cons_of_pos (by simpa using encode_formPair_ne_nil key value), List.filter_nil,
    List.map_singleton, readPair_formPair]

/-- A form is read as the pairs that it was written for. -/
theorem readForm_writeForm (pairs : List (String × String)) :
    readForm (.ofList (writeForm pairs)) = pairs := by
  rw [readForm_ofList]
  fun_induction writeForm pairs with
  | case1 => rfl
  | case2 key value => exact readBytes_formPair key value
  | case3 key value pair rest ih =>
    have hand : Utf8.encode ('&' :: writeForm (pair :: rest)) =
        0x26 :: Utf8.encode (writeForm (pair :: rest)) := rfl
    rw [Utf8.encode_append, hand, readBytes_append, readBytes_formPair, ih, List.singleton_append]

/-- A pair behind a query is one more pair of it. -/
theorem readForm_append (old : String) (key value : String) :
    readForm (old ++ (if old = "" then "" else "&") ++ .ofList (formPair key value)) =
      readForm old ++ [(key, value)] := by
  by_cases hold : old = ""
  · rw [if_pos hold, hold, String.empty_append, String.empty_append, readForm_ofList,
      readBytes_formPair]
    rfl
  · have htext : old ++ "&" ++ String.ofList (formPair key value) =
        .ofList (old.toList ++ '&' :: formPair key value) := by
      apply String.toList_inj.mp
      simp
    have hand : Utf8.encode ('&' :: formPair key value) =
        0x26 :: Utf8.encode (formPair key value) := rfl
    rw [if_neg hold, htext, readForm_ofList, Utf8.encode_append, hand, readBytes_append,
      readBytes_formPair]
    rfl

/-- A URL with one more pair in its query has the pairs that it had, and this one behind them. -/
theorem queryPairs_appendPair (u : Url) (key value : String) :
    (u.appendPair key value).queryPairs = u.queryPairs ++ [(key, value)] := by
  have hold : readForm (u.query.getD "") = u.queryPairs := by
    rw [queryPairs]
    cases u.query with
    | none => rfl
    | some q => rfl
  rw [← hold, ← readForm_append]
  rfl

/-! ### The characters of a form -/

/-- A character that a query of the web keeps as it is. -/
def IsQueryPlain (c : Char) : Prop :=
  0x20 < c.toNat ∧ specialQuerySet c = false

instance (c : Char) : Decidable (IsQueryPlain c) :=
  inferInstanceAs (Decidable (_ ∧ _))

theorem isQueryPlain_hexUpper : ∀ n < 16, IsQueryPlain (hexUpper n) := by
  decide

theorem isQueryPlain_of_isFormPlain {b : UInt8} (h : isFormPlain b = true) :
    IsQueryPlain (Char.ofNat b.toNat) := by
  obtain ⟨hlow, hhigh⟩ := le_of_isFormPlain h
  have hcode : (Char.ofNat b.toNat).toNat = b.toNat := Utf8.toNat_scalar (.inl (by omega))
  have hne (c : Char) (hc : isFormPlain (UInt8.ofNat c.toNat) = false) :
      Char.ofNat b.toNat ≠ c := by
    rintro rfl
    rw [hcode, UInt8.ofNat_toNat] at hc
    exact Bool.false_ne_true (hc.symm.trans h)
  refine ⟨hcode.symm ▸ hlow, ?_⟩
  simp [specialQuerySet, querySet, controlSet, hcode, hne ' ' rfl, hne '"' rfl, hne '#' rfl,
    hne '<' rfl, hne '>' rfl, hne '\x27' rfl]
  omega

theorem isQueryPlain_of_mem_formByte {b : UInt8} {c : Char} (h : c ∈ formByte b) :
    IsQueryPlain c := by
  unfold formByte at h
  split at h
  · obtain rfl := List.mem_singleton.mp h
    decide
  split at h
  · next hplain =>
    obtain rfl := List.mem_singleton.mp h
    exact isQueryPlain_of_isFormPlain hplain
  · rw [percentByte, List.mem_cons, List.mem_cons, List.mem_singleton] at h
    obtain rfl | rfl | rfl := h
    · decide
    · exact isQueryPlain_hexUpper _ (digits_lt b).1
    · exact isQueryPlain_hexUpper _ (digits_lt b).2

theorem isQueryPlain_of_mem_formEncode {s : String} {c : Char} (h : c ∈ formEncode s) :
    IsQueryPlain c := by
  obtain ⟨b, -, hc⟩ := List.mem_flatMap.mp h
  exact isQueryPlain_of_mem_formByte hc

theorem isQueryPlain_of_mem_formPair {key value : String} {c : Char}
    (h : c ∈ formPair key value) : IsQueryPlain c := by
  rw [formPair, List.mem_append, List.mem_cons] at h
  obtain h | rfl | h := h
  · exact isQueryPlain_of_mem_formEncode h
  · decide
  · exact isQueryPlain_of_mem_formEncode h

theorem isQueryPlain_of_mem_writeForm {pairs : List (String × String)} {c : Char}
    (h : c ∈ writeForm pairs) : IsQueryPlain c := by
  fun_induction writeForm pairs with
  | case1 => cases h
  | case2 key value => exact isQueryPlain_of_mem_formPair h
  | case3 key value pair rest ih =>
    rw [List.mem_append, List.mem_cons] at h
    obtain h | rfl | h := h
    · exact isQueryPlain_of_mem_formPair h
    · decide
    · exact ih h

end SiteSearch.Url
