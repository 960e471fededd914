import Mathlib.Data.List.DropRight
import SiteSearch.Proofs.Json.Grammar

/-!
# Reading what the grammar allows

The reader takes every value, whatever ends it (`IsValue.exists_readsAs`). It reads a list of texts
as these texts however they are written (`SpellsTexts.exists_readsAs`), and an object as its members
in their order (`SpellsObject.exists_read?`).
-/

set_option autoImplicit false
set_option relaxedAutoImplicit false

namespace SiteSearch.Json

/-! ### Blanks -/

variable {s t rest : List Char} {c : Char}

theorem skip_append (hs : IsSpaces s) (rest : List Char) : skip (s ++ rest) = skip rest :=
  List.dropWhile_append_of_pos hs

theorem skip_cons (hc : isSpace c = false) (s : List Char) : skip (c :: s) = c :: s :=
  List.dropWhile_cons_of_neg (by simp [hc])

theorem skip_eq_nil (hs : IsSpaces s) : skip s = [] :=
  List.dropWhile_eq_nil_iff.mpr hs

/-- The equation of the reader of values while there is fuel. -/
theorem readValue?_succ (fuel : Nat) (s : List Char) :
    readValue? (fuel + 1) s =
      match skip s with
      | '"' :: rest => (readPieces? rest).map fun (pieces, rest) ↦ (.string pieces, rest)
      | '[' :: rest =>
        match skip rest with
        | ']' :: rest => some (.array [], rest)
        | rest => (readItems? fuel rest).map fun (items, rest) ↦ (.array items, rest)
      | '{' :: rest =>
        match skip rest with
        | '}' :: rest => some (.object [], rest)
        | rest => (readMembers? fuel rest).map fun (members, rest) ↦ (.object members, rest)
      | 'n' :: 'u' :: 'l' :: 'l' :: rest => some (.null, rest)
      | 't' :: 'r' :: 'u' :: 'e' :: rest => some (.bool true, rest)
      | 'f' :: 'a' :: 'l' :: 's' :: 'e' :: rest => some (.bool false, rest)
      | rest => (readNumeral? rest).map fun (n, rest) ↦ (.number n, rest) :=
  rfl

theorem readValue?_congr (h : skip s = skip t) (fuel : Nat) :
    readValue? fuel s = readValue? fuel t := by
  cases fuel with
  | zero => rfl
  | succ fuel => rw [readValue?_succ, readValue?_succ, h]

theorem readValue?_skip (hs : IsSpaces s) (fuel : Nat) (rest : List Char) :
    readValue? fuel (s ++ rest) = readValue? fuel rest :=
  readValue?_congr (skip_append hs rest) fuel

/-- What a value is not read on into. -/
def Ends (rest : List Char) : Prop :=
  ∀ c ∈ rest.head?, isSpace c = true ∨ c = ',' ∨ c = ']' ∨ c = '}'

theorem ends_append (hs : IsSpaces s) (hc : c = ',' ∨ c = ']' ∨ c = '}') (rest : List Char) :
    Ends (s ++ c :: rest) := by
  cases s with
  | nil => simpa [Ends] using Or.inr hc
  | cons d s => simpa [Ends] using Or.inl (hs d List.mem_cons_self)

/-! ### Strings -/

theorem readPieces?_escaped {c e : Char} (he : shortEscape? e = some c) (rest : List Char) :
    readPieces? ('\\' :: e :: rest) =
      (readPieces? rest).map fun (pieces, rest) ↦ (.char c :: pieces, rest) := by
  have hunit : e ≠ 'u' := by
    rintro rfl
    cases he
  rw [readPieces?_short hunit, he]
  cases readPieces? rest <;> rfl

theorem IsInside.exists_pieces (h : IsInside s) :
    ∃ pieces, ∀ rest, readPieces? (s ++ '"' :: rest) = some (pieces, rest) := by
  induction h with
  | nil => exact ⟨[], readPieces?_closing⟩
  | plain hquote hslash hcontrol _ ih =>
    obtain ⟨pieces, hread⟩ := ih
    exact ⟨_, fun rest ↦ by
      rw [List.cons_append, readPieces?_plain hquote hslash hcontrol, hread]; rfl⟩
  | short he _ ih =>
    obtain ⟨pieces, hread⟩ := ih
    exact ⟨_, fun rest ↦ by
      rw [List.cons_append, List.cons_append, readPieces?_escaped he, hread]; rfl⟩
  | @unit n _ _ _ _ _ hn _ ih =>
    obtain ⟨pieces, hread⟩ := ih
    exact ⟨pieceOfUnit n :: pieces, fun rest ↦ by
      simp only [List.cons_append, readPieces?_unit hn, hread]; rfl⟩

theorem Spells.exists_pieces (h : Spells t s) :
    ∃ pieces, textOf? pieces = some t ∧
      ∀ rest, readPieces? (s ++ '"' :: rest) = some (pieces, rest) := by
  induction h with
  | nil => exact ⟨[], rfl, readPieces?_closing⟩
  | plain hquote hslash hcontrol _ ih =>
    obtain ⟨pieces, htext, hread⟩ := ih
    exact ⟨.char _ :: pieces, by rw [textOf?, htext, Option.map_some], fun rest ↦ by
      rw [List.cons_append, readPieces?_plain hquote hslash hcontrol, hread]; rfl⟩
  | short he _ ih =>
    obtain ⟨pieces, htext, hread⟩ := ih
    exact ⟨.char _ :: pieces, by rw [textOf?, htext, Option.map_some], fun rest ↦ by
      rw [List.cons_append, List.cons_append, readPieces?_escaped he, hread]; rfl⟩
  | @unit n _ _ _ _ _ _ hn hwhole _ ih =>
    obtain ⟨pieces, htext, hread⟩ := ih
    have hpiece : pieceOfUnit n = .char (Char.ofNat n) := if_neg hwhole
    exact ⟨.char _ :: pieces, by rw [textOf?, htext, Option.map_some], fun rest ↦ by
      simp only [List.cons_append, readPieces?_unit hn, hread, hpiece]; rfl⟩
  | @pair m n _ _ _ _ _ _ _ _ _ _ hm hn hhigh hlow _ ih =>
    obtain ⟨pieces, htext, hread⟩ := ih
    have hfirst : pieceOfUnit m = .half m := if_pos (by omega)
    have hsecond : pieceOfUnit n = .half n := if_pos (by omega)
    exact ⟨.half m :: .half n :: pieces,
      by rw [textOf?, if_pos ⟨hhigh.2, hlow.1⟩, htext, Option.map_some], fun rest ↦ by
      simp only [List.cons_append, readPieces?_unit hm, readPieces?_unit hn, hread, hfirst, hsecond]
      rfl⟩

/-! ### Numbers -/

/-- What the digits of a row stand for. -/
def digitValues (s : List Char) : List Nat :=
  s.map fun c ↦ c.toNat - '0'.toNat

theorem readDigits_append (hs : ∀ c ∈ s, c.isDigit = true)
    (hrest : ∀ c ∈ rest.head?, c.isDigit = false) :
    readDigits (s ++ rest) = (digitValues s, rest) := by
  have htake : rest.takeWhile Char.isDigit = [] := by
    cases rest with
    | nil => rfl
    | cons d rest => exact List.takeWhile_cons_of_neg (by simp [hrest d rfl])
  have hdrop : rest.dropWhile Char.isDigit = rest := by
    cases rest with
    | nil => rfl
    | cons d rest => exact List.dropWhile_cons_of_neg (by simp [hrest d rfl])
  rw [readDigits, List.takeWhile_append_of_pos hs, List.dropWhile_append_of_pos hs, htake, hdrop,
    List.append_nil, digitValues]

/-- Neither digits nor a fraction or an exponent follow a number. -/
theorem Ends.head (h : Ends rest) :
    ∀ c ∈ rest.head?, c.isDigit = false ∧ c ≠ '.' ∧ c ≠ 'e' ∧ c ≠ 'E' := by
  intro c hc
  have hclass := h c hc
  simp only [isSpace, Bool.or_eq_true, decide_eq_true_eq] at hclass
  obtain (((rfl | rfl) | rfl) | rfl) | rfl | rfl | rfl := hclass <;> decide

theorem IsFraction.exists_digits (h : IsFraction s) :
    ∃ ds, ∀ rest, (∀ c ∈ rest.head?, c.isDigit = false ∧ c ≠ '.') →
      readFraction? (s ++ rest) = some (ds, rest) := by
  cases h with
  | absent =>
    refine ⟨[], fun rest hrest ↦ ?_⟩
    rw [List.nil_append, readFraction?]
    rintro t rfl
    exact (hrest '.' rfl).2 rfl
  | @present ds hds =>
    refine ⟨digitValues ds, fun rest hrest ↦ ?_⟩
    obtain ⟨d, ds, rfl⟩ := List.exists_cons_of_ne_nil hds.1
    rw [List.cons_append, readFraction?,
      readDigits_append hds.2 fun c hc ↦ (hrest c hc).1]
    rfl

theorem IsExponent.exists_value (h : IsExponent s) :
    ∃ n, ∀ rest, Ends rest → readExponent? (s ++ rest) = some (n, rest) := by
  cases h with
  | absent =>
    refine ⟨0, fun rest hrest ↦ ?_⟩
    cases rest with
    | nil => rfl
    | cons c rest =>
      have hc := hrest.head c rfl
      simp [readExponent?, hc]
  | @present e sign ds he hsign hds =>
    obtain ⟨d, ds, rfl⟩ := List.exists_cons_of_ne_nil hds.1
    have hd := hds.2 d List.mem_cons_self
    have hminus : d ≠ '-' := by rintro rfl; cases hd
    have hplus : d ≠ '+' := by rintro rfl; cases hd
    have hdigits (rest : List Char) (hrest : Ends rest) :
        readDigits (d :: (ds ++ rest)) = (digitValues (d :: ds), rest) :=
      readDigits_append hds.2 fun c hc ↦ (hrest.head c hc).1
    obtain rfl | rfl | rfl := hsign
    · refine ⟨natOfDigits (digitValues (d :: ds)), fun rest hrest ↦ ?_⟩
      simp only [List.cons_append, List.nil_append, readExponent?, if_pos he]
      -- the first digit is not taken for a sign
      split
      · next h => split at h <;> simp_all [digitValues]
      · next h => split at h <;> simp_all
    · refine ⟨natOfDigits (digitValues (d :: ds)), fun rest hrest ↦ ?_⟩
      simp only [List.cons_append, List.nil_append, readExponent?, if_pos he, hdigits rest hrest]
      rfl
    · refine ⟨-natOfDigits (digitValues (d :: ds)), fun rest hrest ↦ ?_⟩
      simp only [List.cons_append, List.nil_append, readExponent?, if_pos he, hdigits rest hrest]
      rfl

theorem IsFraction.head (h : IsFraction s) (ht : ∀ c ∈ t.head?, c.isDigit = false) :
    ∀ c ∈ (s ++ t).head?, c.isDigit = false := by
  cases h with
  | absent => exact ht
  | present _ =>
    rintro c ⟨⟩
    rfl

theorem IsExponent.head (h : IsExponent s) (hrest : Ends rest) :
    ∀ c ∈ (s ++ rest).head?, c.isDigit = false ∧ c ≠ '.' := by
  cases h with
  | absent => exact fun c hc ↦ ⟨(hrest.head c hc).1, (hrest.head c hc).2.1⟩
  | present he _ _ =>
    rintro c ⟨⟩
    obtain rfl | rfl := he <;> decide

theorem eq_zero_of_isDigit (hc : c.isDigit = true) (hvalue : c.toNat - '0'.toNat = 0) :
    c = '0' := by
  simp only [Char.isDigit, Bool.and_eq_true, decide_eq_true_eq, ge_iff_le,
    UInt32.le_iff_toNat_le] at hc
  have hnat : c.toNat = '0'.toNat := Nat.le_antisymm (by omega) hc.1
  rw [← c.ofNat_toNat, hnat, Char.ofNat_toNat]

theorem IsNumeral.exists_numeral (h : IsNumeral s) :
    ∃ n, ∀ rest, Ends rest → readNumeral? (s ++ rest) = some (n, rest) := by
  obtain @⟨sign, whole, fraction, exponent, hsign, hwhole, hzero, hfraction, hexponent⟩ := h
  obtain ⟨fds, hpoint⟩ := hfraction.exists_digits
  obtain ⟨e, hpower⟩ := hexponent.exists_value
  obtain ⟨d, ds, rfl⟩ := List.exists_cons_of_ne_nil hwhole.1
  have hd := hwhole.2 d List.mem_cons_self
  have hdigits (rest : List Char) (hrest : Ends rest) :=
    readDigits_append hwhole.2 (hfraction.head fun c hc ↦ (hexponent.head hrest c hc).1)
  have hvalues : ¬ (digitValues (d :: ds) = [] ∨
      (digitValues (d :: ds)).head? = some 0 ∧ (digitValues (d :: ds)).length ≠ 1) := by
    rintro (⟨⟨⟩⟩ | ⟨hfront, hlength⟩)
    refine hlength ((List.length_map _).trans (hzero ?_))
    rw [eq_zero_of_isDigit hd (Option.some.inj hfront), List.head?_cons]
  have hparts (rest : List Char) (hrest : Ends rest) := hpoint _ (hexponent.head hrest)
  simp only [List.cons_append] at hdigits
  obtain rfl | rfl := hsign
  · refine ⟨⟨false, digitValues (d :: ds), fds, e⟩, fun rest hrest ↦ ?_⟩
    simp only [readNumeral?, List.nil_append, List.cons_append, List.append_assoc]
    -- the first digit is not taken for a sign
    split
    · next hminus =>
      obtain ⟨rfl, -⟩ := List.cons.inj hminus
      cases hd
    · simp only [hdigits rest hrest, if_neg hvalues, hparts rest hrest, hpower rest hrest,
        Option.bind_eq_bind, Option.bind_some]
      rfl
  · refine ⟨⟨true, digitValues (d :: ds), fds, e⟩, fun rest hrest ↦ ?_⟩
    simp only [readNumeral?, List.nil_append, List.cons_append, List.append_assoc,
      hdigits rest hrest, if_neg hvalues, hparts rest hrest, hpower rest hrest,
      Option.bind_eq_bind, Option.bind_some]
    rfl

/-! ### Values -/

/-- A text is read as a value, whatever ends it. -/
def ReadsAs (s : List Char) (v : Value) : Prop :=
  ∀ fuel rest, s.length ≤ fuel → Ends rest → readValue? fuel (s ++ rest) = some (v, rest)

theorem ReadsAs.unique {v w : Value} (hv : ReadsAs s v) (hw : ReadsAs s w) : v = w := by
  have hends : Ends [] := by simp [Ends]
  have h := (hv s.length [] le_rfl hends).symm.trans (hw s.length [] le_rfl hends)
  simpa using h

theorem readValue?_numeral (hc : c.isDigit = true ∨ c = '-') (fuel : Nat) (s : List Char) :
    readValue? (fuel + 1) (c :: s) =
      (readNumeral? (c :: s)).map fun (n, rest) ↦ (.number n, rest) := by
  rw [readValue?_succ, skip_cons (not_isSpace_of_numeral hc)]
  split
  case h_7 => rfl
  all_goals
    rename_i hcons
    obtain ⟨rfl, -⟩ := List.cons.inj hcons
    exact absurd hc (by decide)

theorem IsNumeral.exists_readsAs (h : IsNumeral s) : ∃ v, ReadsAs s v := by
  obtain ⟨n, hread⟩ := h.exists_numeral
  obtain ⟨c, t, rfl, hc⟩ := h.exists_cons
  refine ⟨.number n, fun fuel rest hfuel hrest ↦ ?_⟩
  obtain ⟨fuel, rfl⟩ := Nat.exists_eq_add_one_of_ne_zero (Nat.ne_zero_of_lt hfuel)
  have hread := hread rest hrest
  rw [List.cons_append] at hread ⊢
  rw [readValue?_numeral hc, hread, Option.map_some]

/-- A string is read as its parts. -/
theorem readsAs_string {pieces : List Piece}
    (hread : ∀ rest, readPieces? (s ++ '"' :: rest) = some (pieces, rest)) :
    ReadsAs ('"' :: (s ++ ['"'])) (.string pieces) := by
  intro fuel rest hfuel hrest
  obtain ⟨fuel, rfl⟩ := Nat.exists_eq_add_one_of_ne_zero (Nat.ne_zero_of_lt hfuel)
  rw [List.cons_append, List.append_assoc, List.singleton_append, readValue?_string, hread,
    Option.map_some]

/-! ### Arrays -/

variable {x : List Char} {xs : List (List Char)}

theorem readItems?_succ (fuel : Nat) (s : List Char) :
    readItems? (fuel + 1) s = (do
      let (item, rest) ← readValue? fuel s
      match skip rest with
      | ']' :: rest => return ([item], rest)
      | ',' :: rest =>
        let (items, rest) ← readItems? fuel rest
        return (item :: items, rest)
      | _ => none) :=
  rfl

theorem readItems?_skip (fuel : Nat) (s : List Char) :
    readItems? fuel (skip s) = readItems? fuel s := by
  have hskip : skip (skip s) = skip s := List.dropWhile_idempotent _ _
  cases fuel with
  | zero => rfl
  | succ fuel => rw [readItems?_succ, readItems?_succ, readValue?_congr hskip]

theorem readValue?_array (fuel : Nat) (s : List Char) :
    readValue? (fuel + 1) ('[' :: s) =
      match skip s with
      | ']' :: rest => some (.array [], rest)
      | rest => (readItems? fuel rest).map fun (items, rest) ↦ (.array items, rest) :=
  rfl

/-- The items of an array are read up to its closing bracket. -/
theorem Listed.readItems?_eq {vs : List Value} (h : Listed xs s) (hxs : xs ≠ [])
    (hvs : List.Forall₂ ReadsAs xs vs) (fuel : Nat) (hfuel : s.length < fuel) (rest : List Char) :
    readItems? fuel (s ++ ']' :: rest) = some (vs, rest) := by
  induction h generalizing fuel vs with
  | empty _ => exact absurd rfl hxs
  | @last x front back hfront hback =>
    obtain - | ⟨hv, ⟨⟩⟩ := hvs
    obtain ⟨fuel, rfl⟩ := Nat.exists_eq_add_one_of_ne_zero (Nat.ne_zero_of_lt hfuel)
    simp only [List.length_append] at hfuel
    have hitem := hv fuel (back ++ ']' :: rest) (by omega) (ends_append hback (by decide) rest)
    simp only [readItems?_succ, List.append_assoc, readValue?_skip hfront, hitem, skip_append hback,
      skip_cons (c := ']') rfl, Option.bind_eq_bind, Option.bind_some]
    rfl
  | @more x y front back s ys hfront hback h ih =>
    obtain - | ⟨hv, hvs⟩ := hvs
    obtain ⟨fuel, rfl⟩ := Nat.exists_eq_add_one_of_ne_zero (Nat.ne_zero_of_lt hfuel)
    simp only [List.length_append, List.length_cons] at hfuel
    have hitem := hv fuel (back ++ ',' :: (s ++ ']' :: rest)) (by omega)
      (ends_append hback (by decide) _)
    have hitems := ih (List.cons_ne_nil y ys) hvs fuel (by omega)
    simp only [readItems?_succ, List.append_assoc, List.cons_append, readValue?_skip hfront, hitem,
      skip_append hback, skip_cons (c := ',') rfl, Option.bind_eq_bind, Option.bind_some, hitems]
    rfl

theorem Listed.exists_skip {t : List Char} (h : Listed ((c :: t) :: xs) s)
    (hc : isSpace c = false) (rest : List Char) : ∃ u, skip (s ++ rest) = c :: u := by
  cases h with
  | @last _ front back hfront _ =>
    refine ⟨t ++ (back ++ rest), ?_⟩
    rw [List.append_assoc, skip_append hfront, List.append_assoc, List.cons_append, skip_cons hc]
  | @more _ _ front back s _ hfront _ _ =>
    refine ⟨t ++ (back ++ ',' :: s ++ rest), ?_⟩
    rw [List.append_assoc, skip_append hfront, List.append_assoc, List.cons_append, skip_cons hc]

/-- An array is read as the values of its items. -/
theorem readsAs_array {vs : List Value} (h : Listed xs s) (hxs : ∀ x ∈ xs, IsValue x)
    (hvs : List.Forall₂ ReadsAs xs vs) : ReadsAs ('[' :: (s ++ [']'])) (.array vs) := by
  intro fuel rest hfuel hrest
  obtain ⟨fuel, rfl⟩ := Nat.exists_eq_add_one_of_ne_zero (Nat.ne_zero_of_lt hfuel)
  simp only [List.length_cons, List.length_append, List.length_nil] at hfuel
  rw [List.cons_append, List.append_assoc, List.singleton_append, readValue?_array]
  cases hvs with
  | nil =>
    cases h with
    | empty hs => simp only [skip_append hs, skip_cons (c := ']') rfl]
  | @cons x v xs vs hv hvs =>
    obtain ⟨c, t, rfl, hc, hclosing⟩ := (hxs x List.mem_cons_self).exists_cons
    obtain ⟨u, hskip⟩ := h.exists_skip hc (']' :: rest)
    have hitems := h.readItems?_eq (List.cons_ne_nil _ _) (.cons hv hvs) fuel (by omega) rest
    rw [← readItems?_skip, hskip] at hitems
    simp only [hskip]
    split
    · next hcons => exact absurd (List.cons.inj hcons).1 hclosing
    · rw [hitems, Option.map_some]

/-! ### Objects -/

/-- A text is read as a member of an object. -/
def MemberReadsAs (x : List Char) (m : List Piece × Value) : Prop :=
  ∃ key value, IsMember key value x ∧
    (∀ rest, readPieces? (key ++ '"' :: rest) = some (m.1, rest)) ∧ ReadsAs value m.2

theorem readMembers?_succ (fuel : Nat) (s : List Char) :
    readMembers? (fuel + 1) s =
      (match skip s with
      | '"' :: rest => do
        let (key, rest) ← readPieces? rest
        match skip rest with
        | ':' :: rest =>
          let (value, rest) ← readValue? fuel rest
          match skip rest with
          | '}' :: rest => return ([(key, value)], rest)
          | ',' :: rest =>
            let (members, rest) ← readMembers? fuel rest
            return ((key, value) :: members, rest)
          | _ => none
        | _ => none
      | _ => none) :=
  rfl

theorem readMembers?_skip (fuel : Nat) (s : List Char) :
    readMembers? fuel (skip s) = readMembers? fuel s := by
  have hskip : skip (skip s) = skip s := List.dropWhile_idempotent _ _
  cases fuel with
  | zero => rfl
  | succ fuel => rw [readMembers?_succ, readMembers?_succ, hskip]

theorem readValue?_object (fuel : Nat) (s : List Char) :
    readValue? (fuel + 1) ('{' :: s) =
      match skip s with
      | '}' :: rest => some (.object [], rest)
      | rest => (readMembers? fuel rest).map fun (members, rest) ↦ (.object members, rest) :=
  rfl

/-- The members of an object are read up to its closing brace. -/
theorem Listed.readMembers?_eq {ms : List (List Piece × Value)} (h : Listed xs s) (hxs : xs ≠ [])
    (hms : List.Forall₂ MemberReadsAs xs ms) (fuel : Nat) (hfuel : s.length < fuel)
    (rest : List Char) : readMembers? fuel (s ++ '}' :: rest) = some (ms, rest) := by
  induction h generalizing fuel ms with
  | empty _ => exact absurd rfl hxs
  | @last x front back hfront hback =>
    obtain - | ⟨hm, ⟨⟩⟩ := hms
    obtain ⟨key, value, ⟨before, behind, hbefore, hbehind, rfl⟩, hkey, hvalue⟩ := hm
    obtain ⟨fuel, rfl⟩ := Nat.exists_eq_add_one_of_ne_zero (Nat.ne_zero_of_lt hfuel)
    simp only [List.length_append, List.length_cons] at hfuel
    have hread := hvalue fuel (back ++ '}' :: rest) (by omega) (ends_append hback (by decide) rest)
    simp only [readMembers?_succ, List.append_assoc, List.cons_append, skip_append hfront,
      skip_cons (c := '"') rfl, hkey, skip_append hbefore, skip_cons (c := ':') rfl,
      readValue?_skip hbehind, hread, skip_append hback, skip_cons (c := '}') rfl,
      Option.bind_eq_bind, Option.bind_some]
    rfl
  | @more x y front back s ys hfront hback h ih =>
    obtain - | ⟨hm, hms⟩ := hms
    obtain ⟨key, value, ⟨before, behind, hbefore, hbehind, rfl⟩, hkey, hvalue⟩ := hm
    obtain ⟨fuel, rfl⟩ := Nat.exists_eq_add_one_of_ne_zero (Nat.ne_zero_of_lt hfuel)
    simp only [List.length_append, List.length_cons] at hfuel
    have hread := hvalue fuel (back ++ ',' :: (s ++ '}' :: rest)) (by omega)
      (ends_append hback (by decide) _)
    have hmembers := ih (List.cons_ne_nil y ys) hms fuel (by omega)
    simp only [readMembers?_succ, List.append_assoc, List.cons_append, skip_append hfront,
      skip_cons (c := '"') rfl, hkey, skip_append hbefore, skip_cons (c := ':') rfl,
      readValue?_skip hbehind, hread, skip_append hback, skip_cons (c := ',') rfl,
      Option.bind_eq_bind, Option.bind_some, hmembers]
    rfl

theorem MemberReadsAs.exists_cons {m : List Piece × Value} (h : MemberReadsAs x m) :
    ∃ t, x = '"' :: t := by
  obtain ⟨key, value, ⟨before, behind, -, -, rfl⟩, -, -⟩ := h
  exact ⟨_, rfl⟩

/-- An object is read as its members. -/
theorem readsAs_object {ms : List (List Piece × Value)} (h : Listed xs s)
    (hms : List.Forall₂ MemberReadsAs xs ms) : ReadsAs ('{' :: (s ++ ['}'])) (.object ms) := by
  intro fuel rest hfuel hrest
  obtain ⟨fuel, rfl⟩ := Nat.exists_eq_add_one_of_ne_zero (Nat.ne_zero_of_lt hfuel)
  simp only [List.length_cons, List.length_append, List.length_nil] at hfuel
  rw [List.cons_append, List.append_assoc, List.singleton_append, readValue?_object]
  cases hms with
  | nil =>
    cases h with
    | empty hs => simp only [skip_append hs, skip_cons (c := '}') rfl]
  | @cons x m xs ms hm hms =>
    obtain ⟨t, rfl⟩ := hm.exists_cons
    obtain ⟨u, hskip⟩ := h.exists_skip rfl ('}' :: rest)
    have hmembers := h.readMembers?_eq (List.cons_ne_nil _ _) (.cons hm hms) fuel (by omega)
      rest
    rw [← readMembers?_skip, hskip] at hmembers
    simp only [hskip]
    split
    · next hcons => exact absurd (List.cons.inj hcons).1 (by decide)
    · rw [hmembers, Option.map_some]

/-! ### Every value -/

theorem readsAs_word {w : List Char} {v : Value} (hw : w ≠ [])
    (hread : ∀ fuel rest, readValue? (fuel + 1) (w ++ rest) = some (v, rest)) : ReadsAs w v := by
  intro fuel rest hfuel _
  obtain ⟨fuel, rfl⟩ := Nat.exists_eq_add_one_of_ne_zero
    (Nat.ne_zero_of_lt (Nat.lt_of_lt_of_le (List.length_pos_iff.mpr hw) hfuel))
  exact hread fuel rest

theorem exists_forall₂_readsAs (h : ∀ x ∈ xs, ∃ v, ReadsAs x v) :
    ∃ vs, List.Forall₂ ReadsAs xs vs := by
  induction xs with
  | nil => exact ⟨[], .nil⟩
  | cons x xs ih =>
    obtain ⟨v, hv⟩ := h x List.mem_cons_self
    obtain ⟨vs, hvs⟩ := ih fun y hy ↦ h y (List.mem_cons_of_mem x hy)
    exact ⟨v :: vs, .cons hv hvs⟩

theorem exists_forall₂_memberReadsAs {members : List (List Char × List Char)}
    (h : List.Forall₂ (fun m x ↦ IsMember m.1 m.2 x) members xs)
    (hkeys : ∀ m ∈ members, IsInside m.1) (hvalues : ∀ m ∈ members, ∃ v, ReadsAs m.2 v) :
    ∃ ms, List.Forall₂ MemberReadsAs xs ms := by
  induction h with
  | nil => exact ⟨[], .nil⟩
  | @cons m x members xs hm _ ih =>
    obtain ⟨pieces, hpieces⟩ := (hkeys m List.mem_cons_self).exists_pieces
    obtain ⟨v, hv⟩ := hvalues m List.mem_cons_self
    obtain ⟨ms, hms⟩ := ih (fun n hn ↦ hkeys n (List.mem_cons_of_mem m hn))
      fun n hn ↦ hvalues n (List.mem_cons_of_mem m hn)
    exact ⟨(pieces, v) :: ms, .cons ⟨m.1, m.2, hm, hpieces, hv⟩ hms⟩

/-- Every value is read, whatever ends it. -/
theorem IsValue.exists_readsAs (h : IsValue s) : ∃ v, ReadsAs s v := by
  induction h with
  | nullWord =>
    exact ⟨.null, readsAs_word (List.cons_ne_nil _ _) fun _ _ ↦ rfl⟩
  | trueWord =>
    exact ⟨.bool true, readsAs_word (List.cons_ne_nil _ _) fun _ _ ↦ rfl⟩
  | falseWord =>
    exact ⟨.bool false, readsAs_word (List.cons_ne_nil _ _) fun _ _ ↦ rfl⟩
  | number hs => exact hs.exists_readsAs
  | string hs =>
    obtain ⟨pieces, hread⟩ := hs.exists_pieces
    exact ⟨.string pieces, readsAs_string hread⟩
  | array hs hxs ih =>
    obtain ⟨vs, hvs⟩ := exists_forall₂_readsAs ih
    exact ⟨.array vs, readsAs_array hs hxs hvs⟩
  | object hs hmembers hkeys _ ih =>
    obtain ⟨ms, hms⟩ := exists_forall₂_memberReadsAs hmembers hkeys ih
    exact ⟨.object ms, readsAs_object hs hms⟩

/-! ### Lists of texts and objects with names -/

theorem Value.text?_string {text : String} {pieces : List Piece}
    (h : textOf? pieces = some text.toList) : (Value.string pieces).text? = some text := by
  rw [Value.text?, h, Option.map_some, String.ofList_toList]

/-- A list of texts is read as a list of strings that are these texts. -/
theorem SpellsTexts.exists_readsAs {texts : List String} (h : SpellsTexts texts s) :
    ∃ vs, ReadsAs s (.array vs) ∧ vs.mapM Value.text? = some texts := by
  obtain ⟨items, inside, hitems, hlisted, rfl⟩ := h
  have hvalues : (∀ x ∈ items, IsValue x) ∧
      ∃ vs, List.Forall₂ ReadsAs items vs ∧ vs.mapM Value.text? = some texts := by
    clear hlisted
    induction hitems with
    | nil => exact ⟨by simp, [], .nil, rfl⟩
    | @cons t x texts items hx _ ih =>
      obtain ⟨written, hwritten, rfl⟩ := hx
      obtain ⟨pieces, htext, hread⟩ := hwritten.exists_pieces
      obtain ⟨hare, vs, hvs, htexts⟩ := ih
      refine ⟨List.forall_mem_cons.mpr ⟨.string hwritten.isInside, hare⟩, .string pieces :: vs,
        .cons (readsAs_string hread) hvs, ?_⟩
      rw [List.mapM_cons, Value.text?_string htext, htexts]
      rfl
  obtain ⟨hare, vs, hvs, htexts⟩ := hvalues
  exact ⟨vs, readsAs_array hlisted hare hvs, htexts⟩

/-- An object with names is read as its members in their order. -/
theorem SpellsObject.exists_read? {members : List (String × List Char)}
    (h : SpellsObject members s) {value : String × List Char → Value}
    (hvalues : ∀ m ∈ members, ReadsAs m.2 (value m)) :
    ∃ ms, read? (.ofList s) = some (.object ms) ∧
      ms.mapM (fun m ↦ do return (String.ofList (← textOf? m.1), m.2)) =
        some (members.map fun m ↦ (m.1, value m)) := by
  obtain ⟨items, inside, front, back, hitems, hlisted, hfront, hback, rfl⟩ := h
  have hmembers : ∃ ms, List.Forall₂ MemberReadsAs items ms ∧
      ms.mapM (fun m ↦ do return (String.ofList (← textOf? m.1), m.2)) =
        some (members.map fun m ↦ (m.1, value m)) := by
    clear hlisted
    induction hitems with
    | nil => exact ⟨[], .nil, rfl⟩
    | @cons m x members items hx _ ih =>
      obtain ⟨key, hkey, hmember⟩ := hx
      obtain ⟨pieces, htext, hread⟩ := hkey.exists_pieces
      obtain ⟨hv, hvs⟩ := List.forall_mem_cons.mp hvalues
      obtain ⟨ms, hms, hnames⟩ := ih hvs
      refine ⟨(pieces, value m) :: ms, .cons ⟨key, m.2, hmember, hread, hv⟩ hms, ?_⟩
      rw [List.mapM_cons, hnames, htext]
      simp
  obtain ⟨ms, hms, hnames⟩ := hmembers
  refine ⟨ms, ?_, hnames⟩
  have hbraces : front ++ '{' :: (inside ++ '}' :: back) =
      front ++ ('{' :: (inside ++ ['}']) ++ back) := by simp
  have hends : Ends back := by
    cases back with
    | nil => simp [Ends]
    | cons c back => simpa [Ends] using Or.inl (hback c List.mem_cons_self)
  have hread := readsAs_object hlisted hms
    ((front ++ ('{' :: (inside ++ ['}']) ++ back)).length + 1) back (by simp; omega) hends
  rw [read?, String.toList_ofList, hbraces, readValue?_skip hfront, hread]
  simp only [skip_eq_nil hback, if_true]

end SiteSearch.Json
