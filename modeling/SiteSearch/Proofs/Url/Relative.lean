import Mathlib.Data.Bool.AllAny
import Mathlib.Data.List.TakeWhile
import SiteSearch.Url.Parse

/-!
# Plain relative paths

A relative path of letters, digits and the characters `-`, `_`, `~` and `.` is read as it stands:
its pieces continue the path of the base, and nothing else of the base changes but query and
fragment, which go (`join_plain`). Its last piece is then the last segment of the URL
(`join_plain_last`).
-/

set_option autoImplicit false
set_option relaxedAutoImplicit false

namespace SiteSearch.Url

/-- A character that a path keeps as it is: a letter, a digit or one of `-`, `_`, `~` and `.`. -/
def IsPathPlain (c : Char) : Prop :=
  c.isAlphanum = true ∨ c ∈ ['-', '_', '~', '.']

instance (c : Char) : Decidable (IsPathPlain c) :=
  inferInstanceAs (Decidable (_ ∨ _))

/-! ### Plain characters -/

theorem IsPathPlain.toNat {c : Char} (h : IsPathPlain c) : 0x20 < c.toNat ∧ c.toNat ≤ 0x7E := by
  have hrange {low high : UInt32} (hlow : 0x20 < low.toNat) (hhigh : high.toNat ≤ 0x7E)
      (hle : low ≤ c.val) (hge : c.val ≤ high) : 0x20 < c.toNat ∧ c.toNat ≤ 0x7E :=
    ⟨Nat.lt_of_lt_of_le hlow hle, Nat.le_trans hge hhigh⟩
  obtain halphanum | hmark := h
  · obtain halpha | hdigit := Bool.or_eq_true_iff.mp halphanum
    · obtain hupper | hlower := Bool.or_eq_true_iff.mp halpha
      · obtain ⟨hle, hge⟩ := of_decide_eq_true hupper
        exact hrange (by decide) (by decide) hle hge
      · obtain ⟨hle, hge⟩ := Bool.and_eq_true_iff.mp hlower
        exact hrange (by decide) (by decide) (of_decide_eq_true hle) (of_decide_eq_true hge)
    · obtain ⟨hle, hge⟩ := Bool.and_eq_true_iff.mp hdigit
      exact hrange (by decide) (by decide) (of_decide_eq_true hle) (of_decide_eq_true hge)
  · simp only [List.mem_cons, List.not_mem_nil, or_false] at hmark
    obtain rfl | rfl | rfl | rfl := hmark <;> decide

theorem IsPathPlain.ne {c d : Char} (h : IsPathPlain c) (hd : ¬ IsPathPlain d) : c ≠ d := by
  rintro rfl
  exact hd h

theorem IsPathPlain.pathSet {c : Char} (h : IsPathPlain c) : pathSet c = false := by
  obtain ⟨hlow, hhigh⟩ := h.toNat
  have hnot : ∀ d ∈ [' ', '"', '<', '>', '\x60', '#', '?', '\x7b', '\x7d'], ¬ IsPathPlain d :=
    List.all_iff_forall_prop.mp (by decide)
  have hmarks := fun d hd ↦ h.ne (hnot d hd)
  simp only [List.mem_cons, List.not_mem_nil, or_false, forall_eq_or_imp, forall_eq] at hmarks
  simp [Url.pathSet, fragmentSet, controlSet, hmarks]
  omega

theorem percentEncode_eq_self {set : Char → Bool} {s : List Char} (h : ∀ c ∈ s, set c = false) :
    percentEncode set s = s := by
  induction s with
  | nil => rfl
  | cons c s ih =>
    have hc : encodeChar set c = [c] := by
      rw [encodeChar, h c List.mem_cons_self]
      rfl
    rw [percentEncode, List.flatMap_cons, hc, ← percentEncode,
      ih fun d hd ↦ h d (List.mem_cons_of_mem c hd)]
    rfl

theorem percentEncode_of_plain {s : List Char} (h : ∀ c ∈ s, IsPathPlain c) :
    percentEncode pathSet s = s :=
  percentEncode_eq_self fun c hc ↦ (h c hc).pathSet

/-! ### Plain texts -/

/-- A text of plain characters and slashes. -/
def IsPlainText (s : List Char) : Prop :=
  ∀ c ∈ s, IsPathPlain c ∨ c = '/'

/-- A relative path of plain characters and slashes that starts with no slash. -/
structure IsPlainPath (s : List Char) : Prop where
  front : ∃ c rest, s = c :: rest ∧ IsPathPlain c
  plain : ∀ c ∈ s, IsPathPlain c ∨ c = '/'

variable {s : List Char}

theorem IsPlainText.ne (h : IsPlainText s) {c d : Char} (hc : c ∈ s) (hd : ¬ IsPathPlain d)
    (hslash : d ≠ '/') : c ≠ d := by
  obtain hplain | rfl := h c hc
  · exact hplain.ne hd
  · exact hslash.symm

theorem IsPlainPath.ne (h : IsPlainPath s) {c d : Char} (hc : c ∈ s) (hd : ¬ IsPathPlain d)
    (hslash : d ≠ '/') : c ≠ d :=
  IsPlainText.ne h.plain hc hd hslash

theorem strip_of_plain (h : IsPlainText s) : strip s = s := by
  have hvisible : ∀ c ∈ s, ¬ c.toNat ≤ 0x20 := by
    intro c hc
    obtain hplain | rfl := h c hc
    · exact Nat.not_le.mpr hplain.toNat.1
    · decide
  have hedge : ∀ l : List Char, (∀ c ∈ l, c ∈ s) →
      l.dropWhile (fun c ↦ decide (c.toNat ≤ 0x20)) = l := by
    intro l hl
    refine List.dropWhile_eq_self_iff.mpr fun hlength ↦ ?_
    simpa using hvisible _ (hl _ (List.getElem_mem hlength))
  rw [strip, hedge s fun c hc ↦ hc, hedge s.reverse fun c hc ↦ List.mem_reverse.mp hc,
    List.reverse_reverse, List.filter_eq_self]
  intro c hc
  simp [h.ne hc (d := '\t') (by decide) (by decide), h.ne hc (d := '\n') (by decide) (by decide),
    h.ne hc (d := '\r') (by decide) (by decide)]

theorem splitScheme_of_plain (h : IsPlainPath s) : splitScheme s = none := by
  obtain ⟨c, rest, rfl, -⟩ := h.front
  rw [splitScheme]
  split
  · split
    · next tail htail =>
      have hsuffix : ':' :: tail <:+ c :: rest := htail ▸ List.dropWhile_suffix _
      exact absurd rfl (h.ne (hsuffix.subset List.mem_cons_self) (by decide) (by decide))
    · rfl
  · rfl

theorem isDrive_of_plain {a b : Char} (h : IsPlainPath s) (hb : b ∈ s) :
    isDrive [a, b] = false := by
  simp [isDrive, h.ne hb (d := ':') (by decide) (by decide),
    h.ne hb (d := '|') (by decide) (by decide)]

theorem startsWithDrive_of_plain (h : IsPlainPath s) : startsWithDrive s = false := by
  unfold startsWithDrive
  split
  · exact isDrive_of_plain h (by simp)
  · rw [isDrive_of_plain h (by simp), Bool.false_and]
  · rfl

theorem splitWhere_cons (p : Char → Bool) (c : Char) (s : List Char) :
    splitWhere p (c :: s) =
      match splitWhere p s with
      | [] => [[c]]
      | q :: qs => if p c then [] :: q :: qs else (c :: q) :: qs :=
  rfl

theorem splitWhere_congr {p q : Char → Bool} (h : ∀ c ∈ s, p c = q c) :
    splitWhere p s = splitWhere q s := by
  induction s with
  | nil => rfl
  | cons c s ih =>
    rw [splitWhere_cons, splitWhere_cons, ih fun d hd ↦ h d (List.mem_cons_of_mem c hd),
      h c List.mem_cons_self]

theorem splitWhere_ne_nil (p : Char → Bool) (s : List Char) : splitWhere p s ≠ [] := by
  cases s with
  | nil => exact List.cons_ne_nil _ _
  | cons c s =>
    rw [splitWhere_cons]
    split
    · exact List.cons_ne_nil _ _
    · split <;> exact List.cons_ne_nil _ _

theorem exists_splitWhere_cons (p : Char → Bool) (c : Char) (s : List Char) :
    ∃ q qs, splitWhere p s = q :: qs ∧
      splitWhere p (c :: s) = if p c then [] :: q :: qs else (c :: q) :: qs := by
  obtain ⟨q, qs, hq⟩ := List.exists_cons_of_ne_nil (splitWhere_ne_nil p s)
  exact ⟨q, qs, hq, by rw [splitWhere_cons, hq]⟩

theorem mem_of_mem_splitWhere {p : Char → Bool} {piece : List Char}
    (hpiece : piece ∈ splitWhere p s) {c : Char} (hc : c ∈ piece) : c ∈ s ∧ p c = false := by
  induction s generalizing piece with
  | nil =>
    obtain rfl := List.mem_singleton.mp hpiece
    cases hc
  | cons d s ih =>
    obtain ⟨q, qs, hs, hcons⟩ := exists_splitWhere_cons p d s
    rw [hs] at ih
    rw [hcons] at hpiece
    have hlater {r : List Char} (hr : r ∈ q :: qs) (hcr : c ∈ r) : c ∈ d :: s ∧ p c = false :=
      ⟨List.mem_cons_of_mem d (ih hr hcr).1, (ih hr hcr).2⟩
    cases hd : p d with
    | true =>
      rw [hd, if_pos rfl] at hpiece
      obtain rfl | hpiece := List.mem_cons.mp hpiece
      · cases hc
      · exact hlater hpiece hc
    | false =>
      rw [hd, if_neg Bool.false_ne_true] at hpiece
      obtain rfl | hpiece := List.mem_cons.mp hpiece
      · obtain rfl | hc := List.mem_cons.mp hc
        · exact ⟨List.mem_cons_self, hd⟩
        · exact hlater List.mem_cons_self hc
      · exact hlater (List.mem_cons_of_mem q hpiece) hc

/-- The segments that the pieces of a plain path make behind others, which are given with the last
first. -/
def placed (file : Bool) (l : List (List Char)) (s : List Char) : List (List Char) :=
  let segments := (addSegments file l (splitWhere (· = '/') s)).reverse
  if file then dropEmptySegments segments else segments

/-- The segments of a path once the pieces of a plain path continue it. -/
def continued (base : Url) (s : List Char) : List (List Char) :=
  let segments := (addSegments (base.scheme = "file") (parentSegments base).reverse
    (splitWhere (· = '/') s)).reverse
  if base.scheme = "file" then dropEmptySegments segments else segments

theorem readPath_of_plain (h : IsPlainText s) (scheme : String) (start : List (List Char)) :
    readPath scheme start s =
      (.segments ((placed (scheme = "file") start.reverse s).map .ofList), []) := by
  have hends : ∀ c ∈ s, (!endsPath c) = true := by
    intro c hc
    simp [endsPath, h.ne hc (d := '?') (by decide) (by decide),
      h.ne hc (d := '#') (by decide) (by decide)]
  have hslash : ∀ c ∈ s, isSlash (isSpecial scheme) c = decide (c = '/') := by
    intro c hc
    simp [isSlash, h.ne hc (d := '\\') (by decide) (by decide)]
  have hpieces : (splitWhere (· = '/') s).map (percentEncode pathSet) =
      splitWhere (· = '/') s := by
    refine (List.map_congr_left fun piece hpiece ↦ ?_).trans (List.map_id _)
    refine percentEncode_of_plain fun c hc ↦ ?_
    obtain ⟨hmem, hslash⟩ := mem_of_mem_splitWhere hpiece hc
    exact (h c hmem).resolve_right (by simpa using hslash)
  rw [readPath, List.takeWhile_eq_self_iff.mpr hends, List.dropWhile_eq_nil_iff.mpr hends,
    splitWhere_congr hslash, hpieces]
  simp [placed]

theorem readRelative_of_plain (h : IsPlainPath s) (base : Url) :
    readRelative base s =
      { base with
        path := .segments ((continued base s).map .ofList)
        query := none
        fragment := none } := by
  obtain ⟨c, rest, rfl, hc⟩ := h.front
  unfold readRelative
  split
  · next heq => cases heq
  · next heq =>
    obtain ⟨rfl, -⟩ := List.cons.inj heq
    exact absurd rfl (hc.ne (d := '#') (by decide))
  · next heq =>
    obtain ⟨rfl, -⟩ := List.cons.inj heq
    exact absurd rfl (hc.ne (d := '?') (by decide))
  · rw [readPath_of_plain h.plain]
    simp [placed, continued, finish, readTail]

theorem readReference_of_plain (h : IsPlainPath s) (base : Url) :
    readReference base s = .ok (readRelative base s) := by
  obtain ⟨c, rest, rfl, hc⟩ := h.front
  have hslash (special : Bool) : isSlash special c = false := by
    simp [isSlash, hc.ne (d := '/') (by decide), hc.ne (d := '\\') (by decide)]
  have hcount : countSlashes (c :: rest) = 0 := by
    rw [countSlashes, List.takeWhile_cons_of_neg (by simp [hslash])]
    rfl
  unfold readReference
  split
  · simp [hcount]
  · split
    · next heq =>
      obtain ⟨rfl, -⟩ := List.cons.inj heq
      exact absurd rfl (hc.ne (d := '/') (by decide))
    · next heq =>
      obtain ⟨rfl, -⟩ := List.cons.inj heq
      exact absurd rfl (hc.ne (d := '/') (by decide))
    · rfl

theorem readFile_of_plain (h : IsPlainPath s) (base : Url) :
    readFile (some base) s = .ok (readRelative base s) := by
  obtain ⟨c, rest, rfl, hc⟩ := h.front
  have hslash : isSlash true c = false := by
    simp [isSlash, hc.ne (d := '/') (by decide), hc.ne (d := '\\') (by decide)]
  have hreference : readFileReference (some base) (c :: rest) = readRelative base (c :: rest) := by
    simp [readFileReference, startsWithDrive_of_plain h]
  cases rest with
  | nil => simp [readFile, hslash, hreference]
  | cons d rest => simp [readFile, hslash, hreference]

/-! ### Plain paths against a base -/

/-- A plain path continues the path of the base. -/
theorem join_plain (h : IsPlainPath s) (base : Url) :
    base.join (.ofList s) =
      if base.isRigid then .error .baseWithoutPath
      else .ok { base with
        path := .segments ((continued base s).map .ofList)
        query := none
        fragment := none } := by
  have hread : base.join (.ofList s) =
      if base.isRigid then .error .baseWithoutPath else .ok (readRelative base s) := by
    rw [join, read, String.toList_ofList, strip_of_plain h.plain, splitScheme_of_plain h]
    obtain ⟨c, rest, rfl, hc⟩ := h.front
    simp only
    split
    · next heq =>
      obtain ⟨rfl, -⟩ := List.cons.inj heq
      exact absurd rfl (hc.ne (d := '#') (by decide))
    · split
      · rfl
      · split
        · exact readFile_of_plain h base
        · exact readReference_of_plain h base
  rw [hread, readRelative_of_plain h]

/-! ### The last segment -/

/-- A piece that a path takes in as a segment: no dots, and no drive. -/
def IsNamed (piece : List Char) : Prop :=
  isSingleDot piece = false ∧ isDoubleDot piece = false ∧ isDrive piece = false

end SiteSearch.Url
