import SiteSearch.Proofs.Url.Form
import SiteSearch.Proofs.Url.Relative

/-!
# Query and fragment of a URL that is read

However a text is read, as an authority, a path, a file or a reference to a base, its query and its
fragment are what stands behind the first question mark or number sign (`tailText`). Only a
reference that is empty, or nothing but a fragment, takes the query of the base over
(`readsTail_read`). A fragment of the base is never taken over.
-/

set_option autoImplicit false
set_option relaxedAutoImplicit false

namespace SiteSearch.Url

/-- A text from the end of its path on. -/
def tailText (s : List Char) : List Char :=
  s.dropWhile (!endsPath ·)

/-- The text of a reference behind its scheme, if it has one. -/
def behindScheme (s : List Char) : List Char :=
  match splitScheme s with
  | some (_, rest) => rest
  | none => s

theorem behindScheme_of_some {s rest : List Char} {scheme : String}
    (h : splitScheme s = some (scheme, rest)) : behindScheme s = rest := by
  rw [behindScheme, h]

theorem behindScheme_of_none {s : List Char} (h : splitScheme s = none) : behindScheme s = s := by
  rw [behindScheme, h]

/-! ### From the end of the path on -/

theorem tailText_cons {c : Char} (h : endsPath c = false) (s : List Char) :
    tailText (c :: s) = tailText s :=
  List.dropWhile_cons_of_pos (by rw [h]; rfl)

theorem tailText_of_endsPath {c : Char} (h : endsPath c = true) (s : List Char) :
    tailText (c :: s) = c :: s :=
  List.dropWhile_cons_of_neg (by rw [h]; decide)

/-- What stands in front and ends no path makes no difference. -/
theorem tailText_dropWhile {p : Char → Bool} (h : ∀ c, p c = true → endsPath c = false)
    (s : List Char) : tailText (s.dropWhile p) = tailText s := by
  induction s with
  | nil => rfl
  | cons c s ih =>
    cases hc : p c with
    | true => rw [List.dropWhile_cons_of_pos hc, ih, tailText_cons (h c hc)]
    | false => rw [List.dropWhile_cons_of_neg (by rw [hc]; decide)]

theorem endsPath_of_isSlash {special : Bool} {c : Char} (h : isSlash special c = true) :
    endsPath c = false := by
  simp only [isSlash, Bool.or_eq_true, Bool.and_eq_true, decide_eq_true_eq] at h
  obtain rfl | ⟨-, rfl⟩ := h <;> rfl

theorem endsPath_of_not_endsAuthority {special : Bool} {c : Char}
    (h : (!endsAuthority special c) = true) : endsPath c = false := by
  simp only [endsAuthority, Bool.not_eq_true', Bool.or_eq_false_iff] at h
  exact h.1.2

theorem readPathStart_snd (scheme : String) (s : List Char) :
    (readPathStart scheme s).2 = tailText s := by
  cases s with
  | nil =>
    rw [readPathStart]
    split <;> rfl
  | cons c s =>
    rw [readPathStart]
    split
    · next hslash => rw [tailText_cons (endsPath_of_isSlash hslash)]; rfl
    · split
      · next hend =>
        rw [tailText_of_endsPath (Bool.and_eq_true_iff.mp hend).2]
      · rfl

/-! ### Reading parts -/

/-- A URL with the query and the fragment of a text. -/
structure HasTail (u : Url) (s : List Char) : Prop where
  query : u.query = (readTail (isSpecial u.scheme) (tailText s)).1
  fragment : u.fragment = (readTail (isSpecial u.scheme) (tailText s)).2

variable {scheme : String} {base u : Url} {s : List Char}

theorem hasTail_finish (authority : Option Authority) {path : Path × List Char}
    (h : path.2 = tailText s) : HasTail (finish scheme authority path) s := by
  rw [finish, h]
  exact ⟨rfl, rfl⟩

theorem HasTail.of_eq {t : List Char} (h : HasTail u s) (heq : tailText s = tailText t) :
    HasTail u t :=
  ⟨heq ▸ h.query, heq ▸ h.fragment⟩

theorem hasTail_readAuthority (h : readAuthority scheme s = .ok u) : HasTail u s := by
  have htail : (readPathStart scheme
      (s.dropWhile fun c ↦ !endsAuthority (isSpecial scheme) c)).2 = tailText s := by
    rw [readPathStart_snd, tailText_dropWhile fun c ↦ endsPath_of_not_endsAuthority]
  simp only [readAuthority, bind, Except.bind] at h
  repeat' split at h
  all_goals cases h
  all_goals exact hasTail_finish _ htail

theorem hasTail_readAuthority_dropSlashes (h : readAuthority scheme (dropSlashes s) = .ok u) :
    HasTail u s :=
  (hasTail_readAuthority h).of_eq (tailText_dropWhile (fun _ ↦ endsPath_of_isSlash) s)

/-- A slash in front makes no difference. -/
theorem HasTail.slash {special : Bool} {c : Char} (h : HasTail u s)
    (hc : isSlash special c = true) : HasTail u (c :: s) :=
  h.of_eq (tailText_cons (endsPath_of_isSlash hc) s).symm

/-! ### Files -/

theorem hasTail_readFileAuthority (h : readFileAuthority s = .ok u) : HasTail u s := by
  have htail : (readPathStart "file" (s.dropWhile fun c ↦ !endsAuthority true c)).2 =
      tailText s := by
    rw [readPathStart_snd, tailText_dropWhile fun c ↦ endsPath_of_not_endsAuthority]
  simp only [readFileAuthority, bind, Except.bind] at h
  split at h
  · cases h
    exact hasTail_finish _ rfl
  · repeat' split at h
    all_goals cases h
    all_goals exact hasTail_finish _ htail

theorem hasTail_readFileRoot (base : Option Url) (s : List Char) :
    HasTail (readFileRoot base s) s := by
  unfold readFileRoot
  repeat' split
  all_goals exact hasTail_finish _ rfl

/-! ### References -/

/-- What a reference gives: its fragment, and its query unless it is empty or a fragment, which
takes over the query of the base. -/
structure ReadsTail (base : Option Url) (s : List Char) (u : Url) : Prop where
  fragment : u.fragment = (readTail (isSpecial u.scheme) (tailText s)).2
  query : u.query = (readTail (isSpecial u.scheme) (tailText s)).1 ∨
    (∃ b, base = some b ∧ u.query = b.query) ∧ (s = [] ∨ s.head? = some '#')

theorem HasTail.readsTail (h : HasTail u s) (base : Option Url) : ReadsTail base s u :=
  ⟨h.fragment, .inl h.query⟩

theorem readsTail_readRelative (base : Url) (s : List Char) :
    ReadsTail (some base) s (readRelative base s) := by
  unfold readRelative
  split
  · exact ⟨rfl, .inr ⟨⟨base, rfl, rfl⟩, .inl rfl⟩⟩
  · exact ⟨rfl, .inr ⟨⟨base, rfl, rfl⟩, .inr rfl⟩⟩
  · exact (hasTail_finish _ rfl).readsTail _
  · exact (hasTail_finish _ rfl).readsTail _

theorem readsTail_readFileReference (base : Option Url) (s : List Char) :
    ReadsTail base s (readFileReference base s) := by
  unfold readFileReference
  split
  · exact (hasTail_finish _ rfl).readsTail _
  · split
    · exact (hasTail_finish _ rfl).readsTail _
    · exact readsTail_readRelative _ s

theorem readsTail_readFile {base : Option Url} (h : readFile base s = .ok u) :
    ReadsTail base s u := by
  unfold readFile at h
  split at h
  · split at h
    · cases h
      exact readsTail_readFileReference _ _
    · next hfirst =>
      have hfirst := by simpa using hfirst
      split at h
      · next hsecond =>
        exact (((hasTail_readFileAuthority h).slash hsecond).slash hfirst).readsTail _
      · cases h
        exact ((hasTail_readFileRoot base _).slash hfirst).readsTail _
  · split at h
    · next hfirst =>
      cases h
      exact ((hasTail_readFileRoot base []).slash hfirst).readsTail _
    · cases h
      exact readsTail_readFileReference _ _
  · cases h
    exact readsTail_readFileReference _ _

theorem readsTail_readReference (h : readReference base s = .ok u) : ReadsTail (some base) s u := by
  unfold readReference at h
  split at h
  · split at h
    · exact (hasTail_readAuthority_dropSlashes h).readsTail _
    · split at h
      · next hone =>
        cases h
        cases s with
        | nil => cases hone
        | cons c s =>
          have hslash : isSlash true c = true := by
            by_contra hnot
            rw [countSlashes, List.takeWhile_cons_of_neg hnot] at hone
            cases hone
          have htail : (readPath base.scheme [] s).2 = tailText s := rfl
          exact ((hasTail_finish _ htail).slash hslash).readsTail _
      · cases h
        exact readsTail_readRelative _ s
  · have hslash : isSlash false '/' = true := rfl
    split at h
    · exact (((hasTail_readAuthority h).slash hslash).slash hslash).readsTail _
    · cases h
      exact ((hasTail_finish _ rfl).slash hslash).readsTail _
    · cases h
      exact readsTail_readRelative _ s

/-! ### Whole texts -/

theorem hasTail_readOther (h : readOther scheme s = .ok u) : HasTail u s := by
  have hslash : isSlash false '/' = true := rfl
  unfold readOther at h
  split at h
  · exact ((hasTail_readAuthority h).slash hslash).slash hslash
  · cases h
    exact (hasTail_finish _ rfl).slash hslash
  · cases h
    exact hasTail_finish _ rfl

theorem readsTail_readWithScheme {base : Option Url} (h : readWithScheme base scheme s = .ok u) :
    ReadsTail base s u := by
  unfold readWithScheme at h
  split at h
  · obtain ⟨hfragment, hquery⟩ := readsTail_readFile h
    refine ⟨hfragment, hquery.imp_right fun ⟨⟨b, hb, hu⟩, hs⟩ ↦ ⟨⟨b, ?_, hu⟩, hs⟩⟩
    exact (Option.filter_eq_some_iff.mp hb).1
  · split at h
    · split at h
      · split at h
        · exact readsTail_readReference h
        · exact (hasTail_readAuthority_dropSlashes h).readsTail _
      · exact (hasTail_readAuthority_dropSlashes h).readsTail _
    · exact (hasTail_readOther h).readsTail _

/-- A text that is read gives its own fragment. It gives its own query too, unless what is behind
its scheme is empty or a fragment; then it may give the query of the base. -/
theorem readsTail_read {base : Option Url} {text : String} (h : read base text = .ok u) :
    ReadsTail base (behindScheme (strip text.toList)) u := by
  unfold read at h
  simp only at h
  split at h
  · next hscheme =>
    rw [behindScheme_of_some hscheme]
    exact readsTail_readWithScheme h
  · next hscheme =>
    rw [behindScheme_of_none hscheme]
    split at h
    · cases h
    · split at h
      · next hs =>
        cases h
        rw [hs]
        exact ⟨rfl, .inr ⟨⟨_, rfl, rfl⟩, .inr rfl⟩⟩
      · split at h
        · cases h
        · split at h
          · exact readsTail_readFile h
          · exact readsTail_readReference h

theorem hasTail_parse {text : String} (h : parse text = .ok u) :
    HasTail u (behindScheme (strip text.toList)) := by
  obtain ⟨hfragment, hquery | ⟨⟨b, hb, -⟩, -⟩⟩ := readsTail_read h
  · exact ⟨hquery, hfragment⟩
  · cases hb

/-! ### Texts without a query or a fragment -/

theorem readTail_query_eq_none (special : Bool) (h : '?' ∉ s) : (readTail special s).1 = none := by
  simp only [readTail]
  generalize (if special then specialQuerySet else querySet) = set
  split
  · exact absurd List.mem_cons_self h
  · rfl
  · rfl

theorem readTail_fragment_eq_none (special : Bool) (h : '#' ∉ s) :
    (readTail special s).2 = none := by
  simp only [readTail]
  generalize (if special then specialQuerySet else querySet) = set
  split
  · split
    · next heq =>
      have hmem := (List.dropWhile_suffix _).subset (heq ▸ List.mem_cons_self)
      exact absurd (List.mem_cons_of_mem '?' hmem) h
    · rfl
  · exact absurd List.mem_cons_self h
  · rfl

/-- A scheme is followed by its colon, and has no question mark. -/
theorem splitScheme_eq_some {rest : List Char} (h : splitScheme s = some (scheme, rest)) :
    ∃ front, s = front ++ ':' :: rest ∧ '?' ∉ front := by
  simp only [splitScheme] at h
  split at h
  · cases h
  · split at h
    · split at h
      · next hcolon =>
        cases h
        refine ⟨_, (hcolon ▸ List.takeWhile_append_dropWhile).symm, fun hmark ↦ ?_⟩
        exact absurd (List.mem_takeWhile_imp hmark) (by decide)
      · cases h
    · cases h

theorem behindScheme_suffix (s : List Char) : behindScheme s <:+ s := by
  unfold behindScheme
  split
  · next rest hscheme =>
    obtain ⟨front, rfl, -⟩ := splitScheme_eq_some hscheme
    exact (List.suffix_cons _ _).trans (List.suffix_append _ _)
  · exact List.suffix_rfl

theorem strip_subset (s : List Char) : strip s ⊆ s := by
  intro c hc
  have hc := (List.mem_filter.mp hc).1
  rw [List.mem_reverse] at hc
  have hc := (List.dropWhile_suffix _).subset hc
  rw [List.mem_reverse] at hc
  exact (List.dropWhile_suffix _).subset hc

theorem tailText_behindScheme_subset (s : List Char) :
    tailText (behindScheme (strip s)) ⊆ s := fun _ hc ↦
  strip_subset s ((behindScheme_suffix _).subset ((List.dropWhile_suffix _).subset hc))

/-- A reference that names a place other than that of the base: it has no question mark, and behind
its scheme it is neither empty nor a fragment. -/
structure NamesPlace (text : String) : Prop where
  mark : '?' ∉ text.toList
  not_empty : behindScheme (strip text.toList) ≠ []
  not_fragment : (behindScheme (strip text.toList)).head? ≠ some '#'

/-- The query of the base is not that of a reference which names a place. -/
theorem query_join_eq_none {text : String} (h : base.join text = .ok u) (htext : NamesPlace text) :
    u.query = none := by
  obtain ⟨-, hquery | ⟨-, hsame⟩⟩ := readsTail_read h
  · rw [hquery]
    exact readTail_query_eq_none _ fun hc ↦ htext.mark (tailText_behindScheme_subset _ hc)
  · exact absurd hsame (not_or.mpr ⟨htext.not_empty, htext.not_fragment⟩)

theorem readTail_fragment_eq (special : Bool) (s : List Char) :
    (readTail special s).2 = (readTail true s).2 := by
  simp only [readTail]
  generalize (if special then specialQuerySet else querySet) = set
  split
  · split <;> rfl
  · rfl
  · rfl

/-- The fragment of a text. -/
def fragmentOf (text : String) : Option String :=
  (readTail true (tailText (behindScheme (strip text.toList)))).2

theorem fragmentOf_eq_none {text : String} (h : '#' ∉ text.toList) : fragmentOf text = none :=
  readTail_fragment_eq_none _ fun hc ↦ h (tailText_behindScheme_subset _ hc)

/-- The fragment of a reference is its own, whatever the base has. -/
theorem fragment_join {text : String} (h : base.join text = .ok u) :
    u.fragment = fragmentOf text := by
  rw [(readsTail_read h).fragment, readTail_fragment_eq, fragmentOf]

/-! ### A query as it is written -/

/-- A text that is empty or starts with a number sign. -/
def IsFragmentText (s : List Char) : Prop :=
  s = [] ∨ s.head? = some '#'

theorem dropWhile_append_of_neg {p : Char → Bool} {c : Char} (hc : p c = false) (a b : List Char) :
    (a ++ c :: b).dropWhile p = a.dropWhile p ++ c :: b := by
  induction a with
  | nil => exact List.dropWhile_cons_of_neg (by rw [hc]; decide)
  | cons d a ih =>
    rw [List.cons_append]
    cases hd : p d with
    | true => rw [List.dropWhile_cons_of_pos hd, List.dropWhile_cons_of_pos hd, ih]
    | false =>
      rw [List.dropWhile_cons_of_neg (by rw [hd]; decide),
        List.dropWhile_cons_of_neg (by rw [hd]; decide), List.cons_append]

/-- A text without the blanks and control characters at its end. -/
def trimEnd (s : List Char) : List Char :=
  (s.reverse.dropWhile fun c ↦ decide (c.toNat ≤ 0x20)).reverse

/-- Whether a character stays in a text that is stripped. -/
def isKept (c : Char) : Bool :=
  c ≠ '\t' ∧ c ≠ '\n' ∧ c ≠ '\r'

theorem strip_eq (s : List Char) :
    strip s = (trimEnd (s.dropWhile fun c ↦ decide (c.toNat ≤ 0x20))).filter isKept := rfl

theorem trimEnd_append_cons {c : Char} (hc : 0x20 < c.toNat) (a b : List Char) :
    trimEnd (a ++ c :: b) = a ++ c :: trimEnd b := by
  have hedge : decide (c.toNat ≤ 0x20) = false := decide_eq_false (Nat.not_le.mpr hc)
  rw [trimEnd, List.reverse_append, List.reverse_cons, List.append_assoc, List.singleton_append,
    dropWhile_append_of_neg hedge, List.reverse_append, List.reverse_cons, List.reverse_reverse,
    List.append_assoc, List.singleton_append, trimEnd]

theorem trimEnd_append_visible {m : List Char} (hm : ∀ c ∈ m, 0x20 < c.toNat) (hne : m ≠ [])
    (a b : List Char) : trimEnd (a ++ m ++ b) = a ++ m ++ trimEnd b := by
  obtain rfl | ⟨front, c, rfl⟩ := List.eq_nil_or_concat m
  · exact absurd rfl hne
  · have hc : 0x20 < c.toNat := hm c (by simp)
    have hassoc (t : List Char) : a ++ front.concat c ++ t = (a ++ front) ++ c :: t := by simp
    rw [hassoc, trimEnd_append_cons hc, hassoc]

theorem filter_isKept_visible {m : List Char} (hm : ∀ c ∈ m, 0x20 < c.toNat) :
    m.filter isKept = m := by
  refine List.filter_eq_self.mpr fun c hc ↦ ?_
  have hne {d : Char} (hd : d.toNat ≤ 0x20) : c ≠ d := by
    rintro rfl
    exact absurd hd (Nat.not_le.mpr (hm c hc))
  exact decide_eq_true ⟨hne (by decide), hne (by decide), hne (by decide)⟩

theorem IsFragmentText.stripped {b : List Char} (h : IsFragmentText b) :
    IsFragmentText ((trimEnd b).filter isKept) := by
  obtain rfl | hhead := h
  · exact .inl rfl
  · obtain ⟨t, rfl⟩ := List.head?_eq_some_iff.mp hhead
    have htrim := trimEnd_append_cons (c := '#') (by decide) [] t
    rw [List.nil_append, List.nil_append] at htrim
    rw [htrim]
    exact .inr rfl

/-- Stripping keeps visible characters as they are, wherever they stand. -/
theorem strip_append_visible {m : List Char} (hm : ∀ c ∈ m, 0x20 < c.toNat) (a b : List Char) :
    ∃ a', a' ⊆ a ∧ strip (a ++ '?' :: m ++ b) = a' ++ '?' :: m ++ (trimEnd b).filter isKept := by
  have hmark : ∀ c ∈ '?' :: m, 0x20 < c.toNat := by
    intro c hc
    obtain rfl | hc := List.mem_cons.mp hc
    · decide
    · exact hm c hc
  refine ⟨(a.dropWhile fun c ↦ decide (c.toNat ≤ 0x20)).filter isKept, ?_, ?_⟩
  · exact fun c hc ↦ (List.dropWhile_suffix _).subset (List.mem_filter.mp hc).1
  · rw [strip_eq, List.append_assoc, List.cons_append, dropWhile_append_of_neg (by decide),
      ← List.cons_append, ← List.append_assoc,
      trimEnd_append_visible hmark (List.cons_ne_nil _ _), List.filter_append,
      List.filter_append, filter_isKept_visible hmark]

/-- The scheme of a text ends before any question mark. -/
theorem behindScheme_append_mark (a b : List Char) :
    ∃ a', a' ⊆ a ∧ behindScheme (a ++ '?' :: b) = a' ++ '?' :: b := by
  unfold behindScheme
  split
  · next rest hscheme =>
    obtain ⟨front, heq, hmark⟩ := splitScheme_eq_some hscheme
    obtain ⟨a', rfl, hrest⟩ | ⟨a', rfl, hrest⟩ := List.append_eq_append_iff.mp heq
    · cases a' with
      | nil => exact absurd (List.cons.inj hrest).1 (by decide)
      | cons c a' =>
        obtain ⟨rfl, -⟩ := List.cons.inj hrest
        exact absurd (List.mem_append_right a List.mem_cons_self) hmark
    · cases a' with
      | nil => exact absurd (List.cons.inj hrest).1 (by decide)
      | cons c a' =>
        refine ⟨a', fun d hd ↦ ?_, (List.cons.inj hrest).2⟩
        exact List.mem_append_right front (List.mem_cons_of_mem c hd)
  · exact ⟨a, List.Subset.refl a, rfl⟩

theorem readTail_of_plain {q tail : List Char} (hq : ∀ c ∈ q, IsQueryPlain c)
    (htail : IsFragmentText tail) : (readTail true ('?' :: q ++ tail)).1 = some (.ofList q) := by
  have hmark : ∀ c ∈ q, decide (c ≠ '#') = true := by
    intro c hc
    refine decide_eq_true ?_
    rintro rfl
    exact absurd (hq '#' hc) (by decide)
  have htake : (q ++ tail).takeWhile (· ≠ '#') = q := by
    rw [List.takeWhile_append_of_pos hmark]
    obtain rfl | hhead := htail
    · rw [List.takeWhile_nil, List.append_nil]
    · obtain ⟨t, rfl⟩ := List.head?_eq_some_iff.mp hhead
      rw [List.takeWhile_cons_of_neg (by decide), List.append_nil]
  have hencode : percentEncode specialQuerySet q = q :=
    percentEncode_eq_self fun c hc ↦ (hq c hc).2
  simp only [readTail, List.cons_append, htake, if_true, hencode]
  split <;> rfl

/-- A query of characters that the web keeps is the query of the URL that is read. -/
theorem query_parse_of_plain {front q tail : List Char} (hfront : '?' ∉ front ∧ '#' ∉ front)
    (hq : ∀ c ∈ q, IsQueryPlain c) (htail : IsFragmentText tail)
    (h : parse (.ofList (front ++ '?' :: q ++ tail)) = .ok u) (hweb : u.isWeb = true) :
    u.query = some (.ofList q) := by
  have hspecial : isSpecial u.scheme = true := by
    simp only [isWeb, Bool.or_eq_true, decide_eq_true_eq] at hweb
    obtain hscheme | hscheme := hweb <;> rw [hscheme] <;> decide
  obtain ⟨front', hsubset, hstrip⟩ := strip_append_visible (fun c hc ↦ (hq c hc).1) front tail
  obtain ⟨front'', hsubset', hscheme⟩ :=
    behindScheme_append_mark front' (q ++ (trimEnd tail).filter isKept)
  have hends : ∀ c ∈ front'', (!endsPath c) = true := by
    intro c hc
    have hmem := hsubset (hsubset' hc)
    have hne {d : Char} (hd : d ∉ front) : c ≠ d := fun heq ↦ hd (heq ▸ hmem)
    simp [endsPath, hne hfront.1, hne hfront.2]
  rw [(hasTail_parse h).query, hspecial, String.toList_ofList, hstrip, List.append_assoc,
    List.cons_append, hscheme, tailText, List.dropWhile_append_of_pos hends,
    List.dropWhile_cons_of_neg (by decide), ← List.cons_append]
  exact readTail_of_plain hq htail.stripped

end SiteSearch.Url
