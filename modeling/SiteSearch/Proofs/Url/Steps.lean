import SiteSearch.Proofs.Url.Base

/-!
# Resolving in two steps

The path of a directory, which is empty or ends in a slash, may be resolved first and a path within
the directory then against the result; or both are written one behind the other and resolved at
once. It comes to the same place (`join_join`). The pieces of a text are those in front of a slash
and those behind it (`splitWhere_append`), and pieces are taken in from left to right
(`addSegments_append`), so that all a directory leaves behind are its segments, however many dots
climb in it or behind it.
-/

set_option autoImplicit false
set_option relaxedAutoImplicit false

namespace SiteSearch.Url

/-- The path of a directory in plain characters, relative to another or to the root of a site: it is
empty or ends in a slash, and starts with one slash at most. -/
structure IsFolderPath (s : List Char) : Prop where
  plain : IsPlainText s
  closed : s = [] ∨ ∃ front, s = front ++ ['/']
  single : ∀ rest, s ≠ '/' :: '/' :: rest

/-- A URL with a path of the given segments, the last first, and nothing behind it. -/
def place (base : Url) (l : List (List Char)) : Url :=
  { base with path := .segments (l.reverse.map .ofList), query := none, fragment := none }

/-- The segments, the last first, that pieces with a slash behind each leave. -/
def climb (l pieces : List (List Char)) : List (List Char) :=
  pieces.foldl (fun l piece ↦ addSegment false l piece false) l

variable {base : Url} {s : List Char}

theorem IsPlainText.isPlainPath (h : IsPlainText s) (hfront : ∀ rest, s ≠ '/' :: rest)
    (hne : s ≠ []) : IsPlainPath s := by
  obtain ⟨c, s, rfl⟩ := List.exists_cons_of_ne_nil hne
  refine ⟨⟨c, s, rfl, (h c List.mem_cons_self).resolve_right ?_⟩, h⟩
  rintro rfl
  exact hfront s rfl

/-! ### Pieces -/

/-- What stands behind a slash is cut into pieces of its own. -/
theorem splitWhere_append (s t : List Char) :
    splitWhere (· = '/') (s ++ '/' :: t) =
      splitWhere (· = '/') s ++ splitWhere (· = '/') t := by
  induction s with
  | nil =>
    obtain ⟨q, qs, hq, hcons⟩ := exists_splitWhere_cons (· = '/') '/' t
    rw [List.nil_append, hcons, hq]
    rfl
  | cons c s ih =>
    obtain ⟨q, qs, hq, hcons⟩ := exists_splitWhere_cons (· = '/') c s
    obtain ⟨q', qs', hq', hcons'⟩ := exists_splitWhere_cons (· = '/') c (s ++ '/' :: t)
    rw [hq, hq', List.cons_append] at ih
    obtain ⟨rfl, rfl⟩ := List.cons.inj ih
    rw [List.cons_append, hcons, hcons']
    split <;> rfl

/-- A directory has the same pieces whatever is written behind it. -/
theorem exists_pieces (h : s = [] ∨ ∃ front, s = front ++ ['/']) :
    ∃ pieces, ∀ t, splitWhere (· = '/') (s ++ t) = pieces ++ splitWhere (· = '/') t := by
  obtain rfl | ⟨front, rfl⟩ := h
  · exact ⟨[], fun t ↦ rfl⟩
  · refine ⟨splitWhere (· = '/') front, fun t ↦ ?_⟩
    rw [List.append_assoc, List.singleton_append, splitWhere_append]

/-- Pieces are taken in one after the other. -/
theorem addSegments_append (l front : List (List Char)) {back : List (List Char)}
    (hback : back ≠ []) :
    addSegments false l (front ++ back) = addSegments false (climb l front) back := by
  induction front generalizing l with
  | nil => rfl
  | cons piece front ih =>
    obtain ⟨next, rest, hnext⟩ :=
      List.exists_cons_of_ne_nil (List.append_ne_nil_of_right_ne_nil front hback)
    have hstep := ih (addSegment false l piece false)
    rw [hnext] at hstep
    rw [List.cons_append, hnext, addSegments]
    · exact hstep
    · exact List.cons_ne_nil next rest

/-! ### One step -/

/-- A plain path continues that of the base. -/
theorem join_below (hfile : base.scheme ≠ "file") (hrigid : base.isRigid = false)
    (h : IsPlainPath s) :
    base.join (.ofList s) = .ok (base.place
      (addSegments false (parentSegments base).reverse (splitWhere (· = '/') s))) := by
  rw [join_plain h, hrigid, continued, decide_eq_false hfile, if_neg Bool.false_ne_true,
    if_neg hfile]
  rfl

/-- A plain path behind a slash starts from the root of the site. -/
theorem join_root (hweb : base.isWeb = true) (hrigid : base.isRigid = false) (h : IsPlainText s)
    (hfront : ∀ rest, s ≠ '/' :: rest) :
    base.join (.ofList ('/' :: s)) =
      .ok (base.place (addSegments false [] (splitWhere (· = '/') s))) := by
  have hfile : base.scheme ≠ "file" := ne_file_of_isWeb hweb
  have hplain : IsPlainText ('/' :: s) := by
    intro c hc
    obtain rfl | hc := List.mem_cons.mp hc
    · exact .inr rfl
    · exact h c hc
  have hcount : countSlashes ('/' :: s) = 1 := by
    cases s with
    | nil => rfl
    | cons c s =>
      have hslash : c ≠ '/' := fun hc ↦ hfront s (by rw [hc])
      have hc : isSlash true c = false := by
        simp [isSlash, hslash, h.ne List.mem_cons_self (d := '\\') (by decide) (by decide)]
      rw [countSlashes, List.takeWhile_cons_of_pos rfl,
        List.takeWhile_cons_of_neg (by rw [hc]; exact Bool.false_ne_true)]
      rfl
  have hread : base.join (.ofList ('/' :: s)) = readReference base ('/' :: s) := by
    rw [join, read, String.toList_ofList, strip_of_plain hplain, hrigid]
    simp [splitScheme, hfile]
  have hreference : readReference base ('/' :: s) =
      .ok (finish base.scheme base.authority (readPath base.scheme [] s)) := by
    unfold readReference
    rw [if_pos (isSpecial_of_isWeb hweb), hcount, if_neg (by decide), if_pos rfl]
    rfl
  rw [hread, hreference, readPath_of_plain h]
  simp [placed, hfile, finish, readTail, place]

/-- An empty text names the base without its fragment. -/
theorem join_empty (hweb : base.isWeb = true) (hrigid : base.isRigid = false) :
    base.join "" = .ok { base with fragment := none } := by
  simp [join, read, strip, splitScheme, hrigid, ne_file_of_isWeb hweb, readReference,
    isSpecial_of_isWeb hweb, countSlashes, readRelative]

/-! ### Two steps -/

theorem parentSegments_place (hfile : base.scheme ≠ "file") (l : List (List Char)) :
    (base.place ([] :: l)).parentSegments.reverse = l := by
  have hlist : (base.place ([] :: l)).path.list.reverse = [] :: l := by
    simp [place, Path.list, Function.comp_def]
  have hshorten : shorten (decide (base.scheme = "file")) ([] :: l) = l := by
    rw [decide_eq_false hfile]
    cases l <;> rfl
  rw [parentSegments, hlist, List.reverse_reverse]
  exact hshorten

/-- What is written behind a directory continues segments that only the directory decides on. -/
theorem exists_join_append (hweb : base.isWeb = true) (hrigid : base.isRigid = false)
    (hs : IsFolderPath s) (hne : s ≠ []) :
    ∃ l, ∀ t, IsPlainText t → (∀ rest, t ≠ '/' :: rest) →
      base.join (.ofList (s ++ t)) =
        .ok (base.place (addSegments false l (splitWhere (· = '/') t))) := by
  obtain ⟨c, s, rfl⟩ := List.exists_cons_of_ne_nil hne
  have happend {t : List Char} (ht : IsPlainText t) : IsPlainText (c :: s ++ t) :=
    fun d hd ↦ (List.mem_append.mp hd).elim (hs.plain d) (ht d)
  by_cases hc : c = '/'
  · subst hc
    have hclosed : s = [] ∨ ∃ front, s = front ++ ['/'] := by
      obtain hs | ⟨front, hs⟩ := hs.closed
      · cases hs
      · cases front with
        | nil => exact .inl (List.cons.inj hs).2
        | cons d front => exact .inr ⟨front, (List.cons.inj hs).2⟩
    obtain ⟨pieces, hpieces⟩ := exists_pieces hclosed
    refine ⟨climb [] pieces, fun t ht hfront ↦ ?_⟩
    rw [← addSegments_append _ _ (splitWhere_ne_nil _ _), ← hpieces]
    refine join_root hweb hrigid (fun d hd ↦ happend ht d (List.mem_cons_of_mem _ hd)) ?_
    cases s with
    | nil => exact hfront
    | cons d s =>
      rintro rest hrest
      exact hs.single s (by rw [(List.cons.inj hrest).1])
  · obtain ⟨pieces, hpieces⟩ := exists_pieces hs.closed
    refine ⟨climb base.parentSegments.reverse pieces, fun t ht _ ↦ ?_⟩
    rw [← addSegments_append _ _ (splitWhere_ne_nil _ _), ← hpieces]
    have hplain : IsPathPlain c := (hs.plain c List.mem_cons_self).resolve_right hc
    exact join_below (ne_file_of_isWeb hweb) hrigid ⟨⟨c, s ++ t, rfl, hplain⟩, happend ht⟩

/-- A path within a directory is resolved against the directory, or behind its path. -/
theorem join_join (hweb : base.isWeb = true) (hclosed : base.path.IsClosed) (hs : IsFolderPath s) :
    ∃ root, base.join (.ofList s) = .ok root ∧ root.path.IsClosed ∧
      ∀ t, IsPlainText t → (∀ rest, t ≠ '/' :: rest) →
        ∃ url, root.join (.ofList t) = .ok url ∧ base.join (.ofList (s ++ t)) = .ok url := by
  have hrigid : base.isRigid = false := by
    obtain ⟨l, hl⟩ := hclosed
    rw [isRigid, hl]
  by_cases hne : s = []
  · subst hne
    refine ⟨_, join_empty hweb hrigid, hclosed, fun t ht hfront ↦ ?_⟩
    by_cases ht' : t = []
    · subst ht'
      exact ⟨_, join_empty hweb hrigid, join_empty hweb hrigid⟩
    · have hpath := ht.isPlainPath hfront ht'
      exact ⟨_, join_below (ne_file_of_isWeb hweb) hrigid hpath,
        join_below (ne_file_of_isWeb hweb) hrigid hpath⟩
  · obtain ⟨l, hl⟩ := exists_join_append hweb hrigid hs hne
    have hroot := hl [] (List.forall_mem_nil _) fun rest ↦ (List.cons_ne_nil '/' rest).symm
    rw [List.append_nil] at hroot
    refine ⟨_, hroot, ⟨l.reverse.map .ofList, ?_⟩, fun t ht hfront ↦ ?_⟩
    · simp [place, splitWhere, addSegments, addSegment, isDoubleDot, isSingleDot]
    · refine ⟨_, ?_, hl t ht hfront⟩
      by_cases ht' : t = []
      · subst ht'
        exact join_empty hweb rfl
      · have hfile : (base.place ([] :: l)).scheme ≠ "file" := ne_file_of_isWeb hweb
        have hjoin := join_below hfile rfl (ht.isPlainPath hfront ht')
        rwa [parentSegments_place (ne_file_of_isWeb hweb)] at hjoin

end SiteSearch.Url
