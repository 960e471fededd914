import SiteSearch.Proofs.Url.Relative

/-!
# Paths below a base

A URL of the web has a path of segments (`exists_segments_parse`). When the path of a base ends in a
slash, a plain relative path is resolved below it: the pieces of the one come behind the segments of
the other, none of which is lost (`join_plain_below`), and so do their texts (`write_append`,
`write_splitWhere`). Any other path loses its last segment.
-/

set_option autoImplicit false
set_option relaxedAutoImplicit false

namespace SiteSearch.Url

/-! ### Paths of the web -/

variable {scheme : String} {s : List Char} {u : Url}

theorem isSpecial_of_isWeb (h : u.isWeb = true) : isSpecial u.scheme = true := by
  unfold isWeb at h
  simp only [Bool.or_eq_true, decide_eq_true_eq] at h
  obtain hscheme | hscheme := h <;> rw [hscheme] <;> rfl

theorem ne_file_of_isWeb (h : u.isWeb = true) : u.scheme ≠ "file" := by
  unfold isWeb at h
  simp only [Bool.or_eq_true, decide_eq_true_eq] at h
  obtain hscheme | hscheme := h <;> rw [hscheme] <;> decide

theorem exists_segments_readPathStart (h : isSpecial scheme = true) (s : List Char) :
    ∃ l, (readPathStart scheme s).1 = .segments l := by
  unfold readPathStart
  split
  · rw [if_pos h]
    exact ⟨_, rfl⟩
  · split
    · exact ⟨_, rfl⟩
    · split
      · exact ⟨_, rfl⟩
      · exact ⟨_, rfl⟩

theorem exists_segments_readAuthority (hscheme : isSpecial scheme = true)
    (h : readAuthority scheme s = .ok u) : ∃ l, u.path = .segments l := by
  simp only [readAuthority, bind, Except.bind] at h
  repeat' split at h
  all_goals cases h
  all_goals exact exists_segments_readPathStart hscheme _

theorem exists_segments_readFileAuthority (h : readFileAuthority s = .ok u) :
    ∃ l, u.path = .segments l := by
  have hrest := exists_segments_readPathStart (rfl : isSpecial "file" = true)
    (s.dropWhile fun c ↦ !endsAuthority true c)
  simp only [readFileAuthority, bind, Except.bind] at h
  split at h
  · cases h
    exact ⟨_, rfl⟩
  · repeat' split at h
    all_goals cases h
    all_goals exact hrest

theorem exists_segments_readFile (h : readFile none s = .ok u) : ∃ l, u.path = .segments l := by
  have hroot (s : List Char) : ∃ l, (readFileRoot none s).path = .segments l := by
    unfold readFileRoot
    split <;> exact ⟨_, rfl⟩
  unfold readFile at h
  split at h
  · split at h
    · cases h
      exact ⟨_, rfl⟩
    · split at h
      · exact exists_segments_readFileAuthority h
      · cases h
        exact hroot _
  · split at h
    · cases h
      exact hroot _
    · cases h
      exact ⟨_, rfl⟩
  · cases h
    exact ⟨_, rfl⟩

theorem scheme_readAuthority (h : readAuthority scheme s = .ok u) : u.scheme = scheme := by
  simp only [readAuthority, bind, Except.bind] at h
  repeat' split at h
  all_goals cases h
  all_goals rfl

theorem scheme_readOther (h : readOther scheme s = .ok u) : u.scheme = scheme := by
  unfold readOther at h
  split at h
  · exact scheme_readAuthority h
  · cases h
    rfl
  · cases h
    rfl

/-- Only a URL without a host can have a path without segments. -/
theorem exists_segments_parse {text : String} (h : parse text = .ok u)
    (hspecial : isSpecial u.scheme = true) : ∃ l, u.path = .segments l := by
  unfold parse read at h
  simp only at h
  split at h
  · unfold readWithScheme at h
    split at h
    · exact exists_segments_readFile h
    · split at h
      · next hscheme => exact exists_segments_readAuthority hscheme h
      · next hscheme =>
        rw [scheme_readOther h] at hspecial
        exact absurd hspecial hscheme
  · cases h

/-! ### Paths that end in a slash -/

/-- A path whose last segment is empty, so that it ends in a slash. -/
def Path.IsClosed (p : Path) : Prop :=
  ∃ l, p = .segments (l ++ [""])

theorem write_cons (segment : String) (l : List String) :
    (Path.segments (segment :: l)).write = "/" ++ segment ++ (Path.segments l).write := by
  simp [Path.write]

theorem write_append (l l' : List String) :
    (Path.segments (l ++ l')).write = (Path.segments l).write ++ (Path.segments l').write := by
  simp [Path.write]

theorem Path.IsClosed.write {p : Path} (h : p.IsClosed) : ∃ front, p.write = front ++ "/" := by
  obtain ⟨l, rfl⟩ := h
  exact ⟨_, write_append l [""]⟩

/-- The pieces of a text between its slashes, written as segments, are the text behind a slash. -/
theorem write_splitWhere (s : List Char) :
    (Path.segments ((splitWhere (· = '/') s).map .ofList)).write = "/" ++ .ofList s := by
  induction s with
  | nil => rfl
  | cons c s ih =>
    obtain ⟨q, qs, hq, hcons⟩ := exists_splitWhere_cons (· = '/') c s
    rw [hq, List.map_cons, write_cons] at ih
    rw [hcons]
    by_cases hc : c = '/'
    · rw [if_pos (decide_eq_true hc), List.map_cons, List.map_cons, write_cons, write_cons, ih, hc,
        ← String.toList_inj]
      simp
    · have hrest : q ++ (Path.segments (qs.map .ofList)).write.toList = s := by
        simpa using congrArg String.toList ih
      rw [if_neg (by simpa using hc), List.map_cons, write_cons, ← String.toList_inj]
      simp [hrest]

/-! ### Below a base -/

theorem addSegments_of_forall_named {pieces : List (List Char)} (hne : pieces ≠ [])
    (h : ∀ piece ∈ pieces, IsNamed piece) (file : Bool) (l : List (List Char)) :
    addSegments file l pieces = pieces.reverse ++ l := by
  have hadd {piece : List Char} (hpiece : IsNamed piece) (l : List (List Char)) (last : Bool) :
      addSegment file l piece last = piece :: l := by
    simp [addSegment, hpiece.1, hpiece.2.1, hpiece.2.2]
  induction pieces generalizing l with
  | nil => exact absurd rfl hne
  | cons piece pieces ih =>
    rw [List.forall_mem_cons] at h
    cases pieces with
    | nil => rw [addSegments, hadd h.1]; rfl
    | cons next pieces =>
      rw [addSegments, hadd h.1, ih (List.cons_ne_nil _ _) h.2, List.reverse_cons (a := piece),
        List.append_assoc]
      · rfl
      · exact List.cons_ne_nil _ _

/-- A plain path of names is resolved below a base whose path ends in a slash. -/
theorem join_plain_below {base : Url} {l : List String} (hfile : base.scheme ≠ "file")
    (hpath : base.path = .segments (l ++ [""])) (hs : IsPlainPath s)
    (hnamed : ∀ piece ∈ splitWhere (· = '/') s, IsNamed piece) :
    base.join (.ofList s) = .ok { base with
      path := .segments (l ++ (splitWhere (· = '/') s).map .ofList)
      query := none
      fragment := none } := by
  have hparent : parentSegments base = l.map String.toList := by
    have hlist : base.path.list.reverse = [] :: (l.map String.toList).reverse := by
      rw [hpath, Path.list]
      simp
    have hshorten : shorten (base.scheme = "file") ([] :: (l.map String.toList).reverse) =
        (l.map String.toList).reverse := by
      rw [decide_eq_false hfile]
      cases (l.map String.toList).reverse <;> rfl
    rw [parentSegments, hlist, hshorten, List.reverse_reverse]
  have hcontinued : continued base s = l.map String.toList ++ splitWhere (· = '/') s := by
    unfold continued
    rw [hparent, addSegments_of_forall_named (splitWhere_ne_nil _ _) hnamed]
    simp [hfile]
  have hrigid : base.isRigid = false := by
    rw [isRigid, hpath]
  rw [join_plain hs, hrigid, hcontinued]
  simp [Function.comp_def]

end SiteSearch.Url
