import SiteSearch.Proofs.Html.Paths

/-!
# The main part of a page

The main part of a page is, of the elements with this role that stand in another node, the one that
was made first (`MadeFirst`). There is one as soon as there is an element with this role
(`exists_madeFirst`), and never two (`MadeFirst.unique`). It is the first of the document if none
behind it was made earlier (`madeFirst_of_first`).
-/

set_option autoImplicit false
set_option relaxedAutoImplicit false

namespace SiteSearch.Html

open Text

variable {asked mark : String → List (String × String) → Bool}

/-! ### Marks above a path -/

theorem Node.markedAbove_of_ne_nil (n : Node) {path : List Nat} (h : path ≠ []) :
    n.markedAbove mark path = (n.satisfies mark || markedAmong mark n.children path) := by
  obtain ⟨i, path, rfl⟩ := List.exists_cons_of_ne_nil h
  rw [Node.markedAbove, markedAmong]

theorem markedAmong_nextTree (n : Node) (ns : List Node) (path : List Nat) :
    markedAmong mark (n :: ns) (nextTree path) = markedAmong mark ns path := by
  cases path <;> rfl

theorem Node.markedAbove_append {n e : Node} {path : List Nat} (h : n.at? path = some e)
    (below : List Nat) :
    n.markedAbove mark (path ++ below) = (n.markedAbove mark path || e.markedAbove mark below) := by
  induction path generalizing n with
  | nil =>
    obtain rfl := Option.some.inj h
    rfl
  | cons i path ih =>
    obtain ⟨c, hc, he⟩ := Option.bind_eq_some_iff.mp h
    rw [List.cons_append, Node.markedAbove, Node.markedAbove, hc, Option.any_some, Option.any_some,
      ih he, Bool.or_assoc]

theorem markedAmong_append {trees : List Node} {e : Node} {path : List Nat}
    (h : at? trees path = some e) (below : List Nat) :
    markedAmong mark trees (path ++ below) =
      (markedAmong mark trees path || e.markedAbove mark below) := by
  cases path with
  | nil => cases h
  | cons i path =>
    obtain ⟨n, hn, he⟩ := Option.bind_eq_some_iff.mp h
    rw [List.cons_append, markedAmong, markedAmong, hn, Option.any_some, Option.any_some,
      Node.markedAbove_append he]

/-! ### Elements found -/

mutual

/-- The elements found at and below a node are those of its nodes that satisfy what is asked. -/
theorem Node.elements_eq : ∀ (n : Node) (inside : Bool),
    n.elements asked mark inside =
      (n.entries.filter fun e ↦ e.2.satisfies asked).map
        fun e ↦ (inside || n.markedAbove mark e.1, e.2)
  | .text s, inside => by
    rw [Node.elements, Node.entries]
    rfl
  | .element number name attributes children, inside => by
    have hbelow : elementsAmong asked mark (inside || mark name attributes) children =
        ((entriesAmong children).filter fun e ↦ e.2.satisfies asked).map fun e ↦
          (inside || (Node.element number name attributes children).markedAbove mark e.1, e.2) := by
      rw [elementsAmong_eq children]
      refine List.map_congr_left fun e he ↦ ?_
      rw [Node.markedAbove_of_ne_nil _ (path_ne_nil (List.mem_of_mem_filter he)), Bool.or_assoc]
      rfl
    rw [Node.elements, Node.entries, List.filter_cons, hbelow, Node.satisfies]
    split
    · rw [List.map_cons, Node.markedAbove, Bool.or_false]
    · rfl

theorem elementsAmong_eq : ∀ (trees : List Node) (inside : Bool),
    elementsAmong asked mark inside trees =
      ((entriesAmong trees).filter fun e ↦ e.2.satisfies asked).map
        fun e ↦ (inside || markedAmong mark trees e.1, e.2)
  | [], inside => by
    rw [elementsAmong, entriesAmong]
    rfl
  | n :: ns, inside => by
    rw [elementsAmong, entriesAmong, Node.elements_eq n, elementsAmong_eq ns, List.filter_append,
      List.map_append, List.filter_map, List.filter_map, List.map_map, List.map_map]
    simp only [Function.comp_def, markedAmong_nextTree]
    rfl

end

/-- The nodes with a parent that satisfy what is asked, with their paths. -/
def askedAmong (asked : String → List (String × String) → Bool) (trees : List Node) :
    List (List Nat × Node) :=
  (entriesAmong trees).filter fun e ↦ e.2.satisfies asked && decide (1 < e.1.length)

theorem Node.elementsBelow_eq (n : Node) :
    n.elementsBelow asked mark =
      ((entriesAmong n.children).filter fun e ↦ e.2.satisfies asked).map
        fun e ↦ (n.markedAbove mark e.1, e.2) := by
  cases n with
  | text s =>
    rw [Node.elementsBelow, Node.children, entriesAmong]
    rfl
  | element number name attributes children =>
    rw [Node.elementsBelow, elementsAmong_eq]
    refine List.map_congr_left fun e he ↦ ?_
    rw [Node.markedAbove_of_ne_nil _ (path_ne_nil (List.mem_of_mem_filter he))]
    rfl

theorem flatMap_elementsBelow (trees : List Node) :
    trees.flatMap (Node.elementsBelow asked mark) =
      (askedAmong asked trees).map fun e ↦ (markedAmong mark trees e.1, e.2) := by
  induction trees with
  | nil =>
    rw [askedAmong, entriesAmong]
    rfl
  | cons n ns ih =>
    have hroot : (n.entries.map fun e ↦ (0 :: e.1, e.2)).filter
        (fun e ↦ e.2.satisfies asked && decide (1 < e.1.length)) =
          ((entriesAmong n.children).filter fun e ↦ e.2.satisfies asked).map
            fun e ↦ (0 :: e.1, e.2) := by
      rw [Node.entries_eq, List.map_cons, List.filter_cons_of_neg (by simp), List.filter_map]
      refine congrArg _ (List.filter_congr fun e he ↦ ?_)
      have hlength : 0 < e.1.length := List.length_pos_iff.mpr (path_ne_nil he)
      simp [hlength]
    have hrest : ((entriesAmong ns).map fun e ↦ (nextTree e.1, e.2)).filter
        (fun e ↦ e.2.satisfies asked && decide (1 < e.1.length)) =
          (askedAmong asked ns).map fun e ↦ (nextTree e.1, e.2) := by
      rw [List.filter_map, askedAmong]
      refine congrArg _ (List.filter_congr fun e he ↦ ?_)
      obtain ⟨i, path, hpath⟩ := List.exists_cons_of_ne_nil (path_ne_nil he)
      simp [hpath, nextTree]
    have hcons : askedAmong asked (n :: ns) =
        (((entriesAmong n.children).filter fun e ↦ e.2.satisfies asked).map
          fun e ↦ (0 :: e.1, e.2)) ++ (askedAmong asked ns).map fun e ↦ (nextTree e.1, e.2) := by
      rw [← hroot, ← hrest, ← List.filter_append, askedAmong, entriesAmong]
    rw [List.flatMap_cons, ih, Node.elementsBelow_eq, hcons, List.map_append, List.map_map,
      List.map_map]
    simp only [Function.comp_def, markedAmong_nextTree]
    rfl

/-! ### The element made first -/

/-- The earliest of the elements found stands where all before it have a greater number, and none
behind it has a smaller one. -/
theorem earliest?_map {α : Type} (f : α → Bool × Node) {l : List α} (hl : l ≠ []) :
    ∃ before x after, l = before ++ x :: after ∧ earliest? (l.map f) = some (f x) ∧
      (∀ y ∈ before, (f x).2.number < (f y).2.number) ∧
      ∀ y ∈ after, (f x).2.number ≤ (f y).2.number := by
  induction l with
  | nil => exact absurd rfl hl
  | cons a l ih =>
    rw [List.map_cons, earliest?]
    cases l with
    | nil => exact ⟨[], a, [], rfl, rfl, by simp, by simp⟩
    | cons b l =>
      obtain ⟨before, x, after, hsplit, hearliest, hbefore, hafter⟩ := ih (List.cons_ne_nil b l)
      rw [hearliest]
      by_cases hlt : (f x).2.number < (f a).2.number
      · refine ⟨a :: before, x, after, by rw [hsplit, List.cons_append], if_pos hlt, ?_, hafter⟩
        exact List.forall_mem_cons.mpr ⟨hlt, hbefore⟩
      · refine ⟨[], a, b :: l, rfl, if_neg hlt, by simp, fun y hy ↦ ?_⟩
        rw [hsplit, List.mem_append, List.mem_cons] at hy
        obtain hy | rfl | hy := hy
        · have := hbefore y hy
          omega
        · omega
        · have := hafter y hy
          omega

/-- An element with a parent that satisfies what is asked. -/
def IsAskedAt (asked : String → List (String × String) → Bool) (trees : List Node)
    (path : List Nat) (e : Node) : Prop :=
  at? trees path = some e ∧ e.satisfies asked = true ∧ 1 < path.length

theorem mem_askedAmong {trees : List Node} {path : List Nat} {e : Node} :
    (path, e) ∈ askedAmong asked trees ↔ IsAskedAt asked trees path e := by
  rw [askedAmong, List.mem_filter, mem_entriesAmong, Bool.and_eq_true, decide_eq_true_iff]
  rfl

theorem pairwise_askedAmong (asked : String → List (String × String) → Bool) (trees : List Node) :
    (askedAmong asked trees).Pairwise fun e e' ↦ e.1 < e'.1 :=
  (pairwise_entriesAmong trees).filter _

/-- Of the elements with a parent that satisfy what is asked, the one that was made first. The order
of the document decides between elements of one number, which no reader makes. -/
def MadeFirst (asked : String → List (String × String) → Bool) (trees : List Node)
    (path : List Nat) : Prop :=
  ∃ e, IsAskedAt asked trees path e ∧ ∀ other e', IsAskedAt asked trees other e' → other ≠ path →
    e.number < e'.number ∨ e.number = e'.number ∧ path < other

theorem madeFirst_iff {trees : List Node} {path : List Nat} :
    MadeFirst asked trees path ↔ ∃ x ∈ askedAmong asked trees, x.1 = path ∧
      ∀ y ∈ askedAmong asked trees, y.1 ≠ path →
        x.2.number < y.2.number ∨ x.2.number = y.2.number ∧ path < y.1 := by
  simp only [Prod.exists, Prod.forall, mem_askedAmong]
  constructor
  · rintro ⟨e, he, hfirst⟩
    exact ⟨path, e, he, rfl, hfirst⟩
  · rintro ⟨path, e, he, rfl, hfirst⟩
    exact ⟨e, he, hfirst⟩

instance (trees : List Node) (path : List Nat) : Decidable (MadeFirst asked trees path) :=
  decidable_of_iff _ madeFirst_iff.symm

/-- The first of the document is the one made first if none behind it was made earlier. -/
theorem madeFirst_of_first {trees : List Node} {path : List Nat} {e : Node}
    (he : IsAskedAt asked trees path e)
    (hfirst : ∀ other e', IsAskedAt asked trees other e' → other ≠ path →
      path < other ∧ e.number ≤ e'.number) : MadeFirst asked trees path :=
  ⟨e, he, fun other e' he' hne ↦
    let ⟨hlt, hle⟩ := hfirst other e' he' hne
    (Nat.lt_or_eq_of_le hle).imp_right fun heq ↦ ⟨heq, hlt⟩⟩

theorem MadeFirst.unique {trees : List Node} {path other : List Nat}
    (h : MadeFirst asked trees path) (hother : MadeFirst asked trees other) : path = other := by
  obtain ⟨e, he, hfirst⟩ := h
  obtain ⟨e', he', hfirst'⟩ := hother
  by_contra hne
  have hlt := hfirst other e' he' fun heq ↦ hne heq.symm
  have hlt' := hfirst' path e he hne
  rcases hlt with hlt | ⟨heq, hlt⟩
  · omega
  · rcases hlt' with hlt' | ⟨-, hlt'⟩
    · omega
    · exact List.lt_asymm hlt hlt'

/-- Of elements that satisfy what is asked, one was made first, and it is the one that is found. -/
theorem exists_madeFirst (mark : String → List (String × String) → Bool) {trees : List Node}
    (h : ∃ path e, IsAskedAt asked trees path e) :
    ∃ path e, MadeFirst asked trees path ∧ at? trees path = some e ∧
      earliest? (trees.flatMap (Node.elementsBelow asked mark)) =
        some (markedAmong mark trees path, e) := by
  obtain ⟨path, e, he⟩ := h
  rw [← mem_askedAmong] at he
  obtain ⟨before, ⟨first, e⟩, after, hsplit, hearliest, hbefore, hafter⟩ :=
    earliest?_map (fun e ↦ (markedAmong mark trees e.1, e.2)) (List.ne_nil_of_mem he)
  have hasked : IsAskedAt asked trees first e := by
    rw [← mem_askedAmong, hsplit]
    exact List.mem_append_right _ List.mem_cons_self
  have hsorted := pairwise_askedAmong asked trees
  rw [hsplit] at hsorted
  refine ⟨first, e, ⟨e, hasked, fun other e' he' hne ↦ ?_⟩, hasked.1, ?_⟩
  · rw [← mem_askedAmong, hsplit, List.mem_append, List.mem_cons] at he'
    obtain hmem | heq | hmem := he'
    · exact .inl (hbefore _ hmem)
    · exact absurd (Prod.mk.inj heq).1 hne
    · have hlt : first < other :=
        (List.pairwise_cons.mp (List.pairwise_append.mp hsorted).2.1).1 _ hmem
      exact (Nat.lt_or_eq_of_le (hafter _ hmem)).imp_right fun heq ↦ ⟨heq, hlt⟩
  · rw [flatMap_elementsBelow, hearliest]

end SiteSearch.Html
