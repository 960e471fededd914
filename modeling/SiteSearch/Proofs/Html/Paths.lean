import Mathlib.Data.List.Lex
import Mathlib.Data.List.Sort
import SiteSearch.Html.Tree

/-!
# Paths in trees

A path leads from a node to a child of it, on to a child of this, and so on (`Node.at?`); from
several trees it first leads to one of them (`at?`). The order of paths is that of the document: a
node comes before those below it, and these come before its later siblings. `entriesAmong` lists all
nodes with their paths in this order, each once (`mem_entriesAmong`, `pairwise_entriesAmong`).

Main definitions: `Node.at?`, `at?`, `MarkedAbove`, `entriesAmong`.
-/

set_option autoImplicit false
set_option relaxedAutoImplicit false

namespace SiteSearch.Html

variable {mark : String → List (String × String) → Bool}

/-- The children of a node. -/
def Node.children : Node → List Node
  | .text _ => []
  | .element _ _ _ children => children

/-- Whether a node is an element with name and attributes as asked for. -/
def Node.satisfies (asked : String → List (String × String) → Bool) : Node → Bool
  | .text _ => false
  | .element _ name attributes _ => asked name attributes

/-- The node that a path leads to. -/
def Node.at? (n : Node) : List Nat → Option Node
  | [] => some n
  | i :: path => n.children[i]?.bind fun c ↦ c.at? path

/-- The node that a path leads to from several trees. -/
def at? (trees : List Node) : List Nat → Option Node
  | [] => none
  | i :: path => trees[i]?.bind fun n ↦ n.at? path

theorem Node.at?_append (n : Node) (path below : List Nat) :
    n.at? (path ++ below) = (n.at? path).bind fun e ↦ e.at? below := by
  induction path generalizing n with
  | nil => rfl
  | cons i path ih =>
    rw [List.cons_append, Node.at?, Node.at?]
    cases n.children[i]? with
    | none => rfl
    | some c => exact ih c

theorem at?_append {trees : List Node} {path : List Nat} {e : Node} (h : at? trees path = some e)
    (below : List Nat) : at? trees (path ++ below) = e.at? below := by
  cases path with
  | nil => cases h
  | cons i path =>
    obtain ⟨n, hn, he⟩ := Option.bind_eq_some_iff.mp h
    rw [List.cons_append, at?, hn, Option.bind_some, Node.at?_append, he, Option.bind_some]

/-! ### Ancestors -/

/-- Whether a node above the end of a path satisfies `mark`, from the given node on. -/
def Node.markedAbove (mark : String → List (String × String) → Bool) (n : Node) : List Nat → Bool
  | [] => false
  | i :: path => n.satisfies mark || n.children[i]?.any fun c ↦ c.markedAbove mark path

/-- Whether a node above the end of a path from several trees does. -/
def markedAmong (mark : String → List (String × String) → Bool) (trees : List Node) :
    List Nat → Bool
  | [] => false
  | i :: path => trees[i]?.any fun n ↦ n.markedAbove mark path

/-- Some node above the end of a path satisfies `mark`, from the given node on. -/
def Node.MarkedAbove (mark : String → List (String × String) → Bool) (n : Node)
    (path : List Nat) : Prop :=
  ∃ above e, above <+: path ∧ above ≠ path ∧ n.at? above = some e ∧ e.satisfies mark = true

/-- Some node above the end of a path from several trees does. -/
def MarkedAbove (mark : String → List (String × String) → Bool) (trees : List Node)
    (path : List Nat) : Prop :=
  ∃ above e, above <+: path ∧ above ≠ path ∧ at? trees above = some e ∧ e.satisfies mark = true

theorem markedAbove_cons {trees : List Node} {i : Nat} {path : List Nat} :
    MarkedAbove mark trees (i :: path) ↔ ∃ n, trees[i]? = some n ∧ n.MarkedAbove mark path := by
  constructor
  · rintro ⟨above, e, hfront, hne, he, hmark⟩
    cases above with
    | nil => cases he
    | cons j above =>
      obtain ⟨rfl, hbelow⟩ := List.cons_prefix_cons.mp hfront
      obtain ⟨n, hn, he⟩ := Option.bind_eq_some_iff.mp he
      exact ⟨n, hn, above, e, hbelow, by simpa using hne, he, hmark⟩
  · rintro ⟨n, hn, above, e, hbelow, hne, he, hmark⟩
    refine ⟨i :: above, e, (List.prefix_cons_inj i).mpr hbelow, by simpa using hne, ?_, hmark⟩
    rw [at?, hn, Option.bind_some, he]

/-- The end of a path has the node itself above it, and what its children have. -/
theorem Node.markedAbove_cons {n : Node} {i : Nat} {path : List Nat} :
    n.MarkedAbove mark (i :: path) ↔
      n.satisfies mark = true ∨ Html.MarkedAbove mark n.children (i :: path) := by
  constructor
  · rintro ⟨above, e, hfront, hne, he, hmark⟩
    cases above with
    | nil =>
      obtain rfl := Option.some.inj he
      exact .inl hmark
    | cons j above => exact .inr ⟨j :: above, e, hfront, hne, he, hmark⟩
  · rintro (hmark | ⟨above, e, hfront, hne, he, hmark⟩)
    · exact ⟨[], n, List.nil_prefix, (List.cons_ne_nil i path).symm, rfl, hmark⟩
    · cases above with
      | nil => cases he
      | cons j above => exact ⟨j :: above, e, hfront, hne, he, hmark⟩

theorem Node.markedAbove_iff (n : Node) (path : List Nat) :
    n.markedAbove mark path = true ↔ n.MarkedAbove mark path := by
  induction path generalizing n with
  | nil => simp [Node.markedAbove, Node.MarkedAbove]
  | cons i path ih =>
    rw [Node.markedAbove, Bool.or_eq_true, Option.any_eq_true, Node.markedAbove_cons,
      Html.markedAbove_cons]
    simp only [ih]

theorem markedAmong_iff {trees : List Node} {path : List Nat} :
    markedAmong mark trees path = true ↔ MarkedAbove mark trees path := by
  cases path with
  | nil => simp [markedAmong, MarkedAbove]
  | cons i path =>
    rw [markedAmong, Option.any_eq_true, markedAbove_cons]
    simp only [Node.markedAbove_iff]

instance (trees : List Node) (path : List Nat) : Decidable (MarkedAbove mark trees path) :=
  decidable_of_iff _ markedAmong_iff

/-! ### All nodes in document order -/

/-- The path to the same place in the next tree. -/
def nextTree : List Nat → List Nat
  | [] => []
  | i :: path => (i + 1) :: path

mutual

/-- The nodes from a node on with their paths, in document order. -/
def Node.entries : Node → List (List Nat × Node)
  | .text s => [([], .text s)]
  | .element number name attributes children =>
    ([], .element number name attributes children) :: entriesAmong children

/-- The nodes of several trees with their paths, in document order. -/
def entriesAmong : List Node → List (List Nat × Node)
  | [] => []
  | n :: ns =>
    n.entries.map (fun e ↦ (0 :: e.1, e.2)) ++ (entriesAmong ns).map fun e ↦ (nextTree e.1, e.2)

end

theorem entriesAmong_cons (n : Node) (ns : List Node) :
    entriesAmong (n :: ns) =
      n.entries.map (fun e ↦ (0 :: e.1, e.2)) ++
        (entriesAmong ns).map fun e ↦ (nextTree e.1, e.2) :=
  rfl

theorem Node.entries_eq (n : Node) : n.entries = ([], n) :: entriesAmong n.children := by
  cases n <;> rfl

theorem path_ne_nil {trees : List Node} {e : List Nat × Node} (h : e ∈ entriesAmong trees) :
    e.1 ≠ [] := by
  induction trees generalizing e with
  | nil => exact absurd h List.not_mem_nil
  | cons n ns ih =>
    rw [entriesAmong_cons, List.mem_append, List.mem_map, List.mem_map] at h
    obtain ⟨e, -, rfl⟩ | ⟨e, he, rfl⟩ := h
    · exact List.cons_ne_nil _ _
    · obtain ⟨i, path, hpath⟩ := List.exists_cons_of_ne_nil (ih he)
      rw [hpath]
      exact List.cons_ne_nil _ _

theorem mem_entriesAmong_cons {trees : List Node} {i : Nat} {path : List Nat} {e : Node} :
    (i :: path, e) ∈ entriesAmong trees ↔ ∃ n, trees[i]? = some n ∧ (path, e) ∈ n.entries := by
  induction trees generalizing i with
  | nil => simp [entriesAmong]
  | cons n ns ih =>
    rw [entriesAmong_cons, List.mem_append, List.mem_map, List.mem_map]
    cases i with
    | zero =>
      constructor
      · rintro (⟨e', he', heq⟩ | ⟨e', he', heq⟩)
        · obtain ⟨hpath, rfl⟩ := Prod.mk.inj heq
          exact ⟨n, rfl, (List.cons.inj hpath).2 ▸ he'⟩
        · obtain ⟨j, path', hpath⟩ := List.exists_cons_of_ne_nil (path_ne_nil he')
          simp [hpath, nextTree] at heq
      · rintro ⟨n', hn', he⟩
        obtain rfl := Option.some.inj hn'
        exact .inl ⟨(path, e), he, rfl⟩
    | succ i =>
      rw [List.getElem?_cons_succ, ← ih]
      constructor
      · rintro (⟨e', -, heq⟩ | ⟨e', he', heq⟩)
        · simp at heq
        · obtain ⟨j, path', hpath⟩ := List.exists_cons_of_ne_nil (path_ne_nil he')
          obtain ⟨hnext, rfl⟩ := Prod.mk.inj heq
          rw [hpath, nextTree] at hnext
          obtain ⟨hj, rfl⟩ := List.cons.inj hnext
          obtain rfl := Nat.succ.inj hj
          exact hpath ▸ he'
      · exact fun he ↦ .inr ⟨_, he, rfl⟩

theorem Node.mem_entries {n e : Node} {path : List Nat} :
    (path, e) ∈ n.entries ↔ n.at? path = some e := by
  induction path generalizing n with
  | nil =>
    rw [Node.entries_eq, List.mem_cons, Node.at?]
    constructor
    · rintro (heq | he)
      · exact congrArg some (Prod.mk.inj heq).2.symm
      · exact absurd rfl (path_ne_nil he)
    · rintro ⟨⟩
      exact .inl rfl
  | cons i path ih =>
    rw [Node.entries_eq, List.mem_cons, mem_entriesAmong_cons, Node.at?, Option.bind_eq_some_iff]
    simp only [Prod.mk.injEq, reduceCtorEq, false_and, false_or, ih]

/-- The nodes listed are those that paths lead to. -/
theorem mem_entriesAmong {trees : List Node} {path : List Nat} {e : Node} :
    (path, e) ∈ entriesAmong trees ↔ at? trees path = some e := by
  cases path with
  | nil => exact ⟨fun h ↦ absurd rfl (path_ne_nil h), fun h ↦ nomatch h⟩
  | cons i path =>
    rw [mem_entriesAmong_cons, at?, Option.bind_eq_some_iff]
    simp only [Node.mem_entries]

theorem nextTree_lt {path other : List Nat} (h : path < other) :
    nextTree path < nextTree other := by
  cases path with
  | nil =>
    cases other with
    | nil => exact absurd h (List.lt_irrefl _)
    | cons j other => exact List.nil_lt_cons _ _
  | cons i path =>
    cases other with
    | nil => exact absurd h (List.not_lt_nil _)
    | cons j other =>
      rw [List.cons_lt_cons_iff] at h
      rw [nextTree, nextTree, List.cons_lt_cons_iff]
      exact h.imp Nat.succ_lt_succ (And.imp_left (congrArg Nat.succ))

mutual

theorem Node.pairwise_entries : ∀ n : Node, n.entries.Pairwise fun e e' ↦ e.1 < e'.1
  | .text s => by
    rw [Node.entries]
    exact List.pairwise_singleton _ _
  | .element number name attributes children => by
    rw [Node.entries]
    refine List.pairwise_cons.mpr ⟨fun e he ↦ ?_, pairwise_entriesAmong children⟩
    obtain ⟨i, path, hpath⟩ := List.exists_cons_of_ne_nil (path_ne_nil he)
    rw [hpath]
    exact List.nil_lt_cons _ _

/-- The nodes are listed in document order, each once. -/
theorem pairwise_entriesAmong :
    ∀ trees : List Node, (entriesAmong trees).Pairwise fun e e' ↦ e.1 < e'.1
  | [] => by
    rw [entriesAmong]
    exact List.Pairwise.nil
  | n :: ns => by
    rw [entriesAmong, List.pairwise_append, List.pairwise_map, List.pairwise_map]
    refine ⟨?_, (pairwise_entriesAmong ns).imp nextTree_lt, fun e he e' he' ↦ ?_⟩
    · exact n.pairwise_entries.imp fun h ↦ List.cons_lt_cons_iff.mpr (.inr ⟨rfl, h⟩)
    · obtain ⟨e, -, rfl⟩ := List.mem_map.mp he
      obtain ⟨e', hmem, rfl⟩ := List.mem_map.mp he'
      obtain ⟨i, path, hpath⟩ := List.exists_cons_of_ne_nil (path_ne_nil hmem)
      rw [hpath, nextTree, List.cons_lt_cons_iff]
      exact .inl (Nat.succ_pos i)

end

end SiteSearch.Html
