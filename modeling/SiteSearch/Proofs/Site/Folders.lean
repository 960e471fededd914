import Mathlib.Data.List.Basic
import SiteSearch.Site.Layout

/-!
# The directories of pages

The directory of a page is its path without the last segment if that is `index`, and else its path
with a slash behind it (`folderOf_cases`). So the path is known from the directory and from its last
segment, and two pages share a directory only if one is the page `index` in the directory of the
other, which is no such page itself (`folderOf_eq_folderOf_iff`).
-/

set_option autoImplicit false
set_option relaxedAutoImplicit false

namespace SiteSearch.Site

variable {path front last index : String}

/-! ### The last segment -/

/-- The segments of a page path, which slashes set apart. -/
def segments (path : String) : List (List Char) :=
  path.toList.splitOn '/'

/-- The last segment of the path is `index`. -/
def EndsInIndex (path : String) : Prop :=
  (segments path).getLast? = some "index".toList

instance : DecidablePred EndsInIndex :=
  fun _ ↦ inferInstanceAs (Decidable (_ = _))

/-- One path is that of the page `index` in the directory of the other, which does not end in
`index` itself. -/
def IsIndexOf (index path : String) : Prop :=
  index = path ++ "/index" ∧ ¬ EndsInIndex path

theorem segments_ne_nil (path : String) : segments path ≠ [] :=
  List.splitOn_ne_nil '/' path.toList

theorem segments_of_not_mem (h : '/' ∉ path.toList) : segments path = [path.toList] :=
  List.splitOn_eq_singleton h

/-- A slash between two texts sets their segments apart. -/
theorem segments_append_slash (front last : String) :
    segments (front ++ "/" ++ last) = segments front ++ segments last := by
  rw [segments, String.toList_append, String.toList_append, List.append_assoc]
  exact List.splitOn_append_cons_self ..

/-- A path is one segment, or there is one behind its last slash. -/
theorem exists_last_segment (path : String) :
    '/' ∉ path.toList ∨ ∃ front last, path = front ++ "/" ++ last ∧ '/' ∉ last.toList := by
  by_cases h : '/' ∈ path.toList
  · -- The last slash is the first one of the path read backwards.
    obtain ⟨last, front, hpath, hlast⟩ := List.eq_append_cons_of_mem (List.mem_reverse.mpr h)
    refine .inr ⟨.ofList front.reverse, .ofList last.reverse, ?_, by simpa using hlast⟩
    rw [← String.toList_inj, ← List.reverse_inj, hpath]
    simp
  · exact .inl h

theorem endsInIndex_append_slash : EndsInIndex (front ++ "/" ++ last) ↔ EndsInIndex last := by
  rw [EndsInIndex, segments_append_slash, List.getLast?_append_of_ne_nil _ (segments_ne_nil last),
    EndsInIndex]

theorem endsInIndex_of_not_mem (h : '/' ∉ path.toList) : EndsInIndex path ↔ path = "index" := by
  rw [EndsInIndex, segments_of_not_mem h, List.getLast?_singleton, Option.some_inj,
    String.toList_inj]

theorem append_slash_index (front : String) : front ++ "/" ++ "index" = front ++ "/index" :=
  String.append_assoc

theorem eq_of_endsInIndex (h : EndsInIndex path) :
    path = "index" ∨ ∃ front, path = front ++ "/index" := by
  obtain hone | ⟨front, last, rfl, hlast⟩ := exists_last_segment path
  · exact .inl ((endsInIndex_of_not_mem hone).mp h)
  · rw [endsInIndex_append_slash, endsInIndex_of_not_mem hlast] at h
    exact .inr ⟨front, h ▸ append_slash_index front⟩

theorem endsInIndex_iff : EndsInIndex path ↔ path = "index" ∨ ∃ front, path = front ++ "/index" := by
  constructor
  · exact eq_of_endsInIndex
  · rintro (rfl | ⟨front, rfl⟩)
    · decide
    · rw [← append_slash_index, endsInIndex_append_slash]
      decide

/-! ### The directory -/

theorem folderOf_append_index (front : String) : folderOf (front ++ "/index") = front ++ "/" := by
  have hname : (front ++ "/index").toList ≠ "index".toList := fun h ↦ by
    simpa using congrArg List.length h
  have hsuffix : "/index".toList.isSuffixOf (front ++ "/index").toList = true := by
    rw [List.isSuffixOf_iff_suffix, String.toList_append]
    exact List.suffix_append ..
  simp only [folderOf]
  rw [if_neg hname, if_pos hsuffix, ← append_slash_index, String.toList_append, List.length_append,
    Nat.add_sub_cancel, List.take_left, String.ofList_toList]

theorem folderOf_of_not_endsInIndex (h : ¬ EndsInIndex path) : folderOf path = path ++ "/" := by
  rw [endsInIndex_iff, not_or, not_exists] at h
  obtain ⟨hname, hfront⟩ := h
  have hsuffix : ¬ "/index".toList.isSuffixOf path.toList = true := by
    rw [List.isSuffixOf_iff_suffix]
    rintro ⟨front, hpath⟩
    refine hfront (.ofList front) ?_
    rw [← String.toList_inj, String.toList_append, String.toList_ofList, hpath]
  simp only [folderOf]
  rw [if_neg (mt String.toList_inj.mp hname), if_neg hsuffix]

/-- A directory is a path without the `index` at its end, or a path with a slash behind it. -/
theorem folderOf_cases (path : String) :
    EndsInIndex path ∧ path = folderOf path ++ "index" ∨
      ¬ EndsInIndex path ∧ folderOf path = path ++ "/" := by
  by_cases hindex : EndsInIndex path
  · obtain rfl | ⟨front, rfl⟩ := eq_of_endsInIndex hindex
    · exact .inl ⟨hindex, rfl⟩
    · exact .inl ⟨hindex, by rw [folderOf_append_index, append_slash_index]⟩
  · exact .inr ⟨hindex, folderOf_of_not_endsInIndex hindex⟩

theorem folderOf_eq_empty_iff : folderOf path = "" ↔ path = "index" := by
  constructor
  · intro hempty
    obtain ⟨-, hpath⟩ | ⟨-, hfolder⟩ := folderOf_cases path
    · rw [hpath, hempty, String.empty_append]
    · rw [hempty, eq_comm, String.append_eq_empty_iff] at hfolder
      exact absurd hfolder.2 (by decide)
  · rintro rfl
    rfl

/-- A directory is empty or ends in a slash. -/
theorem folderOf_closed (path : String) :
    folderOf path = "" ∨ ∃ front, folderOf path = front ++ "/" := by
  by_cases hindex : EndsInIndex path
  · obtain rfl | ⟨front, rfl⟩ := eq_of_endsInIndex hindex
    · exact .inl rfl
    · exact .inr ⟨front, folderOf_append_index front⟩
  · exact .inr ⟨path, folderOf_of_not_endsInIndex hindex⟩

/-- Of the segments of an `index` page its directory keeps all but the last, in front of the empty
one behind its closing slash. -/
theorem segments_folderOf (h : EndsInIndex path) :
    segments (folderOf path) = (segments path).dropLast ++ [[]] := by
  obtain rfl | ⟨front, rfl⟩ := eq_of_endsInIndex h
  · decide
  · have hindex : segments "index" = ["index".toList] := by decide
    have hempty : segments "" = [[]] := by decide
    have hfront := segments_append_slash front ""
    rw [String.append_empty] at hfront
    rw [folderOf_append_index, hfront, hempty, ← append_slash_index, segments_append_slash, hindex,
      List.dropLast_concat]

theorem IsIndexOf.folderOf_eq (h : IsIndexOf index path) : folderOf index = folderOf path := by
  rw [h.1, folderOf_append_index, folderOf_of_not_endsInIndex h.2]

/-- An `index` page whose directory is that of another page is the page `index` in it. -/
theorem isIndexOf_of_folderOf_eq (hindex : index = folderOf index ++ "index")
    (hpath : ¬ EndsInIndex path) (h : folderOf index = folderOf path) : IsIndexOf index path := by
  refine ⟨?_, hpath⟩
  rw [hindex, h, folderOf_of_not_endsInIndex hpath, append_slash_index]

theorem folderOf_eq_folderOf_iff (p q : String) :
    folderOf p = folderOf q ↔ p = q ∨ IsIndexOf p q ∨ IsIndexOf q p := by
  constructor
  · intro h
    obtain ⟨-, hp⟩ | ⟨hp, hfolder⟩ := folderOf_cases p
    · obtain ⟨-, hq⟩ | ⟨hq, -⟩ := folderOf_cases q
      · exact .inl (by rw [hp, h, ← hq])
      · exact .inr (.inl (isIndexOf_of_folderOf_eq hp hq h))
    · obtain ⟨-, hq⟩ | ⟨-, hfolder'⟩ := folderOf_cases q
      · exact .inr (.inr (isIndexOf_of_folderOf_eq hq hp h.symm))
      · rw [hfolder, hfolder', String.append_left_inj] at h
        exact .inl h
  · rintro (rfl | h | h)
    · rfl
    · exact h.folderOf_eq
    · exact h.folderOf_eq.symm

/-! ### Pages of a site -/

theorem pageUrls_of_dirhtml {o : Options} (h : o.builder = .dirhtml) (path : String) :
    o.pageUrls path = ⟨o.urlRoot ++ folderOf path, o.urlRoot ++ folderOf path⟩ := by
  rw [Options.pageUrls, h]

/-- Pages share a directory just if they are one page, or one is the page `index` in the directory
of the other, which does not end in `index` itself. The directory is empty for the page `index`
alone and ends in a slash for any other. It is the path without its last segment if that is `index`,
and else the path with a slash behind it. On a site of directories, pages are fetched from one place
and linked to at one place just if they share a directory. -/
theorem folderOf_separates (p q : String) :
    (folderOf p = folderOf q ↔ p = q ∨ IsIndexOf p q ∨ IsIndexOf q p) ∧
    (folderOf p = "" ↔ p = "index") ∧
    (folderOf p = "" ∨ ∃ front, folderOf p = front ++ "/") ∧
    (if EndsInIndex p then
      p = folderOf p ++ "index" ∧ segments (folderOf p) = (segments p).dropLast ++ [[]]
    else folderOf p = p ++ "/") ∧
    ∀ o : Options, o.builder = .dirhtml →
      ((o.pageUrls p).request = (o.pageUrls q).request ↔ folderOf p = folderOf q) ∧
      ((o.pageUrls p).link = (o.pageUrls q).link ↔ folderOf p = folderOf q) := by
  refine ⟨folderOf_eq_folderOf_iff p q, folderOf_eq_empty_iff, folderOf_closed p, ?_, fun o ho ↦ ?_⟩
  · obtain ⟨hindex, hpath⟩ | ⟨hindex, hfolder⟩ := folderOf_cases p
    · rw [if_pos hindex]
      exact ⟨hpath, segments_folderOf hindex⟩
    · rwa [if_neg hindex]
  · rw [pageUrls_of_dirhtml ho, pageUrls_of_dirhtml ho]
    exact ⟨String.append_right_inj o.urlRoot, String.append_right_inj o.urlRoot⟩

/-- A page shares its directory with the `index` page in it if its name only ends in `index`, and
not if that is its name. -/
theorem folderOf_separates_nested :
    let o : Options := { Options.initial with builder := .dirhtml, urlRoot := "../" }
    (o.pageUrls "reindex/index").link = (o.pageUrls "reindex").link ∧
      (o.pageUrls "index/index").link ≠ (o.pageUrls "index").link := by
  intro o
  obtain ⟨hsame, -, -, -, hlinks⟩ := folderOf_separates "reindex/index" "reindex"
  obtain ⟨hapart, -, -, -, hlinks'⟩ := folderOf_separates "index/index" "index"
  refine ⟨(hlinks o rfl).2.mpr (hsame.mpr (.inr (.inl ⟨rfl, by decide⟩))), fun hlink ↦ ?_⟩
  obtain heq | ⟨-, hindex⟩ | ⟨heq, -⟩ := hapart.mp ((hlinks' o rfl).2.mp hlink)
  · exact absurd heq (by decide)
  · exact hindex (by decide)
  · exact absurd heq (by decide)

end SiteSearch.Site
