import SiteSearch.Proofs.Results.Sequence
import SiteSearch.Proofs.Settings.Base
import SiteSearch.Proofs.Site.Folders
import SiteSearch.Proofs.Url.Steps
import SiteSearch.Site.Index

/-!
# The directory of the pages

The script of the index is looked up in the directory of the site, `Settings.pagesRoot`, while the
page of a result is looked up from the base, with the path of that directory written in front. It is
one directory all the same: from the base, a page is found where the directory alone finds it
(`pages_beside_index`).
-/

set_option autoImplicit false
set_option relaxedAutoImplicit false

namespace SiteSearch

open Url

/-- What a page is called within the directory of the site. -/
def Site.Options.pageName (o : Site.Options) (path : String) : String :=
  match o.builder with
  | .html => path ++ o.fileSuffix
  | .dirhtml => Site.folderOf path

namespace Site

variable {o : Options} {path : String}

/-! ### Names of pages -/

theorem request_pageUrls (o : Options) (path : String) :
    (o.pageUrls path).request = o.urlRoot ++ o.pageName path := by
  rw [Options.pageUrls, Options.pageName]
  cases o.builder with
  | html => exact String.append_assoc ..
  | dirhtml => rfl

/-- The directory of a page is what its path starts with, as far as the slash behind it. -/
theorem prefix_folderOf (path : String) : (folderOf path).toList <+: path.toList ++ ['/'] := by
  obtain ⟨-, hpath⟩ | ⟨-, hfolder⟩ := folderOf_cases path
  · have hfront : (folderOf path).toList <+: path.toList :=
      ⟨"index".toList, by rw [← String.toList_append, ← hpath]⟩
    exact hfront.trans (List.prefix_append _ _)
  · rw [hfolder, String.toList_append]
    exact List.prefix_rfl

theorem plain_pageName (hpath : IsPlainPath path.toList)
    (hsuffix : ∀ c ∈ o.fileSuffix.toList, IsPathPlain c) :
    IsPlainText (o.pageName path).toList := by
  rw [Options.pageName]
  intro c hc
  cases hbuilder : o.builder with
  | html =>
    rw [hbuilder, String.toList_append] at hc
    exact (List.mem_append.mp hc).elim (hpath.plain c) fun hc ↦ .inl (hsuffix c hc)
  | dirhtml =>
    rw [hbuilder] at hc
    obtain hc | hc := List.mem_append.mp ((prefix_folderOf path).subset hc)
    · exact hpath.plain c hc
    · exact .inr (List.mem_singleton.mp hc)

theorem pageName_ne_slash (hpath : IsPlainPath path.toList) (rest : List Char) :
    (o.pageName path).toList ≠ '/' :: rest := by
  obtain ⟨c, cs, hcs, hc⟩ := hpath.front
  have hprefix : (o.pageName path).toList <+: c :: cs ++ o.fileSuffix.toList ∨
      (o.pageName path).toList <+: c :: cs ++ ['/'] := by
    rw [← hcs, Options.pageName]
    cases o.builder with
    | html => exact .inl (String.toList_append ▸ List.prefix_rfl)
    | dirhtml => exact .inr (prefix_folderOf path)
  intro hname
  rw [hname, List.cons_append, List.cons_append, List.cons_prefix_cons, List.cons_prefix_cons]
    at hprefix
  refine hc.ne (d := '/') (by decide) ?_
  exact hprefix.elim (fun h ↦ h.1.symm) fun h ↦ h.1.symm

end Site

/-! ### The directory -/

/-- The directory of the site is a URL whose path ends in a slash. From the base, a page is looked
up at the very URL that its name has in this directory, and so would the index be. -/
theorem pages_beside_index (s : Settings) (hbase : Settings.IsBase s.base)
    (hroot : IsFolderPath s.options.urlRoot.toList)
    (hsuffix : ∀ c ∈ s.options.fileSuffix.toList, IsPathPlain c)
    (summarize : String → Option String) :
    ∃ root, s.pagesRoot = .ok root ∧ root.path.IsClosed ∧
      (∃ script, root.join Site.Index.scriptName = .ok script ∧
        s.base.join (s.options.urlRoot ++ Site.Index.scriptName) = .ok script) ∧
      ∀ path, IsPlainPath path.toList →
        ∃ url, s.base.join (s.options.pageUrls path).request = .ok url ∧
          root.join (s.options.pageName path) = .ok url ∧
          ∀ net, ((Results.Sequencer.fetchSummary ⟨s.base, s.options, summarize⟩
            (s.options.pageUrls path).request).run net).requests =
              if url.scheme = "http" then [url] else [] := by
  obtain ⟨root, hjoin, hclosed, hwithin⟩ := join_join hbase.web hbase.closed hroot
  rw [String.ofList_toList] at hjoin
  have hpagesRoot : s.pagesRoot = .ok root := by
    rw [Settings.pagesRoot, hjoin]
    rfl
  have hname {name : String} (hplain : IsPlainText name.toList)
      (hfront : ∀ rest, name.toList ≠ '/' :: rest) :
      ∃ url, root.join name = .ok url ∧ s.base.join (s.options.urlRoot ++ name) = .ok url := by
    have htext := hwithin name.toList hplain hfront
    rwa [← String.toList_append, String.ofList_toList, String.ofList_toList] at htext
  refine ⟨root, hpagesRoot, hclosed, hname ?_ ?_, fun path hpath ↦ ?_⟩
  · exact fun c hc ↦ .inl (List.all_iff_forall_prop.mp (by decide) c hc)
  · exact fun rest ↦ by simp [Site.Index.scriptName]
  · obtain ⟨url, hurl, hrequest⟩ := hname (Site.plain_pageName hpath hsuffix)
      (Site.pageName_ne_slash hpath)
    rw [← Site.request_pageUrls] at hrequest
    refine ⟨url, hrequest, hurl, fun net ↦ ?_⟩
    rw [Results.Sequencer.run_fetchSummary, hrequest, Web.address?_ok_toList]

/-- Climbing out of the directory of the site and back into it. -/
theorem pages_beside_index_above :
    let s : Settings := { Settings.initial with
      options := { Settings.initial.options with urlRoot := "../docs/./" } }
    ∃ root, s.pagesRoot = .ok root ∧
      ∃ url, s.base.join (s.options.pageUrls "../api/index").request = .ok url ∧
        root.join "../api/index.html" = .ok url := by
  intro s
  have hfolder : IsFolderPath "../docs/./".toList :=
    ⟨List.all_iff_forall_prop.mp (by decide), .inr ⟨"../docs/.".toList, by decide⟩,
      fun rest ↦ by simp⟩
  obtain ⟨root, hroot, -, -, hpages⟩ := pages_beside_index s Settings.isBase_initial hfolder
    (List.all_iff_forall_prop.mp (by decide)) fun _ ↦ none
  obtain ⟨url, hrequest, hurl, -⟩ := hpages "../api/index"
    ⟨⟨'.', _, rfl, by decide⟩, List.all_iff_forall_prop.mp (by decide)⟩
  exact ⟨root, hroot, url, hrequest, hurl⟩

end SiteSearch
