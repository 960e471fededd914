import SiteSearch.Proofs.Url.Base
import SiteSearch.Settings

/-!
# The base of the site

The base of a site belongs to the web, and its path ends in a slash (`IsBase`). An address that is
accepted gives such a base: its URL, with a slash behind the path where there is none
(`isBase_closed`). `readBase` is what an address gives; setting the base assigns that, or fails and
leaves all but the base alone (`setBase_of_ok`, `setBase_of_error`).
-/

set_option autoImplicit false
set_option relaxedAutoImplicit false

namespace SiteSearch.Settings

/-- What the base of a site has to be. -/
structure IsBase (u : Url) : Prop where
  web : u.isWeb = true
  closed : u.path.IsClosed

/-- A URL with a slash at the end of its path. -/
def closed (u : Url) : Url :=
  { u with path := closedPath u.path }

/-- The base that an address gives. -/
def readBase (address : String) : Except Failure Url :=
  match Url.parse address with
  | .error fault => .error (.url fault)
  | .ok u => if u.isWeb then .ok (closed u) else .error (.settings (.scheme u.scheme))

/-! ### Closed paths -/

theorem isClosed_closedPath (l : List String) : (closedPath (.segments l)).IsClosed := by
  rw [closedPath]
  split
  · next hlast =>
    obtain ⟨front, rfl⟩ := List.getLast?_eq_some_iff.mp hlast
    exact ⟨front, rfl⟩
  · exact ⟨l, rfl⟩

theorem closedPath_of_isClosed {p : Url.Path} (h : p.IsClosed) : closedPath p = p := by
  obtain ⟨l, rfl⟩ := h
  rw [closedPath, if_pos List.getLast?_concat]

/-- One slash at most is put behind a path. -/
theorem write_closedPath (p : Url.Path) :
    (closedPath p).write = p.write ∨ (closedPath p).write = p.write ++ "/" := by
  cases p with
  | rigid s => exact .inl rfl
  | segments l =>
    rw [closedPath]
    split
    · exact .inl rfl
    · exact .inr (Url.write_append l [""])

theorem isBase_closed {address : String} {u : Url} (h : Url.parse address = .ok u)
    (hweb : u.isWeb = true) : IsBase (closed u) := by
  obtain ⟨l, hl⟩ := Url.exists_segments_parse h (Url.isSpecial_of_isWeb hweb)
  exact ⟨hweb, by rw [closed, hl]; exact isClosed_closedPath l⟩

theorem isBase_initial : IsBase initial.base :=
  ⟨by decide, [], rfl⟩

/-! ### Setting the base -/

variable (s : Settings)

theorem normalize_of_web (h : s.base.isWeb = true) :
    s.normalize = ({ s with base := closed s.base }, .ok ()) :=
  if_pos (by simpa [Url.isWeb] using h)

theorem normalize_of_not_web (h : s.base.isWeb = false) :
    s.normalize = (s, .error (.settings (.scheme s.base.scheme))) :=
  if_neg (by simpa [Url.isWeb] using h)

theorem normalize_of_isBase (h : IsBase s.base) : s.normalize = (s, .ok ()) := by
  rw [normalize_of_web s h.web, closed, closedPath_of_isClosed h.closed]

theorem readBase_eq_ok_iff {address : String} {base : Url} :
    readBase address = .ok base ↔
      ∃ u, Url.parse address = .ok u ∧ u.isWeb = true ∧ base = closed u := by
  unfold readBase
  cases Url.parse address with
  | error fault => simp
  | ok u =>
    cases hweb : u.isWeb with
    | true =>
      simp only [if_true, Except.ok.injEq, exists_eq_left', hweb, true_and]
      exact eq_comm
    | false => simp [hweb]

variable {s} {address : String}

theorem setBase_of_ok {base : Url} (h : readBase address = .ok base) :
    s.setBase address = ({ s with base }, .ok ()) := by
  obtain ⟨u, hu, hweb, rfl⟩ := readBase_eq_ok_iff.mp h
  unfold setBase
  rw [hu]
  exact normalize_of_web { s with base := u } hweb

/-- A text that is no URL changes nothing. -/
theorem setBase_of_fault {fault : Url.Fault} (h : Url.parse address = .error fault) :
    s.setBase address = (s, .error (.url fault)) := by
  unfold setBase
  rw [h]

/-- An address that is not accepted changes at most the base. -/
theorem setBase_of_error {failure : Failure} (h : readBase address = .error failure) :
    ∃ base, s.setBase address = ({ s with base }, .error failure) := by
  unfold readBase at h
  cases hparse : Url.parse address with
  | error fault =>
    rw [hparse] at h
    obtain rfl := Except.error.inj h
    exact ⟨s.base, setBase_of_fault hparse⟩
  | ok u =>
    rw [hparse] at h
    cases hweb : u.isWeb with
    | true => simp [hweb] at h
    | false =>
      simp only [hweb, Bool.false_eq_true, if_false] at h
      obtain rfl := Except.error.inj h
      refine ⟨u, ?_⟩
      unfold setBase
      rw [hparse]
      exact normalize_of_not_web { s with base := u } hweb

end SiteSearch.Settings
