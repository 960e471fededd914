import SiteSearch.Proofs.Settings.Variables
import SiteSearch.Proofs.Settings.Words

/-!
# What a document gives

Which values of a document each field of the settings accepts, and what they stand for. The options
stand in a value of their own, by their names in a table or by their places in a list (`partOf?`),
so a document gives each of them at most one value (`option?`), as it does the other fields. Then
the settings that a document gives are those that it gives field by field (`fromFile_eq_ok_iff`).
-/

set_option autoImplicit false
set_option relaxedAutoImplicit false

namespace SiteSearch.Settings

/-! ### Values -/

/-- An address of the web, and the base that it gives. -/
def IsAddress (base : Url) (address : String) : Prop :=
  ∃ u, Url.parse address = .ok u ∧ u.isWeb = true ∧ base = closed u

/-- A value names a builder: by a text, or by the only key of a table with nothing under it. -/
def NamesBuilder (b : Site.Builder) (v : Toml.Value) : Prop :=
  ∃ name ∈ b.names, v = .text name ∨
    ∃ origin nothing, v = .table origin [(name, nothing)] ∧
      (nothing = .array [] ∨ ∃ inner, nothing = .table inner [])

variable {v : Toml.Value}

theorem textOf?_eq_some_iff {s : String} : textOf? v = some s ↔ v = .text s := by
  cases v <;> simp [textOf?]

theorem flagOf?_eq_some_iff {b : Bool} : flagOf? v = some b ↔ v = .flag b := by
  cases v <;> simp [flagOf?]

theorem countOf?_eq_some_iff {n : UInt64} : countOf? v = some n ↔ v = .integer n.toNat := by
  cases v with
  | integer m =>
    rw [countOf?, Toml.Value.integer.injEq]
    split
    · next hm =>
      have hsize : m.toNat < UInt64.size := by omega
      rw [Option.some_inj, ← UInt64.toNat_inj, UInt64.toNat_ofNat_of_lt' hsize]
      omega
    · next hm =>
      refine iff_of_false (by simp) fun h ↦ hm ?_
      have hn : n.toNat < UInt64.size := n.toNat_lt
      omega
  | _ => simp [countOf?]

theorem urlOf?_eq_some_iff {u : Url} :
    urlOf? v = some u ↔ ∃ address, v = .text address ∧ Url.parse address = .ok u := by
  cases v with
  | text s =>
    simp only [urlOf?, Toml.Value.text.injEq, exists_eq_left']
    cases Url.parse s <;> simp [Except.toOption]
  | _ => simp [urlOf?]

theorem builderOf?_eq_some_iff {b : Site.Builder} : builderOf? v = some b ↔ NamesBuilder b v := by
  constructor
  · intro h
    unfold builderOf? at h
    split at h
    · next name => exact ⟨name, Site.Builder.ofName?_eq_some_iff.mp h, .inl rfl⟩
    · next origin name =>
      exact ⟨name, Site.Builder.ofName?_eq_some_iff.mp h, .inr ⟨origin, _, rfl, .inl rfl⟩⟩
    · next origin name inner =>
      exact ⟨name, Site.Builder.ofName?_eq_some_iff.mp h, .inr ⟨origin, _, rfl, .inr ⟨inner, rfl⟩⟩⟩
    · cases h
  · rintro ⟨name, hname, rfl | ⟨origin, _, rfl, rfl | ⟨inner, rfl⟩⟩⟩
    all_goals exact Site.Builder.ofName?_eq_some_iff.mpr hname

/-! ### Options -/

/-- What options may be: a table, a list, or a date or time, which holds none. -/
def holdsOptions : Toml.Value → Bool
  | .table _ _ | .array _ | .tables _ | .moment => true
  | _ => false

/-- What a value holds for an option: under its name in a table, or at its place in a list. -/
def partOf? : Toml.Value → Nat → String → Option Toml.Value
  | .table origin members, _, name => Toml.Table.get? ⟨origin, members⟩ name
  | .array items, i, _ => items[i]?
  | .tables items, i, _ => (items[i]?).map (.table .header)
  | _, _, _ => none

/-- What a document holds for an option. -/
def option? (t : Toml.Table) (i : Nat) (name : String) : Option Toml.Value :=
  (t.get? "options").bind (partOf? · i name)

/-- The options of a document, if there are any, are such as may hold some. -/
def OptionsHold (t : Toml.Table) : Prop :=
  ∀ v, t.get? "options" = some v → holdsOptions v

theorem optionsOf?_eq (v : Toml.Value) :
    optionsOf? v = if holdsOptions v then optionsBy? (partOf? v) else none := by
  cases v <;> rfl

theorem optionsBy?_eq_some_iff {value : Nat → String → Option Toml.Value} {o : Site.Options} :
    optionsBy? value = some o ↔
      orDefault builderOf? initial.options.builder (value 0 "builder") = some o.builder ∧
      orDefault textOf? initial.options.urlRoot (value 1 "url_root") = some o.urlRoot ∧
      orDefault textOf? initial.options.fileSuffix (value 2 "file_suffix") = some o.fileSuffix ∧
      orDefault textOf? initial.options.linkSuffix (value 3 "link_suffix") = some o.linkSuffix ∧
      orDefault flagOf? initial.options.showSummary (value 4 "show_summary") =
        some o.showSummary := by
  simp only [optionsBy?, Option.bind_eq_bind, Option.bind_eq_some_iff]
  constructor
  · rintro ⟨builder, hbuilder, urlRoot, hroot, fileSuffix, hfile, linkSuffix, hlink, showSummary,
      hsummary, h⟩
    obtain rfl := Option.some.inj h
    exact ⟨hbuilder, hroot, hfile, hlink, hsummary⟩
  · rintro ⟨hbuilder, hroot, hfile, hlink, hsummary⟩
    exact ⟨_, hbuilder, _, hroot, _, hfile, _, hlink, _, hsummary, rfl⟩

/-- A document gives its options one by one. -/
theorem orDefault_optionsOf?_eq_some_iff {t : Toml.Table} {o : Site.Options} :
    orDefault optionsOf? initial.options (t.get? "options") = some o ↔
      OptionsHold t ∧ optionsBy? (option? t) = some o := by
  cases hvalue : t.get? "options" with
  | none =>
    -- without options, each of them has its default
    have hnone : option? t = fun _ _ ↦ none := by
      funext i name
      rw [option?, hvalue, Option.bind_none]
    have hold : OptionsHold t := by
      intro v hv
      rw [hvalue] at hv
      cases hv
    rw [hnone, and_iff_right hold]
    rfl
  | some v =>
    have hpart : option? t = partOf? v := by
      funext i name
      rw [option?, hvalue, Option.bind_some]
    have hold : OptionsHold t ↔ holdsOptions v := by
      rw [OptionsHold, hvalue]
      simp only [Option.some.injEq, forall_eq']
    rw [hpart, hold, orDefault, optionsOf?_eq]
    simp only [Option.ite_none_right_eq_some]

/-! ### Documents -/

/-- The table of a file, if the file is read and is a document. Without a file it is empty. -/
def document? : Option (Option (List UInt8)) → Option Toml.Table
  | none => some ⟨.header, []⟩
  | some bytes => (bytes.bind Text.Utf8.decode?).bind fun text ↦ Toml.read? (.ofList text)

/-- The base that a value gives. -/
def baseOf? (v : Toml.Value) : Option Url :=
  (urlOf? v).bind fun u ↦ if u.isWeb then some (closed u) else none

theorem baseOf?_eq_some_iff {base : Url} :
    baseOf? v = some base ↔ ∃ address, v = .text address ∧ IsAddress base address := by
  simp only [baseOf?, Option.bind_eq_some_iff, urlOf?_eq_some_iff, Option.ite_none_right_eq_some,
    Option.some.injEq, IsAddress]
  constructor
  · rintro ⟨u, ⟨address, rfl, hparse⟩, hweb, rfl⟩
    exact ⟨address, rfl, u, hparse, hweb, rfl⟩
  · rintro ⟨address, rfl, u, hparse, hweb, rfl⟩
    exact ⟨u, ⟨address, rfl, hparse⟩, hweb, rfl⟩

/-- A table gives settings when it has values of the right kinds, and then field by field. -/
structure Gives (t : Toml.Table) (s : Settings) : Prop where
  base : orDefault baseOf? initial.base (t.get? "api_base") = some s.base
  docsBase : orDefault textOf? initial.docsBase (t.get? "docs_base_url") = some s.docsBase
  hold : OptionsHold t
  options : optionsBy? (option? t) = some s.options
  stepDelay : orDefault countOf? initial.stepDelay (t.get? "step_delay_ms") = some s.stepDelay

variable {s : Settings} {t : Toml.Table}

theorem ofTable?_eq_some_iff :
    ofTable? t = some s ↔
      orDefault urlOf? initial.base (t.get? "api_base") = some s.base ∧
      orDefault textOf? initial.docsBase (t.get? "docs_base_url") = some s.docsBase ∧
      orDefault optionsOf? initial.options (t.get? "options") = some s.options ∧
      orDefault countOf? initial.stepDelay (t.get? "step_delay_ms") = some s.stepDelay := by
  simp only [ofTable?, Option.bind_eq_bind, Option.bind_eq_some_iff]
  constructor
  · rintro ⟨base, hbase, docsBase, hdocs, options, hoptions, stepDelay, hdelay, h⟩
    obtain rfl := Option.some.inj h
    exact ⟨hbase, hdocs, hoptions, hdelay⟩
  · rintro ⟨hbase, hdocs, hoptions, hdelay⟩
    exact ⟨_, hbase, _, hdocs, _, hoptions, _, hdelay, rfl⟩

theorem outcome_normalize_eq_ok_iff {s₀ : Settings} :
    outcome s₀.normalize = .ok s ↔
      s₀.base.isWeb = true ∧ s = { s₀ with base := closed s₀.base } := by
  cases hweb : s₀.base.isWeb with
  | true =>
    rw [normalize_of_web s₀ hweb, and_iff_right rfl]
    constructor
    · intro h
      exact (Except.ok.inj h).symm
    · rintro rfl
      rfl
  | false =>
    rw [normalize_of_not_web s₀ hweb]
    exact iff_of_false (fun h ↦ by cases h) (fun h ↦ by cases h.1)

theorem orDefault_baseOf?_eq_some_iff {value : Option Toml.Value} {base : Url} :
    orDefault baseOf? initial.base value = some base ↔
      ∃ u, orDefault urlOf? initial.base value = some u ∧ u.isWeb = true ∧ base = closed u := by
  cases value with
  | none =>
    have hclosed : closed initial.base = initial.base := by decide
    simp only [orDefault, Option.some.injEq, exists_eq_left', isBase_initial.web, hclosed, true_and]
    exact eq_comm
  | some v =>
    simp only [orDefault, baseOf?, Option.bind_eq_some_iff, Option.ite_none_right_eq_some,
      Option.some.injEq, eq_comm (b := base)]

theorem gives_iff :
    Gives t s ↔ ∃ s₀, ofTable? t = some s₀ ∧ outcome s₀.normalize = .ok s := by
  simp only [ofTable?_eq_some_iff, outcome_normalize_eq_ok_iff, orDefault_optionsOf?_eq_some_iff]
  constructor
  · rintro ⟨hbase, hdocs, hold, hoptions, hdelay⟩
    obtain ⟨u, hu, hweb, hbase⟩ := orDefault_baseOf?_eq_some_iff.mp hbase
    exact ⟨{ s with base := u }, ⟨hu, hdocs, ⟨hold, hoptions⟩, hdelay⟩, hweb, by rw [← hbase]⟩
  · rintro ⟨s₀, ⟨hu, hdocs, ⟨hold, hoptions⟩, hdelay⟩, hweb, rfl⟩
    exact ⟨orDefault_baseOf?_eq_some_iff.mpr ⟨_, hu, hweb, rfl⟩, hdocs, hold, hoptions, hdelay⟩

theorem ofToml_eq_ok_iff {text : String} :
    ofToml text = .ok s ↔ ∃ t, Toml.read? text = some t ∧ Gives t s := by
  simp only [gives_iff]
  rw [ofToml]
  cases Toml.read? text with
  | none => simp
  | some t =>
    cases htable : ofTable? t with
    | none => simp [htable]
    | some s₀ =>
      simp only [Option.bind_some, htable, Option.some.injEq, exists_eq_left']
      obtain ⟨s₁, failure | done⟩ := s₀.normalize <;> rfl

/-- A file gives the settings that its table does, and so does a file that is not there. -/
theorem fromFile_eq_ok_iff {file : Option (Option (List UInt8))} :
    file.elim (.ok initial) ofFile = .ok s ↔ ∃ t, document? file = some t ∧ Gives t s := by
  cases file with
  | none =>
    have hempty : ofTable? ⟨.header, []⟩ = some initial := rfl
    have hnormal : outcome initial.normalize = .ok initial := by
      rw [normalize_of_isBase initial isBase_initial]
      rfl
    simp only [document?, Option.elim_none, Option.some.injEq, exists_eq_left', gives_iff, hempty,
      hnormal]
  | some bytes =>
    rw [Option.elim_some, ofFile, document?]
    cases bytes.bind Text.Utf8.decode? with
    | none => simp
    | some text => exact ofToml_eq_ok_iff

end SiteSearch.Settings
