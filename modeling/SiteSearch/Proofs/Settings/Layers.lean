import SiteSearch.Proofs.Settings.Changes
import SiteSearch.Proofs.Settings.Document
import SiteSearch.Proofs.Text.Decoding

/-!
# The layers of the settings

Each field of the settings has a variable and a place in a document (`Field`). The variable decides
if it is set, else the document if it has a value there, else the default (`Field.Has`). Loading
succeeds when every value that is there can be read, those that a variable covers included
(`Field.Accepts`), and then every field has what its layers give it (`load_eq_ok_iff`). So what is
set for one field does not touch the others (`load_layers`).
-/

set_option autoImplicit false
set_option relaxedAutoImplicit false

namespace SiteSearch.Settings

/-! ### Fields -/

/-- A field of the settings, with what gives it a value. -/
structure Field (α : Type) where
  get : Settings → α
  variableName : String
  /-- What the texts of the variable stand for. -/
  ofText : String → α → Prop
  /-- What a document holds for the field. -/
  value? : Toml.Table → Option Toml.Value
  /-- What the values of a document stand for. -/
  ofValue : Toml.Value → α → Prop

/-- A field for a text, which is taken as it is. -/
def textField (get : Settings → String) (variableName : String)
    (value? : Toml.Table → Option Toml.Value) : Field String where
  get
  variableName
  ofText v s := s = v
  value?
  ofValue v s := v = .text s

def baseField : Field Url where
  get := base
  variableName := "DOCSEARCH_API_BASE"
  ofText v base := IsAddress base v
  value? t := t.get? "api_base"
  ofValue v base := ∃ address, v = .text address ∧ IsAddress base address

def builderField : Field Site.Builder where
  get s := s.options.builder
  variableName := "DOCSEARCH_BUILDER"
  ofText v b := ∃ name ∈ b.names, IsWord name v
  value? t := option? t 0 "builder"
  ofValue v b := NamesBuilder b v

def summaryField : Field Bool where
  get s := s.options.showSummary
  variableName := "DOCSEARCH_SHOW_SUMMARY"
  ofText v b := ∃ word ∈ flagWords b, IsWord word v
  value? t := option? t 4 "show_summary"
  ofValue v b := v = .flag b

def delayField : Field UInt64 where
  get := stepDelay
  variableName := "DOCSEARCH_STEP_DELAY_MS"
  ofText v n := IsNumeral n.toNat v
  value? t := t.get? "step_delay_ms"
  ofValue v n := v = .integer n.toNat

/-- The fields of the settings. -/
def fields : List (Σ α : Type, Field α) := [
  ⟨_, baseField⟩,
  ⟨_, textField docsBase "DOCSEARCH_DOCS_BASE_URL" (·.get? "docs_base_url")⟩,
  ⟨_, builderField⟩,
  ⟨_, textField (·.options.urlRoot) "DOCSEARCH_URL_ROOT" (option? · 1 "url_root")⟩,
  ⟨_, textField (·.options.fileSuffix) "DOCSEARCH_FILE_SUFFIX" (option? · 2 "file_suffix")⟩,
  ⟨_, textField (·.options.linkSuffix) "DOCSEARCH_LINK_SUFFIX" (option? · 3 "link_suffix")⟩,
  ⟨_, summaryField⟩,
  ⟨_, delayField⟩]

namespace Field

variable {α : Type} (f : Field α)

/-- What is given for a field can be read, in the variable and in the document. -/
def Accepts (t : Toml.Table) (vars : Variables) : Prop :=
  (∀ v, vars f.variableName = some v → ∃ a, f.ofText v a) ∧
    ∀ v, f.value? t = some v → ∃ a, f.ofValue v a

/-- What the layers give a field: the variable before the document, and that before the default. -/
def Has (t : Toml.Table) (vars : Variables) (a : α) : Prop :=
  match vars f.variableName, f.value? t with
  | some v, _ => f.ofText v a
  | none, some v => f.ofValue v a
  | none, none => a = f.get initial

/-- Two functions read what a field may be given. -/
structure Reads (readText : String → Except Failure α) (readValue : Toml.Value → Option α) :
    Prop where
  text : ∀ {v a}, readText v = .ok a ↔ f.ofText v a
  value : ∀ {v a}, readValue v = some a ↔ f.ofValue v a

variable {f} {readText : String → Except Failure α} {readValue : Toml.Value → Option α}
  {t t' : Toml.Table} {vars vars' : Variables} {a a' : α}

/-- The document is read first, and the variable takes the place of what comes of it. -/
theorem Reads.layers (h : f.Reads readText readValue) :
    (∃ old, orDefault readValue (f.get initial) (f.value? t) = some old ∧
      given readText old (vars f.variableName) = .ok a) ↔ f.Accepts t vars ∧ f.Has t vars a := by
  rw [Accepts, Has]
  cases vars f.variableName with
  | none =>
    cases f.value? t with
    | none =>
      simp only [orDefault, given, Option.some.injEq, Except.ok.injEq, exists_eq_left',
        reduceCtorEq, false_implies, implies_true, true_and]
      exact eq_comm
    | some v =>
      simp only [orDefault, given, h.value, Option.some.injEq, Except.ok.injEq, exists_eq_right,
        reduceCtorEq, false_implies, implies_true, forall_eq', true_and]
      exact ⟨fun ha ↦ ⟨⟨a, ha⟩, ha⟩, And.right⟩
  | some v =>
    have hvalue : (∃ old, orDefault readValue (f.get initial) (f.value? t) = some old) ↔
        ∀ w, f.value? t = some w → ∃ a, f.ofValue w a := by
      cases f.value? t <;> simp [orDefault, h.value]
    simp only [given, h.text, exists_and_right, hvalue, Option.some.injEq, forall_eq']
    exact ⟨fun hv ↦ ⟨⟨⟨a, hv.2⟩, hv.1⟩, hv.2⟩, fun hv ↦ ⟨hv.1.2, hv.2⟩⟩

/-- What is accepted gives the field a value. -/
theorem Accepts.exists_has (h : f.Accepts t vars) : ∃ a, f.Has t vars a := by
  simp only [Has]
  split
  · next v hname => exact h.1 v hname
  · next v _ hvalue => exact h.2 v hvalue
  · exact ⟨_, rfl⟩

/-- A field has one value at most, and that comes from its own variable and its own place in the
document. -/
theorem Reads.has_unique (h : f.Reads readText readValue)
    (hname : vars f.variableName = vars' f.variableName) (hvalue : f.value? t = f.value? t')
    (ha : f.Has t vars a) (ha' : f.Has t' vars' a') : a = a' := by
  rw [Has, hname, hvalue] at ha
  rw [Has] at ha'
  cases hv : vars' f.variableName with
  | some v =>
    simp only [hv] at ha ha'
    exact Except.ok.inj ((h.text.mpr ha).symm.trans (h.text.mpr ha'))
  | none =>
    cases hw : f.value? t' with
    | some w =>
      simp only [hv, hw] at ha ha'
      exact Option.some.inj ((h.value.mpr ha).symm.trans (h.value.mpr ha'))
    | none =>
      simp only [hv, hw] at ha ha'
      exact ha.trans ha'.symm

end Field

/-! ### The readers of the fields -/

theorem reads_textField {get : Settings → String} {variableName : String}
    {value? : Toml.Table → Option Toml.Value} :
    (textField get variableName value?).Reads .ok textOf? where
  text := by simp [textField, eq_comm]
  value := textOf?_eq_some_iff

theorem reads_baseField : baseField.Reads readBase baseOf? where
  text := readBase_eq_ok_iff
  value := baseOf?_eq_some_iff

theorem reads_builderField : builderField.Reads readBuilder builderOf? where
  text := readBuilder_eq_ok_iff
  value := builderOf?_eq_some_iff

theorem reads_summaryField : summaryField.Reads readSummary flagOf? where
  text {v b} := by
    refine Iff.trans ?_ readFlag?_eq_some_iff
    rw [readSummary]
    cases readFlag? v <;> simp
  value := flagOf?_eq_some_iff

theorem reads_delayField : delayField.Reads readDelay countOf? where
  text {v n} := by
    refine Iff.trans ?_ readCount?_eq_some_iff
    rw [readDelay]
    cases readCount? v <;> simp
  value := countOf?_eq_some_iff

theorem exists_reads {f : Σ α : Type, Field α} (h : f ∈ fields) :
    ∃ readText readValue, f.2.Reads readText readValue := by
  simp only [fields, List.mem_cons, List.not_mem_nil, or_false] at h
  obtain rfl | rfl | rfl | rfl | rfl | rfl | rfl | rfl := h
  · exact ⟨_, _, reads_baseField⟩
  · exact ⟨_, _, reads_textField⟩
  · exact ⟨_, _, reads_builderField⟩
  · exact ⟨_, _, reads_textField⟩
  · exact ⟨_, _, reads_textField⟩
  · exact ⟨_, _, reads_textField⟩
  · exact ⟨_, _, reads_summaryField⟩
  · exact ⟨_, _, reads_delayField⟩

/-! ### Loading -/

variable {file : Option (Option (List UInt8))} {vars : Variables} {s : Settings}

theorem isBase_overlaid {s₀ : Settings} (hfile : file.elim (.ok initial) ofFile = .ok s₀)
    (h : s₀.overlaid vars = .ok s) : IsBase s.base := by
  have hstart : start (fileText file) = .ok s₀ := by
    cases file with
    | none => exact hfile
    | some bytes => exact start_of_ofFile hfile
  have hchange : outcome (Change.apply s₀ (.environment vars)) = .ok s :=
    (outcome_applyVariables s₀ vars).trans h
  exact (carries_apply (carries_documentBase hstart) hchange).isBase

/-- What is loaded is what the file gives, with the variables laid over it. -/
theorem load_eq_ok_iff_overlaid :
    load file vars = .ok s ↔
      ∃ s₀, file.elim (.ok initial) ofFile = .ok s₀ ∧ s₀.overlaid vars = .ok s := by
  simp only [load_eq, bind_eq_ok_iff, outcome_applyVariables]
  refine exists_congr fun s₀ ↦ and_congr_right fun hfile ↦ ?_
  -- the last step finds a base that is closed already
  have hnormal {s₁ : Settings} (h : s₀.overlaid vars = .ok s₁) : outcome s₁.normalize = .ok s₁ := by
    rw [normalize_of_isBase s₁ (isBase_overlaid hfile h)]
    rfl
  constructor
  · rintro ⟨s₁, hvars, h⟩
    rw [hnormal hvars] at h
    exact Except.ok.inj h ▸ hvars
  · exact fun h ↦ ⟨s, h, hnormal h⟩

/-- Settings are loaded when all that is given for them can be read, and then they are what the
layers give, field by field. -/
theorem load_eq_ok_iff :
    load file vars = .ok s ↔ ∃ t, document? file = some t ∧ OptionsHold t ∧
      ∀ f ∈ fields, f.2.Accepts t vars ∧ f.2.Has t vars (f.2.get s) := by
  simp only [load_eq_ok_iff_overlaid, fromFile_eq_ok_iff, fields, List.forall_mem_cons,
    List.not_mem_nil, false_implies, implies_true, and_true, ← reads_baseField.layers,
    ← reads_textField.layers, ← reads_builderField.layers, ← reads_summaryField.layers,
    ← reads_delayField.layers]
  constructor
  · rintro ⟨s₀, ⟨t, ht, hgives⟩, hvars⟩
    obtain ⟨hbuilder, hroot, hfile, hlink, hsummary⟩ := optionsBy?_eq_some_iff.mp hgives.options
    rw [overlaid_eq_ok_iff] at hvars
    obtain ⟨vbase, vdocs, vbuilder, vroot, vfile, vlink, vsummary, vdelay⟩ := hvars
    exact ⟨t, ht, hgives.hold, ⟨_, hgives.base, vbase⟩, ⟨_, hgives.docsBase, vdocs⟩,
      ⟨_, hbuilder, vbuilder⟩, ⟨_, hroot, vroot⟩, ⟨_, hfile, vfile⟩, ⟨_, hlink, vlink⟩,
      ⟨_, hsummary, vsummary⟩, ⟨_, hgives.stepDelay, vdelay⟩⟩
  · rintro ⟨t, ht, hold, ⟨base, hbase, vbase⟩, ⟨docsBase, hdocs, vdocs⟩,
      ⟨builder, hbuilder, vbuilder⟩, ⟨urlRoot, hroot, vroot⟩, ⟨fileSuffix, hfile, vfile⟩,
      ⟨linkSuffix, hlink, vlink⟩, ⟨showSummary, hsummary, vsummary⟩, ⟨stepDelay, hdelay, vdelay⟩⟩
    refine ⟨⟨base, docsBase, ⟨builder, urlRoot, fileSuffix, linkSuffix, showSummary⟩, stepDelay⟩,
      ⟨t, ht, hbase, hdocs, hold, ?_, hdelay⟩, ?_⟩
    · exact optionsBy?_eq_some_iff.mpr ⟨hbuilder, hroot, hfile, hlink, hsummary⟩
    · exact overlaid_eq_ok_iff.mpr ⟨vbase, vdocs, vbuilder, vroot, vfile, vlink, vsummary, vdelay⟩

theorem isBase_load (h : load file vars = .ok s) : IsBase s.base := by
  rw [load_eq_ok_iff_overlaid] at h
  obtain ⟨s₀, hfile, hvars⟩ := h
  exact isBase_overlaid hfile hvars

/-- Once all that is given can be read, there are settings in which each field has what its layers
give it. -/
theorem exists_settings {t : Toml.Table} (h : ∀ f ∈ fields, f.2.Accepts t vars) :
    ∃ s, ∀ f ∈ fields, f.2.Has t vars (f.2.get s) := by
  simp only [fields, List.forall_mem_cons, List.not_mem_nil, false_implies, implies_true,
    and_true] at h ⊢
  obtain ⟨hbase, hdocs, hbuilder, hroot, hfile, hlink, hsummary, hdelay⟩ := h
  obtain ⟨base, hbase⟩ := hbase.exists_has
  obtain ⟨docsBase, hdocs⟩ := hdocs.exists_has
  obtain ⟨builder, hbuilder⟩ := hbuilder.exists_has
  obtain ⟨urlRoot, hroot⟩ := hroot.exists_has
  obtain ⟨fileSuffix, hfile⟩ := hfile.exists_has
  obtain ⟨linkSuffix, hlink⟩ := hlink.exists_has
  obtain ⟨showSummary, hsummary⟩ := hsummary.exists_has
  obtain ⟨stepDelay, hdelay⟩ := hdelay.exists_has
  exact ⟨⟨base, docsBase, ⟨builder, urlRoot, fileSuffix, linkSuffix, showSummary⟩, stepDelay⟩,
    hbase, hdocs, hbuilder, hroot, hfile, hlink, hsummary, hdelay⟩

theorem load_toUTF8 (text : String) (vars : Variables) :
    load (some (some text.toUTF8.toList)) vars = ofToml text >>= fun s ↦
      outcome (s.applyVariables vars) >>= fun s ↦ outcome s.normalize := by
  rw [load_eq, Option.elim_some, ofFile, Option.bind_some, Text.Utf8.decode?_toUTF8]
  simp only [String.ofList_toList]

theorem exists_ok_of_map_eq_some {α β : Type} {x : Except Failure α} {f : α → β} {b : β}
    (h : x.toOption.map f = some b) : ∃ a, x = .ok a ∧ f a = b := by
  cases x with
  | error failure => cases h
  | ok a => exact ⟨a, rfl, Option.some.inj h⟩

/-- Settings are loaded exactly when the file is a document, its options may hold some, and all that
the variables and the document give can be read. Then each field has what its layers give it, and
the base ends in a slash. Two loads agree in each field for which they are given the same, whatever
they are given for the others. -/
theorem load_layers (file : Option (Option (List UInt8))) (vars : Variables) :
    ((∃ s, load file vars = .ok s) ↔ ∃ t, document? file = some t ∧ OptionsHold t ∧
      ∀ f ∈ fields, f.2.Accepts t vars) ∧
    (∀ s, load file vars = .ok s →
      (∃ t, document? file = some t ∧ ∀ f ∈ fields, f.2.Has t vars (f.2.get s)) ∧
      ∃ front, s.base.path.write = front ++ "/") ∧
    ∀ s t file' vars' s' t', load file vars = .ok s → load file' vars' = .ok s' →
      document? file = some t → document? file' = some t' →
      ∀ f ∈ fields, vars f.2.variableName = vars' f.2.variableName →
        f.2.value? t = f.2.value? t' → f.2.get s = f.2.get s' := by
  refine ⟨⟨?_, ?_⟩, fun s h ↦ ⟨?_, (isBase_load h).closed.write⟩, ?_⟩
  · rintro ⟨s, h⟩
    rw [load_eq_ok_iff] at h
    obtain ⟨t, ht, hold, hfields⟩ := h
    exact ⟨t, ht, hold, fun f hf ↦ (hfields f hf).1⟩
  · rintro ⟨t, ht, hold, haccepts⟩
    obtain ⟨s, hs⟩ := exists_settings haccepts
    refine ⟨s, ?_⟩
    rw [load_eq_ok_iff]
    exact ⟨t, ht, hold, fun f hf ↦ ⟨haccepts f hf, hs f hf⟩⟩
  · rw [load_eq_ok_iff] at h
    obtain ⟨t, ht, -, hfields⟩ := h
    exact ⟨t, ht, fun f hf ↦ (hfields f hf).2⟩
  · intro s t file' vars' s' t' h h' ht ht' f hf hname hvalue
    rw [load_eq_ok_iff] at h h'
    obtain ⟨u, hu, -, hfields⟩ := h
    obtain ⟨u', hu', -, hfields'⟩ := h'
    obtain rfl := Option.some.inj (ht.symm.trans hu)
    obtain rfl := Option.some.inj (ht'.symm.trans hu')
    obtain ⟨_, _, hreads⟩ := exists_reads hf
    exact hreads.has_unique hname hvalue (hfields f hf).2 (hfields' f hf).2

/-- Variables laid over a file, and the file alone. -/
theorem load_layers_over_file :
    let file := some (some ("api_base = \"http://[::1]/v2\"\nstep_delay_ms = 9\n[options]\n" ++
      "builder = \"dirhtml\"\nfile_suffix = \".txt\"\n").toUTF8.toList)
    let vars : Variables := fun name ↦
      if name = "DOCSEARCH_BUILDER" then some " Default\n"
      else if name = "DOCSEARCH_STEP_DELAY_MS" then some "+07" else none
    ∃ s alone, load file vars = .ok s ∧ load file (fun _ ↦ none) = .ok alone ∧
      (s.base.write, s.options, s.stepDelay) =
        ("http://[::1]/v2/", ⟨.html, "", ".txt", ".html", true⟩, 7) ∧
      (alone.options.builder, alone.stepDelay) = (.dirhtml, 9) ∧
      (∃ t, document? file = some t ∧ OptionsHold t ∧ (∀ f ∈ fields, f.2.Accepts t vars) ∧
        ∀ f ∈ fields, f.2.Has t vars (f.2.get s)) ∧
      (∃ front, s.base.path.write = front ++ "/") ∧
      ∀ f ∈ fields, vars f.2.variableName = none → f.2.get s = f.2.get alone := by
  intro file vars
  let base : Url :=
    ⟨"http", some ⟨"", none, .ipv6 [0, 0, 0, 0, 0, 0, 0, 1], none⟩, .segments ["v2", ""], none,
      none⟩
  have hdocument : ofToml ("api_base = \"http://[::1]/v2\"\nstep_delay_ms = 9\n[options]\n" ++
      "builder = \"dirhtml\"\nfile_suffix = \".txt\"\n") =
        .ok ⟨base, initial.docsBase, ⟨.dirhtml, "", ".txt", ".html", true⟩, 9⟩ := by
    decide +kernel
  have hrun : (load file vars).toOption.map (fun s ↦ (s.base.write, s.options, s.stepDelay)) =
      some ("http://[::1]/v2/", ⟨.html, "", ".txt", ".html", true⟩, 7) := by
    rw [load_toUTF8, hdocument]
    decide +kernel
  have halone : (load file fun _ ↦ none).toOption.map (fun s ↦ (s.options.builder, s.stepDelay)) =
      some (.dirhtml, 9) := by
    rw [load_toUTF8, hdocument]
    decide +kernel
  obtain ⟨s, h, hs⟩ := exists_ok_of_map_eq_some hrun
  obtain ⟨alone, h', hs'⟩ := exists_ok_of_map_eq_some halone
  obtain ⟨t, ht, hold, haccepts⟩ := (load_layers file vars).1.mp ⟨s, h⟩
  obtain ⟨⟨u, hu, hfields⟩, hslash⟩ := (load_layers file vars).2.1 s h
  obtain rfl := Option.some.inj (ht.symm.trans hu)
  refine ⟨s, alone, h, h', hs, hs', ⟨t, ht, hold, haccepts, hfields⟩, hslash, fun f hf hname ↦ ?_⟩
  exact (load_layers file vars).2.2 s t file (fun _ ↦ none) alone t h h' ht ht f hf hname rfl

/-- What a document holds for an option under its name. -/
def named? (t : Toml.Table) (name : String) : Option Toml.Value :=
  match t.get? "options" with
  | some (.table origin members) => Toml.Table.get? ⟨origin, members⟩ name
  | _ => none

/-- A list gives options without their names: here the builder is neither that of a variable nor
that of a key nor that by default. -/
theorem load_not_by_name :
    let file := some (some "options = [\"dirhtml\"]".toUTF8.toList)
    ∃ t s, document? file = some t ∧ load file (fun _ ↦ none) = .ok s ∧
      named? t "builder" = none ∧ s.options.builder ≠ initial.options.builder := by
  intro file
  obtain ⟨hdocument, hrun⟩ :
      (document? file).map (fun t ↦ (named? t "builder").isNone) = some true ∧
        (load file fun _ ↦ none).toOption.map (·.options.builder) = some .dirhtml := by
    decide +kernel
  obtain ⟨t, ht, hnone⟩ := Option.map_eq_some_iff.mp hdocument
  obtain ⟨s, hs, hbuilder⟩ := exists_ok_of_map_eq_some hrun
  refine ⟨t, s, ht, hs, Option.isNone_iff_eq_none.mp hnone, ?_⟩
  rw [hbuilder]
  decide

end SiteSearch.Settings
