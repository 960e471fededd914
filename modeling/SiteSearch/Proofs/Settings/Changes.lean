import SiteSearch.Command.Run
import SiteSearch.Proofs.Settings.Variables
import SiteSearch.Proofs.Web.Endpoint

/-!
# Changes of the settings

Settings start as those by default or those of a document, and are changed by an address for the
base or by variables (`Change`). Each change that is accepted reads the address that it has for the
base, if it has one (`given_address_of_apply`). So once all of them are accepted, the base is the
URL that was given last, with a slash behind its path, and each endpoint of the site is below it
(`accepted_base`). A change that is refused goes no further than the value it is refused for, and
the base stays one unless a URL is given that is not of the web (`refused_change`).
-/

set_option autoImplicit false
set_option relaxedAutoImplicit false

namespace SiteSearch.Settings

/-- A change of settings. -/
inductive Change where
  /-- An address for the base. -/
  | base (address : String)
  | environment (vars : Variables)

/-- The settings after a change, and whether it is accepted. -/
def Change.apply (s : Settings) : Change → Settings × Except Failure Unit
  | .base address => s.setBase address
  | .environment vars => s.applyVariables vars

/-- The address that a change has for the base. -/
def Change.address? : Change → Option String
  | .base address => some address
  | .environment vars => vars "DOCSEARCH_API_BASE"

/-- The settings after changes, each of which has to be accepted. -/
def acceptAll (s : Settings) : List Change → Except Failure Settings
  | [] => .ok s
  | change :: rest => outcome (change.apply s) >>= fun s ↦ s.acceptAll rest

/-- The settings after changes, of which some may be refused. -/
def changeAll (s : Settings) (changes : List Change) : Settings :=
  changes.foldl (fun s change ↦ (change.apply s).1) s

/-- The settings of a document, if there is one, or those by default. -/
def start : Option String → Except Failure Settings
  | none => .ok initial
  | some text => ofToml text

/-- The URL that a document gives for the base, or that by default. -/
def documentBase (document : Option String) : Url :=
  (((document.bind Toml.read?).bind (Toml.Table.get? · "api_base")).bind urlOf?).getD initial.base

/-- The URL that a change gives for the base. -/
def Change.url? (change : Change) : Option Url :=
  change.address?.bind fun address ↦ (Url.parse address).toOption

/-- The URL that changes give for the base last, or the one before them. -/
def latestBase (before : Url) (changes : List Change) : Url :=
  (changes.filterMap Change.url?).getLast?.getD before

/-- The text of a file, if one is named and can be read. -/
def fileText (file : Option (Option (List UInt8))) : Option String :=
  file.bind fun bytes ↦ (bytes.bind Text.Utf8.decode?).map .ofList

/-! ### The base that was given -/

/-- The base of the settings is a URL that was given, with a slash behind its path. -/
structure Carries (s : Settings) (u : Url) : Prop where
  web : u.isWeb = true
  base_eq : s.base = closed u
  isBase : IsBase s.base

theorem carries_of_parse {s : Settings} {address : String} {u : Url}
    (h : Url.parse address = .ok u) (hweb : u.isWeb = true) (hbase : s.base = closed u) :
    Carries s u :=
  ⟨hweb, hbase, hbase ▸ isBase_closed h hweb⟩

theorem carries_initial : Carries initial initial.base :=
  ⟨isBase_initial.web, rfl, isBase_initial⟩

variable {s s' : Settings} {u : Url}

theorem normalize_eq_ok (h : s.normalize = (s', .ok ())) :
    s.base.isWeb = true ∧ s'.base = closed s.base := by
  cases hweb : s.base.isWeb with
  | true =>
    rw [normalize_of_web s hweb] at h
    obtain rfl := congrArg Prod.fst h
    exact ⟨rfl, rfl⟩
  | false =>
    rw [normalize_of_not_web s hweb] at h
    cases congrArg Prod.snd h

theorem base_of_ofTable? {t : Toml.Table} (h : ofTable? t = some s) :
    orDefault urlOf? initial.base (t.get? "api_base") = some s.base := by
  simp only [ofTable?, Option.bind_eq_bind, Option.bind_eq_some_iff] at h
  obtain ⟨base, hbase, docsBase, -, options, -, stepDelay, -, h⟩ := h
  obtain rfl := Option.some.inj h
  exact hbase

theorem exists_table_of_ofToml {text : String} (h : ofToml text = .ok s) :
    ∃ t s₀, Toml.read? text = some t ∧ ofTable? t = some s₀ ∧ s₀.normalize = (s, .ok ()) := by
  rw [ofToml] at h
  cases htable : (Toml.read? text).bind ofTable? with
  | none =>
    rw [htable] at h
    cases h
  | some s₀ =>
    obtain ⟨t, hread, ht⟩ := Option.bind_eq_some_iff.mp htable
    simp only [htable] at h
    split at h
    · next hnormal =>
      obtain rfl := Except.ok.inj h
      exact ⟨t, s₀, hread, ht, hnormal⟩
    · cases h

theorem exists_address_of_urlOf? {v : Toml.Value} (h : urlOf? v = some u) :
    ∃ address, Url.parse address = .ok u := by
  unfold urlOf? at h
  split at h
  · next address =>
    cases hparse : Url.parse address with
    | error fault =>
      rw [hparse] at h
      cases h
    | ok found =>
      rw [hparse] at h
      obtain rfl := Option.some.inj h
      exact ⟨address, hparse⟩
  · cases h

/-- The settings of a document have the base that it gives. -/
theorem carries_documentBase {document : Option String} (h : start document = .ok s) :
    Carries s (documentBase document) := by
  cases document with
  | none =>
    obtain rfl := Except.ok.inj h
    exact carries_initial
  | some text =>
    obtain ⟨t, s₀, hread, ht, hnormal⟩ := exists_table_of_ofToml h
    obtain ⟨hweb, hbase⟩ := normalize_eq_ok hnormal
    have hgiven := base_of_ofTable? ht
    rw [documentBase, Option.bind_some, hread, Option.bind_some]
    cases hvalue : t.get? "api_base" with
    | none =>
      rw [hvalue, orDefault] at hgiven
      rw [← Option.some.inj hgiven] at hbase
      exact ⟨isBase_initial.web, hbase, hbase ▸ isBase_initial⟩
    | some value =>
      rw [hvalue, orDefault] at hgiven
      obtain ⟨address, hparse⟩ := exists_address_of_urlOf? hgiven
      rw [Option.bind_some, hgiven]
      exact carries_of_parse hparse hweb hbase

/-- A change that is accepted gives the base what its address does. -/
theorem given_address_of_apply {change : Change} (h : outcome (change.apply s) = .ok s') :
    given readBase s.base change.address? = .ok s'.base := by
  cases change with
  | base address =>
    change outcome (s.setBase address) = .ok s' at h
    change readBase address = .ok s'.base
    cases hread : readBase address with
    | ok base =>
      rw [setBase_of_ok hread] at h
      obtain rfl := Except.ok.inj h
      rfl
    | error failure =>
      obtain ⟨base, hfailed⟩ := setBase_of_error (s := s) hread
      rw [hfailed] at h
      cases h
  | environment vars =>
    change outcome (s.applyVariables vars) = .ok s' at h
    rw [outcome_applyVariables] at h
    exact (overlaid_eq_ok_iff.mp h).1

theorem carries_apply {change : Change} (hs : Carries s u)
    (h : outcome (change.apply s) = .ok s') : Carries s' (change.url?.getD u) := by
  have hgiven := given_address_of_apply h
  rw [Change.url?]
  cases haddress : change.address? with
  | none =>
    rw [haddress, given] at hgiven
    have hbase := Except.ok.inj hgiven
    rw [Option.bind_none, Option.getD_none]
    exact ⟨hs.web, hbase ▸ hs.base_eq, hbase ▸ hs.isBase⟩
  | some address =>
    rw [haddress, given] at hgiven
    obtain ⟨v, hparse, hweb, hbase⟩ := readBase_eq_ok_iff.mp hgiven
    rw [Option.bind_some, hparse]
    exact carries_of_parse hparse hweb hbase

theorem latestBase_cons (before : Url) (change : Change) (rest : List Change) :
    latestBase before (change :: rest) = latestBase (change.url?.getD before) rest := by
  rw [latestBase, latestBase, List.filterMap_cons]
  cases change.url? with
  | none => rfl
  | some v =>
    simp only [List.getLast?_cons, Option.getD_some]

/-- After changes that are all accepted, the base is the one that was given last. -/
theorem carries_acceptAll {changes : List Change} (hs : Carries s u)
    (h : s.acceptAll changes = .ok s') : Carries s' (latestBase u changes) := by
  induction changes generalizing s u with
  | nil =>
    obtain rfl := Except.ok.inj h
    exact hs
  | cons change rest ih =>
    rw [acceptAll] at h
    obtain ⟨s₁, hchange, hrest⟩ := bind_eq_ok_iff.mp h
    rw [latestBase_cons]
    exact ih (carries_apply hs hchange) hrest

theorem carries_latestBase {document : Option String} {changes : List Change}
    (h : start document >>= (acceptAll · changes) = .ok s) :
    Carries s (latestBase (documentBase document) changes) := by
  obtain ⟨s₀, hdocument, hchanges⟩ := bind_eq_ok_iff.mp h
  exact carries_acceptAll (carries_documentBase hdocument) hchanges

theorem start_of_ofFile {bytes : Option (List UInt8)} (h : ofFile bytes = .ok s) :
    start (fileText (some bytes)) = .ok s := by
  rw [ofFile] at h
  rw [fileText, Option.bind_some]
  cases hdecoded : bytes.bind Text.Utf8.decode? with
  | none =>
    rw [hdecoded] at h
    cases h
  | some text =>
    rw [hdecoded] at h
    exact h

/-- Settings are loaded in three steps, each of which has to be accepted. -/
theorem load_eq (file : Option (Option (List UInt8))) (vars : Variables) :
    load file vars = file.elim (.ok initial) ofFile >>= fun s ↦
      outcome (s.applyVariables vars) >>= fun s ↦ outcome s.normalize := by
  -- the steps behind the first are the same whether there is a file or not
  rcases file with _ | bytes
  all_goals
    refine bind_congr fun s ↦ ?_
    simp only
    obtain ⟨s₁, failure | done⟩ := s.applyVariables vars
    · rfl
    · change _ = outcome s₁.normalize
      simp only
      obtain ⟨s₂, failure | done⟩ := s₁.normalize <;> rfl

/-- Settings that are loaded are those of the file, changed by the variables. -/
theorem acceptAll_of_load {file : Option (Option (List UInt8))} {vars : Variables}
    (h : load file vars = .ok s) :
    start (fileText file) >>= (acceptAll · [.environment vars]) = .ok s := by
  rw [load_eq] at h
  obtain ⟨s₀, hfile, h⟩ := bind_eq_ok_iff.mp h
  obtain ⟨s₁, hvars, h⟩ := bind_eq_ok_iff.mp h
  have hstart : start (fileText file) = .ok s₀ := by
    cases file with
    | none => exact hfile
    | some bytes => exact start_of_ofFile hfile
  have hchange : outcome (Change.apply s₀ (.environment vars)) = .ok s₁ := hvars
  -- the last step finds a base that is closed already
  have hbase := (carries_apply (carries_documentBase hstart) hchange).isBase
  rw [normalize_of_isBase s₁ hbase] at h
  obtain rfl := Except.ok.inj h
  exact bind_eq_ok_iff.mpr ⟨s₀, hstart, bind_eq_ok_iff.mpr ⟨s₁, hvars, rfl⟩⟩

/-- The settings of a command are those that are loaded, changed by the address that is given for
the base, if there is one. -/
theorem acceptAll_of_settingsFor {w : Command.Surroundings} {i : Command.Invocation}
    (h : Command.settingsFor w i = .ok s) :
    start (fileText (i.config.map w.file?)) >>=
      (acceptAll · (.environment w.allVariables :: (i.base.map .base).toList)) = .ok s := by
  rw [Command.settingsFor] at h
  cases hload : load (i.config.map w.file?) w.allVariables with
  | error failure =>
    rw [hload] at h
    cases h
  | ok s₁ =>
    simp only [hload] at h
    obtain ⟨s₀, hstart, haccepted⟩ := bind_eq_ok_iff.mp (acceptAll_of_load hload)
    rw [acceptAll] at haccepted
    obtain ⟨s₂, hvars, haccepted⟩ := bind_eq_ok_iff.mp haccepted
    obtain rfl := Except.ok.inj haccepted
    refine bind_eq_ok_iff.mpr ⟨s₀, hstart, bind_eq_ok_iff.mpr ⟨s₂, hvars, ?_⟩⟩
    cases hgiven : i.base with
    | none =>
      rw [hgiven] at h
      obtain rfl := Except.ok.inj h
      rfl
    | some address =>
      simp only [hgiven] at h
      split at h
      · next s₃ hset =>
        obtain rfl := Except.ok.inj h
        exact bind_eq_ok_iff.mpr ⟨s₃, congrArg outcome hset, rfl⟩
      · cases h

/-! ### The site below its base -/

/-- The base of the settings is a URL of the web that was given, but for a slash behind its path,
and each endpoint has a URL below it. -/
structure Serves (s : Settings) (u : Url) : Prop where
  web : s.base.isWeb = true
  kept : s.base = { u with path := s.base.path }
  path : s.base.path.write = u.path.write ∨ s.base.path.write = u.path.write ++ "/"
  closed : s.base.path.IsClosed ∧ ∃ front, s.base.path.write = front ++ "/"
  endpoint : ∀ path ∈ [Web.assistantPath, Web.rankedPath, Web.probePath], ∀ query,
    ∃ url, Web.endpoint s.base path query = .ok url ∧ url.scheme = s.base.scheme ∧
      url.authority = s.base.authority ∧ url.fragment = none ∧
      url.path.write = s.base.path.write ++ path

theorem Carries.serves (h : Carries s u) : Serves s u where
  web := h.isBase.web
  kept := by
    rw [h.base_eq]
    rfl
  path := by
    rw [h.base_eq]
    exact write_closedPath u.path
  closed := ⟨h.isBase.closed, h.isBase.closed.write⟩
  endpoint _ hpath query := Web.exists_endpoint_below h.isBase.web h.isBase.closed hpath query

/-- Settings that came about by changes all of which were accepted have the base that was given
last, and serve every endpoint below it: those of a document, those that are loaded, and those of a
command. -/
theorem accepted_base :
    (∀ document changes s, start document >>= (acceptAll · changes) = .ok s →
      Serves s (latestBase (documentBase document) changes)) ∧
    (∀ file vars s, load file vars = .ok s →
      Serves s (latestBase (documentBase (fileText file)) [.environment vars])) ∧
    ∀ w i s, Command.settingsFor w i = .ok s →
      Serves s (latestBase (documentBase (fileText (i.config.map w.file?)))
        (.environment w.allVariables :: (i.base.map .base).toList)) := by
  refine ⟨fun document changes s h ↦ ?_, fun file vars s h ↦ ?_, fun w i s h ↦ ?_⟩
  · exact (carries_latestBase h).serves
  · exact (carries_latestBase (acceptAll_of_load h)).serves
  · exact (carries_latestBase (acceptAll_of_settingsFor h)).serves

/-- The base of a document, then variables that leave it alone, then another base whose path has no
slash behind it. -/
theorem accepted_base_resolved :
    let document := some "api_base = \"http://[::1]/old\""
    let changes := [.environment fun name ↦ if name = "DOCSEARCH_URL_ROOT" then some "/" else none,
      Change.base "http://me:pw@[::1]:81/a/../v2?x=1"]
    ∃ s, start document >>= (acceptAll · changes) = .ok s ∧
      s.base.write = "http://me:pw@[::1]:81/v2/?x=1" ∧ s.options.urlRoot = "/" ∧
      Serves s (latestBase (documentBase document) changes) := by
  intro document changes
  have hrun : (start document >>= (acceptAll · changes)).toOption.map
      (fun s ↦ (s.base.write, s.options.urlRoot)) =
        some ("http://me:pw@[::1]:81/v2/?x=1", "/") := by
    decide +kernel
  cases h : start document >>= (acceptAll · changes) with
  | error failure =>
    rw [h] at hrun
    cases hrun
  | ok s =>
    rw [h] at hrun
    obtain ⟨hbase, hroot⟩ := Prod.mk.inj (Option.some.inj hrun)
    obtain ⟨haccepted, -⟩ := accepted_base
    exact ⟨s, rfl, hbase, hroot, haccepted document changes s h⟩

/-! ### Changes that are refused -/

/-- An address keeps the base one, unless it is a URL that is not of the web. -/
theorem isBase_setBase {address : String} (hs : IsBase s.base)
    (h : ∀ u, Url.parse address = .ok u → u.isWeb = true) : IsBase (s.setBase address).1.base := by
  cases hparse : Url.parse address with
  | error fault =>
    rw [setBase_of_fault hparse]
    exact hs
  | ok u =>
    have hweb := h u hparse
    rw [setBase_of_ok (readBase_eq_ok_iff.mpr ⟨u, hparse, hweb, rfl⟩)]
    exact isBase_closed hparse hweb

theorem isBase_apply {change : Change} (hs : IsBase s.base)
    (h : ∀ u, change.url? = some u → u.isWeb = true) : IsBase (change.apply s).1.base := by
  have haddress (address : String) (hgiven : change.address? = some address) (u : Url)
      (hparse : Url.parse address = .ok u) : u.isWeb = true := by
    refine h u ?_
    rw [Change.url?, hgiven, Option.bind_some, hparse]
    rfl
  cases change with
  | base address => exact isBase_setBase hs (haddress address rfl)
  | environment vars =>
    -- the variable of the base is an address like any other, and the others leave the base alone
    refine applyAll_keeps (P := fun s ↦ IsBase s.base) ?_ hs
    rintro ⟨name, assign⟩ hmem v hname s hs
    obtain ⟨rfl, rfl⟩ | hkept := assign_base hmem
    · exact isBase_setBase hs (haddress v hname)
    · rw [hkept]
      exact hs

/-- Over changes, refused ones included, the base stays one, if no URL is given that is not of the
web. -/
theorem isBase_changeAll {changes : List Change} (hs : IsBase s.base)
    (h : ∀ change ∈ changes, ∀ u, change.url? = some u → u.isWeb = true) :
    IsBase (s.changeAll changes).base := by
  induction changes generalizing s with
  | nil => exact hs
  | cons change rest ih =>
    rw [List.forall_mem_cons] at h
    exact ih (isBase_apply hs h.1) h.2

/-- An address that is refused changes at most the base, and nothing if it is no URL. Variables that
are refused were assigned in their order up to the first that cannot be read, which changes nothing
itself, unless it has a URL for the base. So the base stays one as long as each URL given for it is
of the web, whatever else is refused. -/
theorem refused_change (s : Settings) :
    (∀ address failure, (s.setBase address).2 = .error failure →
      (∃ base, (s.setBase address).1 = { s with base }) ∧
      ∀ fault, Url.parse address = .error fault → (s.setBase address).1 = s) ∧
    (∀ vars failure, (s.applyVariables vars).2 = .error failure →
      ∃ front name back v s', variableNames = front ++ name :: back ∧ vars name = some v ∧
        s.overlaid (among front vars) = .ok s' ∧
        s.overlaid (among (front ++ [name]) vars) = .error failure ∧
        (∃ base, (s.applyVariables vars).1 = { s' with base }) ∧
        (name ≠ "DOCSEARCH_API_BASE" ∨ (∃ fault, Url.parse v = .error fault) →
          (s.applyVariables vars).1 = s')) ∧
    (IsBase s.base → ∀ changes : List Change,
      (∀ change ∈ changes, ∀ u, change.url? = some u → u.isWeb = true) →
      IsBase (s.changeAll changes).base) := by
  refine ⟨fun address failure h ↦ ⟨?_, fun fault hfault ↦ ?_⟩, fun vars failure h ↦ ?_,
    fun hs changes hweb ↦ ?_⟩
  · cases hread : readBase address with
    | ok base =>
      rw [setBase_of_ok hread] at h
      cases h
    | error other =>
      obtain ⟨base, hbase⟩ := setBase_of_error (s := s) hread
      exact ⟨base, congrArg Prod.fst hbase⟩
  · exact congrArg Prod.fst (setBase_of_fault hfault)
  · exact applyVariables_of_error h
  · exact isBase_changeAll hs hweb

/-- Variables of which the first is accepted and the second is not. -/
theorem refused_change_between :
    let vars : Variables := fun name ↦
      if name = "DOCSEARCH_DOCS_BASE_URL" then some "https://other.test/"
      else if name = "DOCSEARCH_BUILDER" then some "singlehtml" else none
    (initial.applyVariables vars).2 = .error (.settings (.builder "singlehtml")) ∧
    (∃ front name back v s', variableNames = front ++ name :: back ∧ vars name = some v ∧
      initial.overlaid (among front vars) = .ok s' ∧
      initial.overlaid (among (front ++ [name]) vars) =
        .error (.settings (.builder "singlehtml")) ∧
      (∃ base, (initial.applyVariables vars).1 = { s' with base }) ∧
      (name ≠ "DOCSEARCH_API_BASE" ∨ (∃ fault, Url.parse v = .error fault) →
        (initial.applyVariables vars).1 = s')) ∧
    IsBase (initial.changeAll [.base "no base", .environment vars]).base := by
  intro vars
  have hfailed : (initial.applyVariables vars).2 = .error (.settings (.builder "singlehtml")) := by
    rfl
  have hurl : ∀ change ∈ [Change.base "no base", .environment vars], change.url? = none := by
    simp only [List.forall_mem_cons, List.not_mem_nil, false_implies, implies_true, and_true]
    exact ⟨by decide, rfl⟩
  refine ⟨hfailed, (refused_change initial).2.1 vars _ hfailed,
    (refused_change initial).2.2 isBase_initial _ fun change hchange u hu ↦ ?_⟩
  rw [hurl change hchange] at hu
  cases hu

/-- What was assigned before a variable that is refused stays. -/
theorem refused_change_not_undone :
    let vars : Variables := fun name ↦
      if name = "DOCSEARCH_DOCS_BASE_URL" then some "https://other.test/"
      else if name = "DOCSEARCH_BUILDER" then some "singlehtml" else none
    IsBase initial.base ∧
      (initial.applyVariables vars).2 = .error (.settings (.builder "singlehtml")) ∧
      (initial.applyVariables vars).1 ≠ initial :=
  ⟨isBase_initial, rfl, by decide⟩

end SiteSearch.Settings
