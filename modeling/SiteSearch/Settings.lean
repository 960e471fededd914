import SiteSearch.Failure
import SiteSearch.Site.Layout
import SiteSearch.Text.Blank
import SiteSearch.Text.Utf8
import SiteSearch.Toml.Reader
import SiteSearch.Url.Parse

/-!
# Settings

The settings come in layers: what holds by default, then a file, then variables of the environment,
then what the command line says. Each assignment is checked when it is made, and what was assigned
before a failure stays.

Main definitions: `Settings`, `Settings.setBase`, `Settings.applyVariables`, `Settings.ofToml`,
`Settings.load`.
-/

set_option autoImplicit false
set_option relaxedAutoImplicit false

namespace SiteSearch

/-- What the program is told. -/
structure Settings where
  /-- The base of the site. -/
  base : Url
  /-- What the links in answers start with that are given titles. -/
  docsBase : String
  options : Site.Options
  /-- The milliseconds between two steps of a result list. -/
  stepDelay : UInt64
deriving DecidableEq, Repr

/-- The values of variables. -/
abbrev Variables := String → Option String

/-- The names of a builder. -/
def Site.Builder.ofName? (name : String) : Option Site.Builder :=
  if name = "html" ∨ name = "default" then some .html
  else if name = "dirhtml" then some .dirhtml
  else none

/-- A text without white space at its ends and with its letters of ASCII in lower case. -/
def plainWord (s : String) : String :=
  .ofList ((Text.trim s.toList).map Char.toLower)

/-- The builder of a name in any case, which may stand between white space. -/
def readBuilder (s : String) : Except Failure Site.Builder :=
  match Site.Builder.ofName? (plainWord s) with
  | some b => .ok b
  | none => .error (.settings (.builder (plainWord s)))

/-- The truth value of a word. -/
def readFlag? (s : String) : Option Bool :=
  let word := plainWord s
  if ["1", "true", "yes", "on"].contains word then some true
  else if ["0", "false", "no", "off"].contains word then some false
  else none

/-- The number that a row of digits stands for, if it fits into 64 bits. A plus sign may precede. -/
def readCount? (s : String) : Option UInt64 :=
  let digits := match s.toList with
    | '+' :: ds => ds
    | ds => ds
  if digits ≠ [] ∧ digits.all Char.isDigit then
    let n := digits.foldl (fun n c ↦ 10 * n + (c.toNat - '0'.toNat)) 0
    if n < UInt64.size then some (.ofNat n) else none
  else none

namespace Settings

/-- The settings that hold by default. -/
def initial : Settings where
  base := ⟨"http", some ⟨"", none, .name "localhost", some 8000⟩, .segments [""], none, none⟩
  docsBase := "https://docs.pip.distribution.sol.onetick.com/"
  options := .initial
  stepDelay := 5

/-! ### The base of the site -/

/-- A path that ends in a slash, so that what is resolved against it stays below it. -/
def closedPath : Url.Path → Url.Path
  | .segments l => .segments (if l.getLast? = some "" then l else l ++ [""])
  | .rigid s => .rigid s

/-- The settings with the path of their base closed, if the base belongs to the web. -/
def normalize (s : Settings) : Settings × Except Failure Unit :=
  if s.base.scheme = "http" ∨ s.base.scheme = "https" then
    ({ s with base := { s.base with path := closedPath s.base.path } }, .ok ())
  else (s, .error (.settings (.scheme s.base.scheme)))

/-- The settings with another base. One that is no base of the web stays, but is reported. -/
def setBase (s : Settings) (address : String) : Settings × Except Failure Unit :=
  match Url.parse address with
  | .error fault => (s, .error (.url fault))
  | .ok base => { s with base }.normalize

/-- Where the pages of the site are. -/
def pagesRoot (s : Settings) : Except Failure Url :=
  (s.base.join s.options.urlRoot).mapError .url

/-! ### Variables -/

/-- What a value does to the settings, if it is acceptable. -/
abbrev Assignment := String → Settings → Settings × Except Failure Unit

/-- The assignment that changes the settings in all cases. -/
def always (change : String → Settings → Settings) : Assignment := fun v s ↦
  (change v s, .ok ())

/-- The assignment of a value that has to be read first. -/
def reading {α : Type} (read : String → Except Failure α) (change : α → Settings → Settings) :
    Assignment := fun v s ↦
  match read v with
  | .ok a => (change a s, .ok ())
  | .error failure => (s, .error failure)

/-- The name of the variable for the summaries. -/
def summaryVariable : String := "DOCSEARCH_SHOW_SUMMARY"

/-- The name of the variable for the delay. -/
def delayVariable : String := "DOCSEARCH_STEP_DELAY_MS"

/-- The variables in the order in which they are looked at, and what their values do. -/
def assignments : List (String × Assignment) := [
  ("DOCSEARCH_API_BASE", fun v s ↦ s.setBase v),
  ("DOCSEARCH_DOCS_BASE_URL", always fun docsBase s ↦ { s with docsBase }),
  ("DOCSEARCH_BUILDER",
    reading readBuilder fun builder s ↦ { s with options := { s.options with builder } }),
  ("DOCSEARCH_URL_ROOT",
    always fun urlRoot s ↦ { s with options := { s.options with urlRoot } }),
  ("DOCSEARCH_FILE_SUFFIX",
    always fun fileSuffix s ↦ { s with options := { s.options with fileSuffix } }),
  ("DOCSEARCH_LINK_SUFFIX",
    always fun linkSuffix s ↦ { s with options := { s.options with linkSuffix } }),
  (summaryVariable,
    reading (fun v ↦ match readFlag? v with
      | some b => .ok b
      | none => .error (.settings (.flag summaryVariable v)))
    fun showSummary s ↦ { s with options := { s.options with showSummary } }),
  (delayVariable,
    reading (fun v ↦ match readCount? v with
      | some n => .ok n
      | none => .error (.settings (.number delayVariable v)))
    fun stepDelay s ↦ { s with stepDelay })]

/-- The settings after assignments from variables that are set, up to the first that fails. -/
def applyAll (vars : Variables) :
    List (String × Assignment) → Settings → Settings × Except Failure Unit
  | [], s => (s, .ok ())
  | (name, assign) :: rest, s =>
    match vars name with
    | none => applyAll vars rest s
    | some v =>
      match assign v s with
      | (s, .ok ()) => applyAll vars rest s
      | (s, .error failure) => (s, .error failure)

/-- The settings with those of the environment laid over them. -/
def applyVariables (s : Settings) (vars : Variables) : Settings × Except Failure Unit :=
  applyAll vars assignments s

/-! ### Documents -/

/-- A text. -/
def textOf? : Toml.Value → Option String
  | .text s => some s
  | _ => none

/-- A truth value. -/
def flagOf? : Toml.Value → Option Bool
  | .flag b => some b
  | _ => none

/-- A number of 64 bits. -/
def countOf? : Toml.Value → Option UInt64
  | .integer n => if 0 ≤ n ∧ n < UInt64.size then some (.ofNat n.toNat) else none
  | _ => none

/-- A URL. -/
def urlOf? : Toml.Value → Option Url
  | .text s => (Url.parse s).toOption
  | _ => none

/-- A builder, by its name or as a table that gives its name nothing. -/
def builderOf? : Toml.Value → Option Site.Builder
  | .text s => Site.Builder.ofName? s
  | .table _ [(name, .array [])] => Site.Builder.ofName? name
  | .table _ [(name, .table _ [])] => Site.Builder.ofName? name
  | _ => none

/-- The reading of a value, or what holds if there is none. -/
def orDefault {α : Type} (read : Toml.Value → Option α) (default : α) : Option Toml.Value → Option α
  | none => some default
  | some v => read v

/-- Options, of which each is given by `value`, if it is given. -/
def optionsBy? (value : Nat → String → Option Toml.Value) : Option Site.Options := do
  let d := Site.Options.initial
  return {
    builder := ← orDefault builderOf? d.builder (value 0 "builder")
    urlRoot := ← orDefault textOf? d.urlRoot (value 1 "url_root")
    fileSuffix := ← orDefault textOf? d.fileSuffix (value 2 "file_suffix")
    linkSuffix := ← orDefault textOf? d.linkSuffix (value 3 "link_suffix")
    showSummary := ← orDefault flagOf? d.showSummary (value 4 "show_summary") }

/-- Options: a table, or a list that gives them in order. -/
def optionsOf? : Toml.Value → Option Site.Options
  | .table origin members => optionsBy? fun _ name ↦ Toml.Table.get? ⟨origin, members⟩ name
  | .array items => optionsBy? fun i _ ↦ items[i]?
  | .tables items => optionsBy? fun i _ ↦ (items[i]?).map (Toml.Value.table .header)
  | .moment => some .initial
  | _ => none

/-- The settings that a table gives; what it does not name keeps its default. -/
def ofTable? (t : Toml.Table) : Option Settings := do
  return {
    base := ← orDefault urlOf? initial.base (t.get? "api_base")
    docsBase := ← orDefault textOf? initial.docsBase (t.get? "docs_base_url")
    options := ← orDefault optionsOf? initial.options (t.get? "options")
    stepDelay := ← orDefault countOf? initial.stepDelay (t.get? "step_delay_ms") }

/-- The settings of a document. -/
def ofToml (text : String) : Except Failure Settings :=
  match (Toml.read? text).bind ofTable? with
  | none => .error (.settings .document)
  | some s =>
    match s.normalize with
    | (s, .ok ()) => .ok s
    | (_, .error failure) => .error failure

/-- The settings of a file, given by its bytes if it can be read. -/
def ofFile (bytes : Option (List UInt8)) : Except Failure Settings :=
  match bytes.bind Text.Utf8.decode? with
  | some text => ofToml (.ofList text)
  | none => .error (.settings .unreadable)

/-- The settings of a file, if one is named, and of the environment. -/
def load (file : Option (Option (List UInt8))) (vars : Variables) : Except Failure Settings := do
  let s ← match file with
    | some bytes => ofFile bytes
    | none => .ok initial
  match s.applyVariables vars with
  | (_, .error failure) => .error failure
  | (s, .ok ()) =>
    match s.normalize with
    | (s, .ok ()) => .ok s
    | (_, .error failure) => .error failure

end Settings

end SiteSearch
