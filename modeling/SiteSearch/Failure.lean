import SiteSearch.Url.Basic

/-!
# Failures

Everything that can go wrong, as causes. The wording is given once, in `Failure.message`; the
command line prints a failure together with the causes below it, which `Failure.chain` lists.
-/

set_option autoImplicit false
set_option relaxedAutoImplicit false

namespace SiteSearch

/-- How far an answer stream has come. -/
inductive Phase where
  | idle
  | streaming
  | closed
deriving DecidableEq, Repr

/-- The name of a phase. -/
def Phase.name : Phase → String
  | .idle => "Idle"
  | .streaming => "Streaming"
  | .closed => "Closed"

/-- Why there is no search index. -/
inductive IndexFault where
  /-- The text is not the JSON form of an index. -/
  | json
  /-- The script is no call that sets an index. -/
  | notACall
  /-- The two lists of the index differ in length. -/
  | lengths (docnames titles : Nat)
  /-- A search strategy reports that it cannot answer. -/
  | strategy (text : String)
deriving DecidableEq, Repr

/-- The wording of an index fault. -/
def IndexFault.message : IndexFault → String
  | .json => "invalid index JSON"
  | .notACall => "expected a Search.setIndex(...) call"
  | .lengths docnames titles =>
    Url.writeNat docnames ++ " docnames but " ++ Url.writeNat titles ++ " titles"
  | .strategy text => text

/-- Why there are no settings. -/
inductive SettingsFault where
  /-- The file cannot be read as text. -/
  | unreadable
  /-- The file is no TOML document of the expected shape. -/
  | document
  /-- The address of the site does not belong to the web. -/
  | scheme (name : String)
  /-- There is no builder of that name. -/
  | builder (name : String)
  /-- The value of the variable is no truth value. -/
  | flag (variableName value : String)
  /-- The value of the variable is no number. -/
  | number (variableName value : String)
deriving DecidableEq, Repr

/-- The wording of a settings fault. -/
def SettingsFault.message : SettingsFault → String
  | .unreadable => "reading"
  | .document => "invalid TOML"
  | .scheme name => "api base must be http or https, got " ++ name
  | .builder name => "unknown builder '" ++ name ++ "' (expected html or dirhtml)"
  | .flag variableName value => variableName ++ ": not a boolean: " ++ value
  | .number variableName value => variableName ++ ": not a number: " ++ value

/-- What can go wrong. -/
inductive Failure where
  /-- No reply, or one that breaks off. -/
  | transport
  /-- A reply that reports no success. -/
  | status (address : String) (code : Nat)
  | url (fault : Url.Fault)
  /-- A message of the answer stream that is no JSON string. -/
  | fragment (payload : String)
  /-- Search results that are no list of records. -/
  | records
  | index (fault : IndexFault)
  | settings (fault : SettingsFault)
  /-- The answer stream has been started before. -/
  | started (phase : Phase)
deriving DecidableEq, Repr

/-- The wording of a failure. -/
def Failure.message : Failure → String
  | .transport => "http request failed"
  | .status address code => address ++ " returned HTTP " ++ Url.writeNat code
  | .url fault => "invalid url: " ++ fault.message
  | .fragment _ => "malformed answer fragment"
  | .records => "malformed search results"
  | .index fault => "search index error: " ++ fault.message
  | .settings fault => "configuration error: " ++ fault.message
  | .started phase => "answer stream cannot start from state " ++ phase.name

/-- A failure and the causes below it, the outermost first. -/
def Failure.chain (f : Failure) : List String :=
  match f with
  | .url fault => [f.message, fault.message]
  | _ => [f.message]

end SiteSearch
