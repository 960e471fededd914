import SiteSearch.Failure
import SiteSearch.Json.Reader
import SiteSearch.Text.Blank
import SiteSearch.Web

/-!
# The index of a site

The pages of a site with their titles, in the order in which the site lists them. A site publishes
its index as a script that consists of one call, whose argument is a JSON object with the list of
page paths and the list of titles; the two lists are equally long.

Main definitions: `Index`, `Index.titleFor`, `Index.ofScript`, `Index.fetch`.
-/

set_option autoImplicit false
set_option relaxedAutoImplicit false

namespace SiteSearch.Site

open Text

/-- The pages of a site: path and title. -/
structure Index where
  entries : List (String × String)
deriving DecidableEq, Repr

namespace Index

/-- The index of a site without pages. -/
def empty : Index := ⟨[]⟩

/-- The paths. -/
def docnames (i : Index) : List String :=
  i.entries.map Prod.fst

/-- The titles. -/
def titles (i : Index) : List String :=
  i.entries.map Prod.snd

/-- The number of pages. -/
def length (i : Index) : Nat :=
  i.entries.length

/-- The position of the first page with that path. -/
def position? (i : Index) (path : String) : Option Nat :=
  i.entries.findIdx? fun e ↦ e.1 = path

/-- The title of the first page with that path. -/
def titleFor (i : Index) (path : String) : Option String :=
  (i.entries.find? fun e ↦ e.1 = path).map Prod.snd

/-- The index of a list of paths and a list of titles. -/
def ofArrays (docnames titles : List String) : Except IndexFault Index :=
  if docnames.length = titles.length then .ok ⟨docnames.zip titles⟩
  else .error (.lengths docnames.length titles.length)

/-- A list of texts. -/
def texts? : Json.Value → Option (List String)
  | .array items => items.mapM Json.Value.text?
  | _ => none

/-- The only member of that name. -/
def member? (members : List (String × Json.Value)) (name : String) : Option Json.Value :=
  match members.filter fun m ↦ m.1 = name with
  | [m] => some m.2
  | _ => none

/-- The two lists of the JSON form of an index: an object with members `docnames` and `titles`, or
an array of the two. -/
def arrays? : Json.Value → Option (List String × List String)
  | .object members => do
    let members ← members.mapM fun m ↦ do return (.ofList (← Json.textOf? m.1), m.2)
    return (← texts? (← member? members "docnames"), ← texts? (← member? members "titles"))
  | .array [docnames, titles] => do
    return (← texts? docnames, ← texts? titles)
  | _ => none

/-- The index of a JSON text. -/
def ofJson (raw : String) : Except IndexFault Index :=
  match (Json.read? raw).bind arrays? with
  | none => .error .json
  | some (docnames, titles) => ofArrays docnames titles

/-- The front of the call that sets an index. -/
def callOpening : List Char := "Search.setIndex(".toList

/-- The argument of a call that sets an index, semicolons and white space around it dropped. -/
def argument? (raw : String) : Option String :=
  let body := trimBack (dropEndWhile (· = ';') (trim raw.toList))
  if callOpening.isPrefixOf body then
    let rest := body.drop callOpening.length
    if rest.getLast? = some ')' then some (.ofList rest.dropLast) else none
  else none

/-- The index of a script. -/
def ofScript (raw : String) : Except IndexFault Index :=
  match argument? raw with
  | none => .error .notACall
  | some json => ofJson json

/-- The name of the script with the index. -/
def scriptName : String := "searchindex.js"

/-- Fetches the index of the site at the root. -/
def fetch {κ : Type} (root : Url) : Flow κ (Except Failure Index) :=
  match root.join scriptName with
  | .error fault => .done (.error (.url fault))
  | .ok url => do
    match ← Web.getText url with
    | .error failure => return .error failure
    | .ok body => return (ofScript body).mapError .index

end Index

end SiteSearch.Site
