import SiteSearch.Command.Arguments
import SiteSearch.EnvironmentFile
import SiteSearch.Markdown.Write
import SiteSearch.Results.Excerpt
import SiteSearch.Search.Page
import SiteSearch.Settings
import SiteSearch.Terminal

/-!
# Running a command

A command is run in surroundings: files, variables, a network and a terminal. It leaves an exit
code and two texts, one for results and one for titles and errors.

Main definitions: `Surroundings`, `Outcome`, `run`.
-/

set_option autoImplicit false
set_option relaxedAutoImplicit false

namespace SiteSearch.Command

/-- What a command finds. -/
structure Surroundings where
  /-- The bytes of the files that can be read. -/
  file? : String → Option (List UInt8)
  environment : Variables
  /-- The file of variables in the working directory. -/
  variableFile : Option (List UInt8)
  network : Network
  /-- Whether the terminal has styles. -/
  styled : Bool

/-- What a command leaves: an exit code, the lines of results, and those of titles and errors. -/
structure Outcome where
  code : Nat
  output : List String
  errors : List String
deriving DecidableEq, Repr

/-- The name of the program and its version. -/
def versionLine : String := "docsearch-assist 0.1.0"

/-- The line of a failure: what was being done, and the causes, the outermost first. -/
def errorLine (context : String) (failure : Failure) : String :=
  "error: " ++ ": ".intercalate (context :: failure.chain)

/-- The outcome with one more failure. -/
def Outcome.fail (o : Outcome) (context : String) (failure : Failure) : Outcome :=
  { o with code := 1, errors := o.errors ++ [errorLine context failure] }

/-- The outcome of a command that did nothing yet. -/
def Outcome.nothing : Outcome := ⟨0, [], []⟩

/-- The variables that are set, those of the file included. -/
def Surroundings.allVariables (w : Surroundings) : Variables :=
  match w.variableFile with
  | some bytes => EnvironmentFile.load w.environment bytes
  | none => w.environment

/-- The settings that a command runs with, or what failed and how. -/
def settingsFor (w : Surroundings) (i : Invocation) : Except (String × Failure) Settings :=
  match Settings.load (i.config.map w.file?) w.allVariables with
  | .error failure => .error ("loading configuration", failure)
  | .ok s =>
    match i.base with
    | none => .ok s
    | some address =>
      match s.setBase address with
      | (s, .ok ()) => .ok s
      | (_, .error failure) => .error ("invalid --api-base " ++ address, failure)

/-- The index of the site, which is empty if it cannot be had. -/
def fetchIndex {κ : Type} (s : Settings) : Flow κ Site.Index :=
  match s.pagesRoot with
  | .error _ => .done .empty
  | .ok root => do return ((← Site.Index.fetch root).toOption).getD .empty

/-- The number of characters of an excerpt. -/
def excerptLength : Nat := 240

/-- The page that a command works with. -/
def pageFor (s : Settings) (index : Site.Index) : Search.Page :=
  .initial s.base
    { markup := Markdown.toHtml, links := { base := s.docsBase, index } }
    (Search.byTitle index s.options)
    (Search.byRank s.base
      { base := s.base, options := s.options, summarize := Results.excerpt excerptLength })

/-- The outcome with a call on the list of results shown on a terminal. -/
def Outcome.show (t : Terminal) (o : Outcome) : Results.Call → Outcome
  | .append html => { o with output := o.output ++ [t.itemLine html] }
  | .setTitle title => { o with errors := o.errors ++ [t.titleLine title o.output.length] }
  | .stopPulse | .revealStatus => o

/-- The outcome with an answer shown on a terminal. -/
def Outcome.showAnswer (t : Terminal) (o : Outcome) (p : Answer.Panel) : Outcome :=
  { o with output := o.output ++ t.answerLines p }

/-- Streams the answer to a query and shows it. -/
def ask (net : Network) (t : Terminal) (s : Settings) (page : Search.Page) (query : String) :
    Outcome :=
  match (((Answer.Session.idle .initial).start s.base page.style query).run net).result with
  | (_, .error failure) => Outcome.nothing.fail "streaming answer" failure
  | (session, .ok ()) => Outcome.nothing.showAnswer t session.display.panel

/-- Searches for a query and shows the results. -/
def search (net : Network) (t : Terminal) (page : Search.Page) (query : String) : Outcome :=
  let trace := (page.search query).run net
  let shown := trace.calls.foldl (Outcome.show t) .nothing
  match trace.result.2 with
  | .error failure => shown.fail "running search" failure
  | .ok _ => shown

/-- Loads a page and shows what it shows. -/
def load (net : Network) (t : Terminal) (page : Search.Page) (address : String) : Outcome :=
  let trace := (page.load [] address .initial).run net
  let shown := (trace.calls.filterMap Sum.getLeft?).foldl (Outcome.show t) .nothing
  match trace.result.2 with
  | .error failure => shown.fail ("loading " ++ address) failure
  | .ok loaded =>
    match loaded.answer with
    | some session => shown.showAnswer t session.display.panel
    | none => shown

/-- Does what an invocation asks for. -/
def perform (w : Surroundings) (i : Invocation) : Outcome :=
  match settingsFor w i with
  | .error (context, failure) => Outcome.nothing.fail context failure
  | .ok s =>
    let t : Terminal := { styled := w.styled, raw := i.raw }
    let page := pageFor s ((fetchIndex s : Flow Empty _).run w.network).result
    match i.task with
    | .probe =>
      let available := ((Search.probe s.base : Flow Empty _).run w.network).result
      { Outcome.nothing with output := [if available then "vector" else "keyword"] }
    | .ask query => ask w.network t s page query
    | .search query => search w.network t page query
    | .page address => load w.network t page address

/-- What a command line leaves. -/
def run (w : Surroundings) (args : List String) : Outcome :=
  match Invocation.ofArguments args with
  | .error .usage => { Outcome.nothing with code := 2 }
  | .error .version => { Outcome.nothing with output := [versionLine] }
  | .ok i => perform w i

end SiteSearch.Command
