/-!
# Arguments of the command line

A command line names a verb, with options before and behind it. A verb has options of its own, and
most verbs take one operand. Arguments are read from left to right; the first one that does not fit,
or that asks for the version, decides.

Main definitions: `Verb`, `Task`, `Invocation`, `Invocation.ofArguments`.
-/

set_option autoImplicit false
set_option relaxedAutoImplicit false

namespace SiteSearch.Command

/-- The verbs. -/
inductive Verb where
  /-- Streams the answer to a query. -/
  | ask
  /-- Searches for a query. -/
  | search
  /-- Does what a page does when it is loaded. -/
  | page
  /-- Tells whether results are ranked. -/
  | probe
deriving DecidableEq, Repr

/-- The verb of a name. -/
def Verb.ofName? (name : String) : Option Verb :=
  if name = "ask" then some .ask
  else if name = "search" then some .search
  else if name = "page" then some .page
  else if name = "probe" then some .probe
  else none

/-- A verb with its operand. -/
inductive Task where
  | ask (query : String)
  | search (query : String)
  | page (address : String)
  | probe
deriving DecidableEq, Repr

/-- The task of a verb with the operand that it takes. -/
def Verb.task? : Verb → Option String → Option Task
  | .ask, some query => some (.ask query)
  | .search, some query => some (.search query)
  | .page, some address => some (.page address)
  | .probe, none => some .probe
  | _, _ => none

/-- Whether a verb takes an operand, and may show markup as it is. -/
def Verb.hasOperand (v : Verb) : Bool :=
  v ≠ .probe

/-- The options. -/
inductive Switch where
  | config
  | base
  | verbose
  | html
  | version
deriving DecidableEq, Repr

/-- The option of a long name. -/
def Switch.ofName? (name : List Char) : Option Switch :=
  if name = "config".toList then some .config
  else if name = "api-base".toList then some .base
  else if name = "verbose".toList then some .verbose
  else if name = "html".toList then some .html
  else if name = "version".toList then some .version
  else none

/-- The option of a letter. -/
def Switch.ofLetter? (c : Char) : Option Switch :=
  if c = 'v' then some .verbose else if c = 'V' then some .version else none

/-- Whether an option has a value. -/
def Switch.hasValue (s : Switch) : Bool :=
  s = .config || s = .base

/-- Whether an option may stand before the verb, or behind the verb that is given. -/
def Switch.fits (verb : Option Verb) : Switch → Bool
  | .config | .base | .verbose => true
  | .html => verb.any Verb.hasOperand
  | .version => verb.isNone

/-- What was given before the verb, or behind it. -/
structure Given where
  config : Option String
  base : Option String
  verbose : Bool
  html : Bool
  operand : Option String
deriving DecidableEq, Repr

/-- Nothing given. -/
def Given.nothing : Given := ⟨none, none, false, false, none⟩

/-- Why a command line gives nothing to be done. -/
inductive Stop where
  /-- It is malformed. -/
  | usage
  /-- It asks for the version. -/
  | version
deriving DecidableEq, Repr

/-- An option with a value, which is given only once. The name of a file is not empty. -/
def Given.setValue (g : Given) (s : Switch) (value : String) : Except Stop Given :=
  if s = .config ∧ g.config = none ∧ value ≠ "" then .ok { g with config := some value }
  else if s = .base ∧ g.base = none then .ok { g with base := some value }
  else .error .usage

/-- An option without a value, which is given only once. -/
def Given.set (g : Given) (s : Switch) : Except Stop Given :=
  if s = .version then .error .version
  else if s = .verbose ∧ !g.verbose then .ok { g with verbose := true }
  else if s = .html ∧ !g.html then .ok { g with html := true }
  else .error .usage

/-- Options of one letter each, behind one dash. -/
def Given.setLetters (verb : Option Verb) (g : Given) : List Char → Except Stop Given
  | [] => .ok g
  | c :: cs =>
    match Switch.ofLetter? c with
    | some s =>
      if s.fits verb then do (← g.set s).setLetters verb cs
      else .error .usage
    | none => .error .usage

/-- The operand of a verb, of which there is only one. -/
def Given.setOperand (verb : Option Verb) (g : Given) (value : String) : Except Stop Given :=
  if verb.any Verb.hasOperand ∧ g.operand = none then .ok { g with operand := some value }
  else .error .usage

/-- What an argument looks like. -/
inductive Shape where
  /-- Two dashes, behind which there are only operands. -/
  | dashes
  | long (name : List Char) (value : Option String)
  | letters (cs : List Char)
  | operand
deriving DecidableEq, Repr

/-- The shape of an argument. A dash on its own is an operand. -/
def shapeOf (arg : String) : Shape :=
  match arg.toList with
  | ['-', '-'] => .dashes
  | '-' :: '-' :: s =>
    match s.dropWhile (· ≠ '=') with
    | [] => .long s none
    | _ :: value => .long (s.takeWhile (· ≠ '=')) (some (.ofList value))
  | '-' :: c :: cs => .letters (c :: cs)
  | _ => .operand

/-- What the program is asked to do. -/
structure Invocation where
  /-- The file with settings. -/
  config : Option String
  /-- The base of the site. -/
  base : Option String
  /-- Whether markup is shown as it is. -/
  raw : Bool
  task : Task
deriving DecidableEq, Repr

/-- What is to be done once all arguments are read: what stands behind the verb goes before what
stands in front of it. -/
def finish (verb : Option (Verb × Given)) (g : Given) : Except Stop Invocation :=
  match verb with
  | none => .error .usage
  | some (v, front) =>
    match v.task? g.operand with
    | none => .error .usage
    | some task =>
      .ok { config := g.config.or front.config, base := g.base.or front.base, raw := g.html, task }

/-- Reads arguments, with the option that a value is to follow for, and with the verb and what stood
in front of it if the verb is read. -/
def readArguments (awaited : Option Switch) (verb : Option (Verb × Given)) (g : Given) :
    List String → Except Stop Invocation
  | [] => if awaited = none then finish verb g else .error .usage
  | arg :: args =>
    let verb? := verb.map Prod.fst
    match awaited, shapeOf arg with
    | some s, .operand => do readArguments none verb (← g.setValue s arg) args
    | some _, _ => .error .usage
    | none, .dashes => do finish verb (← args.foldlM (Given.setOperand verb?) g)
    | none, .letters cs => do readArguments none verb (← g.setLetters verb? cs) args
    | none, .long name value =>
      match (Switch.ofName? name).filter (Switch.fits verb?) with
      | none => .error .usage
      | some s =>
        match s.hasValue, value with
        | true, some value => do readArguments none verb (← g.setValue s value) args
        | true, none => readArguments (some s) verb g args
        | false, none => do readArguments none verb (← g.set s) args
        | false, some _ => .error .usage
    | none, .operand =>
      match verb with
      | some _ => do readArguments none verb (← g.setOperand verb? arg) args
      | none =>
        match Verb.ofName? arg with
        | some v => readArguments none (some (v, g)) .nothing args
        | none => .error .usage

/-- What arguments ask for. -/
def Invocation.ofArguments (args : List String) : Except Stop Invocation :=
  readArguments none none .nothing args

end SiteSearch.Command
