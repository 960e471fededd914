import SiteSearch.Command.Run

/-!
# The command line

Reads the surroundings of the program, runs the command, and prints what it leaves. No connection is
opened from here: every request goes unanswered.
-/

set_option autoImplicit false
set_option relaxedAutoImplicit false

namespace SiteSearch

/-- The bytes of a file, if it can be read. -/
def readFile? (name : String) : IO (Option (List UInt8)) := do
  try
    return some (← IO.FS.readBinFile name).toList
  catch _ =>
    return none

/-- The values of those among some variables that are set. -/
def readVariables : List String → IO (List (String × String))
  | [] => return []
  | name :: names => do
    let rest ← readVariables names
    match ← IO.getEnv name with
    | some value => return (name, value) :: rest
    | none => return rest

/-- The file of settings that a command line names, if there is one, and its bytes. -/
def readSettingsFile? (args : List String) : IO (Option (String × List UInt8)) := do
  match Command.Invocation.ofArguments args with
  | .ok { config := some name, .. } => return (← readFile? name).map fun bytes ↦ (name, bytes)
  | _ => return none

/-- What a command line finds. -/
def readSurroundings (args : List String) : IO Command.Surroundings := do
  let file ← readSettingsFile? args
  let environment ← readVariables (Settings.assignments.map Prod.fst)
  return {
    file? := fun name ↦ (file.filter fun f ↦ f.1 = name).map Prod.snd
    environment := EnvironmentFile.valueIn? environment
    variableFile := ← readFile? ".env"
    network := fun _ ↦ none
    styled := (← IO.getEnv "CLICOLOR_FORCE").isSome }

end SiteSearch

/-- Runs a command line, prints what it leaves, and gives its exit code. -/
def main (args : List String) : IO UInt32 := do
  let outcome := SiteSearch.Command.run (← SiteSearch.readSurroundings args) args
  for line in outcome.output do
    IO.println line
  for line in outcome.errors do
    IO.eprintln line
  return outcome.code.toUInt32
