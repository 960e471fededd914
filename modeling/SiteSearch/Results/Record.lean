import SiteSearch.Json.Reader

/-!
# Ranked results

A ranked result is written as a JSON array of five: path, title, anchor, description and score.
Anchor and description may be null, which stands for an empty text.
-/

set_option autoImplicit false
set_option relaxedAutoImplicit false

namespace SiteSearch.Results

/-- A ranked result. -/
structure Record where
  path : String
  title : String
  anchor : String
  /-- Empty when there is none. -/
  description : String
  score : Float
deriving Repr

/-- Whether the result comes with a description. -/
def Record.hasDescription (r : Record) : Bool :=
  r.description ≠ ""

/-- A text, or null for the empty one. -/
def optionalText? : Json.Value → Option String
  | .null => some ""
  | v => v.text?

/-- The double of a number in range. -/
def score? : Json.Value → Option Float
  | .number n => n.toFloat?
  | _ => none

/-- The result that a JSON value stands for. -/
def Record.ofJson? : Json.Value → Option Record
  | .array [path, title, anchor, description, score] => do
    return { path := ← path.text?, title := ← title.text?, anchor := ← optionalText? anchor,
             description := ← optionalText? description, score := ← score? score }
  | _ => none

/-- The results that a JSON value stands for, the best first. -/
def recordsOfJson? : Json.Value → Option (List Record)
  | .array items => items.mapM Record.ofJson?
  | _ => none

/-- The results of a JSON text. -/
def readRecords? (raw : String) : Option (List Record) :=
  (Json.read? raw).bind recordsOfJson?

end SiteSearch.Results
