/-!
# Values of a TOML document

A document is a table of named values. How a table came about decides what may still be added to it:
a table with a header is closed to dotted keys from elsewhere, one that only stands in the headers
of others may still get its own, and one in braces is complete.

Main definitions: `Value`, `Table`, `Table.add?`, `Table.openTable?`, `Table.openItem?`.
-/

set_option autoImplicit false
set_option relaxedAutoImplicit false

namespace SiteSearch.Toml

/-- How a table came about. -/
inductive Origin where
  /-- By a header of its own. -/
  | header
  /-- By headers of tables within it. -/
  | implied
  /-- By dotted keys. -/
  | dotted
  /-- In braces. -/
  | braces
deriving DecidableEq, Repr

/-- A value. Dates, times and numbers with a fraction are told apart, but nothing asks for them. -/
inductive Value where
  | text (s : String)
  | integer (n : Int)
  | real
  | flag (b : Bool)
  | moment
  | array (items : List Value)
  /-- The tables that headers in double brackets make, each by its members. -/
  | tables (items : List (List (String × Value)))
  | table (origin : Origin) (members : List (String × Value))
deriving Repr

/-- A table: how it came about, and its members in order. -/
structure Table where
  origin : Origin
  members : List (String × Value)

namespace Table

/-- The table as a value. -/
def toValue (t : Table) : Value :=
  .table t.origin t.members

/-- The value of a key. -/
def get? (t : Table) (key : String) : Option Value :=
  (t.members.find? fun m ↦ m.1 = key).map Prod.snd

/-- The table with a value for a key, in place of the one that it has. -/
def put (t : Table) (key : String) (v : Value) : Table :=
  if (t.get? key).isSome then
    { t with members := t.members.map fun m ↦ if m.1 = key then (key, v) else m }
  else { t with members := t.members ++ [(key, v)] }

/-- The table with a change made to the table that a path of keys leads to. What is missing on the
way is made, by dotted keys or by a header. Of tables in double brackets the last one is entered. -/
def update? (dotted : Bool) (change : Table → Option Table) : List String → Table → Option Table
  | [], t => change t
  | key :: path, t =>
    match t.get? key with
    | none =>
      (update? dotted change path ⟨if dotted then .dotted else .implied, []⟩).map fun s ↦
        t.put key s.toValue
    | some (.table origin members) =>
      if origin = .braces ∨ (dotted ∧ origin = .header) then none
      else (update? dotted change path ⟨origin, members⟩).map fun s ↦ t.put key s.toValue
    | some (.tables items) =>
      match items.getLast? with
      | none => none
      | some members =>
        (update? dotted change path ⟨.header, members⟩).map fun s ↦
          t.put key (.tables (items.dropLast ++ [s.members]))
    | some _ => none

/-- The table with a new value under a dotted key, given by its path and its last part. -/
def add? (t : Table) (path : List String) (key : String) (v : Value) : Option Table :=
  t.update? true (fun s ↦
    if (s.get? key).isSome ∨ (path ≠ [] ∧ s.origin ≠ .dotted) then none
    else some (s.put key v)) path

/-- The document with a table opened by its header. -/
def openTable? (t : Table) (path : List String) (key : String) : Option Table :=
  t.update? false (fun s ↦
    match s.get? key with
    | none => some (s.put key (.table .header []))
    | some (.table .implied members) => some (s.put key (.table .header members))
    | some _ => none) path

/-- The document with one more table opened by a header in double brackets. -/
def openItem? (t : Table) (path : List String) (key : String) : Option Table :=
  t.update? false (fun s ↦
    match s.get? key with
    | none => some (s.put key (.tables [[]]))
    | some (.tables items) => some (s.put key (.tables (items ++ [[]])))
    | some _ => none) path

end Table

end SiteSearch.Toml
