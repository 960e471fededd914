import SiteSearch.Text.Utf8

/-!
# Event streams

The `text/event-stream` format, decoded from bytes that arrive in arbitrary chunks. A line ends at
LF, CR or CRLF and is decoded on its own; a colon at its front makes it a comment, and the first
other colon separates a field from its value, one blank after the colon dropped. The values of
`data` lines are joined with line feeds; an empty line closes the event, which is delivered when it
has any data. Identifiers outlive the event they were sent with.

Main definitions: `Event`, `Decoder`, `Decoder.feed`.
-/

set_option autoImplicit false
set_option relaxedAutoImplicit false

namespace SiteSearch.EventStream

open Text

/-- A delivered event: its type (empty when none was sent), its data, and the latest identifier
of the stream. -/
structure Event where
  kind : String
  data : String
  id : Option String
deriving DecidableEq, Repr

/-- Whether listeners for plain messages receive the event. -/
def Event.isMessage (e : Event) : Bool :=
  e.kind = "" || e.kind = "message"

/-- What the lines since the last empty line and the identifiers so far amount to. -/
structure Draft where
  kind : String
  data : Option String
  id : Option String
deriving DecidableEq, Repr

/-- Nothing gathered. -/
def Draft.empty : Draft := ⟨"", none, none⟩

/-- The draft after a field. Unknown fields change nothing, nor does an identifier with a NUL. -/
def Draft.field (d : Draft) (name value : String) : Draft :=
  if name = "data" then
    { d with data := some (match d.data with | some old => old ++ "\n" ++ value | none => value) }
  else if name = "event" then { d with kind := value }
  else if name = "id" then
    if value.toList.contains '\x00' then d else { d with id := some value }
  else d

/-- The event of a draft, if it has data. -/
def Draft.event? (d : Draft) : Option Event :=
  match d.data with
  | none => none
  | some data => if data = "" then none else some ⟨d.kind, data, d.id⟩

/-- The draft that follows an empty line. -/
def Draft.renew (d : Draft) : Draft :=
  ⟨"", none, d.id⟩

/-- A line cut at its first colon, one blank after the colon dropped. -/
def splitField (line : List Char) : String × String :=
  let name := line.takeWhile (· ≠ ':')
  let value := match line.dropWhile (· ≠ ':') with
    | ':' :: ' ' :: value => value
    | ':' :: value => value
    | _ => []
  (.ofList name, .ofList value)

/-- The draft after one line, and the event that the line completes. -/
def Draft.line (d : Draft) (line : List Char) : Draft × Option Event :=
  match line with
  | [] => (d.renew, d.event?)
  | ':' :: _ => (d, none)
  | _ =>
    let (name, value) := splitField line
    (d.field name value, none)

/-- The state between two bytes of a stream. -/
structure Decoder where
  /-- The bytes of the unfinished line, the latest first. -/
  pending : List UInt8
  /-- Whether the latest byte was a carriage return, so that a line feed belongs to it. -/
  afterReturn : Bool
  /-- Whether a line has ended, so that no byte-order mark is dropped any more. -/
  started : Bool
  draft : Draft
deriving DecidableEq, Repr

/-- The state at the start of a stream. -/
def Decoder.initial : Decoder := ⟨[], false, false, .empty⟩

/-- The text without a byte-order mark at its front. -/
def dropMark (line : List Char) : List Char :=
  match line with
  | '\uFEFF' :: rest => rest
  | _ => line

/-- The end of a line. -/
def Decoder.endLine (d : Decoder) : Decoder × Option Event :=
  let decoded := Utf8.decode d.pending.reverse
  let (draft, event) := d.draft.line (if d.started then decoded else dropMark decoded)
  ({ d with pending := [], started := true, draft }, event)

/-- One byte. -/
def Decoder.byte (d : Decoder) (b : UInt8) : Decoder × Option Event :=
  if d.afterReturn && b = 0x0A then ({ d with afterReturn := false }, none)
  else if b = 0x0A || b = 0x0D then { d with afterReturn := b = 0x0D }.endLine
  else ({ d with pending := b :: d.pending, afterReturn := false }, none)

/-- A chunk of bytes: the state after it and the events it completes, in order. -/
def Decoder.feed (d : Decoder) : List UInt8 → Decoder × List Event
  | [] => (d, [])
  | b :: chunk =>
    let (d, event) := d.byte b
    let (d, events) := d.feed chunk
    (d, event.toList ++ events)

/-- Several chunks: the events that each completes. -/
def Decoder.feedAll (d : Decoder) : List (List UInt8) → List (List Event)
  | [] => []
  | chunk :: chunks =>
    let (d, events) := d.feed chunk
    events :: d.feedAll chunks

end SiteSearch.EventStream
