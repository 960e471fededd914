import SiteSearch.Answer.Panel
import SiteSearch.EventStream
import SiteSearch.Json.Reader
import SiteSearch.Web

/-!
# Streamed answers

An answer arrives as the messages of an event stream, each a JSON string. The text gathered so far
is shown after every message, unless it may still become, or already is, the phrase that stands for
no answer. A session streams one answer; it ends at the end of the stream, at a failure of the
connection, which is no failure of the session, or at the first message that is no JSON string.

Main definitions: `isSuppressed`, `Session`, `Session.accept`, `Session.consume`, `Session.start`.
-/

set_option autoImplicit false
set_option relaxedAutoImplicit false

namespace SiteSearch.Answer

/-- The phrase that stands for no answer. -/
def noAnswer : String := "Hmm, I'm not sure."

/-- Whether one of the text and the phrase for no answer starts with the other. -/
def isSuppressed (text : String) : Bool :=
  noAnswer.toList.isPrefixOf text.toList || text.toList.isPrefixOf noAnswer.toList

/-- How the text of an answer becomes the content of the panel: as markup, with links retitled. -/
structure Style where
  markup : String → String
  links : Site.Links

/-- An answer as far as it has come. -/
structure Session where
  phase : Phase
  /-- The fragments received so far, joined. -/
  text : String
  /-- Their number. -/
  fragments : Nat
  display : Display
deriving DecidableEq, Repr

namespace Session

/-- A session that has not been started. -/
def idle (panel : Panel) : Session :=
  { phase := .idle, text := "", fragments := 0, display := .fresh panel }

/-- What a step of a session gives: the session after it, the calls on the panel, and whether the
session has failed. -/
structure Outcome where
  session : Session
  calls : List Call
  result : Except Failure Unit

/-- The fragment that a message carries. -/
def fragment? (payload : String) : Option String :=
  (Json.read? payload).bind Json.Value.text?

/-- Takes one more fragment in and shows the text gathered, unless it is suppressed. -/
def extend (s : Session) (style : Style) (fragment : String) : Session × List Call :=
  let s := { s with text := s.text ++ fragment, fragments := s.fragments + 1 }
  if isSuppressed s.text then (s, [])
  else
    let html := style.markup s.text
    let rendered := s.display.render html
    ({ s with display := rendered.retitle style.links },
      s.display.renderCalls html ++ rendered.retitleCalls style.links)

/-- Takes a message in. -/
def accept (s : Session) (style : Style) (payload : String) : Outcome :=
  match fragment? payload with
  | none => ⟨s, [], .error (.fragment payload)⟩
  | some fragment =>
    let (s, calls) := s.extend style fragment
    ⟨s, calls, .ok ()⟩

/-- Takes messages in up to the first that fails. -/
def acceptAll (s : Session) (style : Style) : List String → Outcome
  | [] => ⟨s, [], .ok ()⟩
  | payload :: rest =>
    let first := s.accept style payload
    match first.result with
    | .error _ => first
    | .ok () =>
      let more := first.session.acceptAll style rest
      { more with calls := first.calls ++ more.calls }

/-- The data of the events that listeners for plain messages receive. -/
def messages (events : List EventStream.Event) : List String :=
  (events.filter EventStream.Event.isMessage).map EventStream.Event.data

/-- Takes the chunks of a body in as they arrive. -/
def consume (s : Session) (style : Style) (decoder : EventStream.Decoder) :
    List (List UInt8) → Outcome
  | [] => ⟨s, [], .ok ()⟩
  | chunk :: rest =>
    let (decoder, events) := decoder.feed chunk
    let first := s.acceptAll style (messages events)
    match first.result with
    | .error _ => first
    | .ok () =>
      let more := first.session.consume style decoder rest
      { more with calls := first.calls ++ more.calls }

/-- Takes a reply in. Only one that reports success has a stream; how its connection ends makes no
difference. -/
def answer (s : Session) (style : Style) (reply : Option Reply) : Outcome :=
  match reply with
  | none => ⟨s, [], .ok ()⟩
  | some r => if r.succeeded then s.consume style .initial r.chunks else ⟨s, [], .ok ()⟩

/-- The session at its end. -/
def close (s : Session) : Session :=
  { s with phase := .closed }

/-- Streams the answer to a query from the site at the base. -/
def start (s : Session) (base : Url) (style : Style) (query : String) :
    Flow Call (Session × Except Failure Unit) :=
  if s.phase = .idle then
    match Web.endpoint base Web.assistantPath (some query) with
    | .error failure => .done (s.close, .error failure)
    | .ok url => do
      let outcome := { s with phase := .streaming }.answer style (← Web.get url)
      Flow.calls outcome.calls
      return (outcome.session.close, outcome.result)
  else .done (s, .error (.started s.phase))

end Session

end SiteSearch.Answer
