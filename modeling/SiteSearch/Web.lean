import SiteSearch.Failure
import SiteSearch.Text.Utf8
import SiteSearch.Url.Form
import SiteSearch.Url.Parse

/-!
# Requests over the web

A program that sends requests and makes calls on a panel is a tree: at each step it is done, or it
asks for a URL and goes on with the reply, or it makes a call. Running it on a network gives its
result together with the requests and the calls in order. Two such programs can run side by side,
their steps interleaved by a schedule.

Main definitions: `Network`, `Flow`, `Flow.run`, `Flow.both`, `getText`, `endpoint`.
-/

set_option autoImplicit false
set_option relaxedAutoImplicit false

namespace SiteSearch

/-- A reply: its status, its body in the pieces in which it arrives, and whether the connection
breaks before the announced end of the body. -/
structure Reply where
  status : Nat
  chunks : List (List UInt8)
  broken : Bool
deriving DecidableEq, Repr

/-- Whether the status reports success. -/
def Reply.succeeded (r : Reply) : Bool :=
  200 ≤ r.status && r.status < 300

/-- The whole body. -/
def Reply.body (r : Reply) : List UInt8 :=
  r.chunks.flatten

/-- What answers to each URL; nothing where the connection fails. -/
abbrev Network := Url → Option Reply

/-- A program with results in `α` that sends requests and makes calls of the kind `κ`. -/
inductive Flow (κ α : Type) where
  | done (a : α)
  | request (url : Url) (next : Option Reply → Flow κ α)
  | call (k : κ) (next : Flow κ α)

namespace Flow

variable {κ μ α β : Type}

/-- One program after another, which may depend on the result of the first. -/
def bind (p : Flow κ α) (f : α → Flow κ β) : Flow κ β :=
  match p with
  | .done a => f a
  | .request url next => .request url fun r ↦ (next r).bind f
  | .call k next => .call k (next.bind f)

instance : Monad (Flow κ) where
  pure := .done
  bind := .bind

/-- The program that makes the calls of a list. -/
def calls : List κ → Flow κ Unit
  | [] => .done ()
  | k :: ks => .call k (calls ks)

/-- The program with each call under another name. -/
def mapCalls (f : κ → μ) : Flow κ α → Flow μ α
  | .done a => .done a
  | .request url next => .request url fun r ↦ (next r).mapCalls f
  | .call k next => .call (f k) (next.mapCalls f)

/-- What a run shows: the requests and the calls in order, and the result. -/
structure Trace (κ α : Type) where
  requests : List Url
  calls : List κ
  result : α

/-- The run of a program on a network. -/
def run (net : Network) : Flow κ α → Trace κ α
  | .done a => ⟨[], [], a⟩
  | .request url next =>
    let t := (next (net url)).run net
    { t with requests := url :: t.requests }
  | .call k next =>
    let t := next.run net
    { t with calls := k :: t.calls }

/-- Two programs side by side. Each entry of the schedule lets one of them make its next step, the
first for `true`; what is left when the schedule ends runs one after the other. -/
def both : List Bool → Flow κ α → Flow μ β → Flow (κ ⊕ μ) (α × β)
  | true :: s, .request url next, q => .request url fun r ↦ both s (next r) q
  | true :: s, .call k next, q => .call (.inl k) (both s next q)
  | true :: s, .done a, q => both s (.done a) q
  | false :: s, p, .request url next => .request url fun r ↦ both s p (next r)
  | false :: s, p, .call k next => .call (.inr k) (both s p next)
  | false :: s, p, .done b => both s p (.done b)
  | [], p, q => do
    let a ← p.mapCalls .inl
    let b ← q.mapCalls .inr
    return (a, b)

end Flow

namespace Web

variable {κ : Type}

/-- Asks for a URL. Only plain HTTP is spoken: another scheme gets no reply, and no request is
sent. -/
def get (url : Url) : Flow κ (Option Reply) :=
  if url.scheme = "http" then .request url .done else .done none

/-- The text of a reply to a request for the URL. -/
def textOf (url : Url) (reply : Option Reply) : Except Failure String :=
  match reply with
  | none => .error .transport
  | some r =>
    if !r.succeeded then .error (.status url.write r.status)
    else if r.broken then .error .transport
    else .ok (.ofList (Text.Utf8.decode r.body))

/-- Asks for a URL and reads the reply as text, which has to report success and to be whole. -/
def getText (url : Url) : Flow κ (Except Failure String) := do
  return textOf url (← get url)

/-- Where the answer to a query is streamed. -/
def assistantPath : String := "api/assistant"

/-- Where ranked results are found. -/
def rankedPath : String := "api/ragsearch"

/-- What tells whether ranked results can be had. -/
def probePath : String := "api_check"

/-- A place below the base, with the query as the parameter `query` if there is one. -/
def endpoint (base : Url) (path : String) (query : Option String) : Except Failure Url :=
  match base.join path with
  | .error fault => .error (.url fault)
  | .ok url => .ok (match query with | some q => url.appendPair "query" q | none => url)

end Web

end SiteSearch
