import SiteSearch.Proofs.Text.Decoding
import SiteSearch.Web

/-!
# Runs of programs

The run of a program that goes on after another is the run of the first and then that of the second,
from the result of the first (`Flow.run_bind`). A reply with the bytes of a text, which reports
success and is whole, is read as the text (`wholeText?_toUTF8`).
-/

set_option autoImplicit false
set_option relaxedAutoImplicit false

namespace SiteSearch

namespace Flow

variable {κ α β : Type}

theorem run_pure (net : Network) (a : α) : (pure a : Flow κ α).run net = ⟨[], [], a⟩ := rfl

theorem run_request (net : Network) (url : Url) (next : Option Reply → Flow κ α) :
    (request url next).run net =
      ⟨url :: ((next (net url)).run net).requests, ((next (net url)).run net).calls,
        ((next (net url)).run net).result⟩ := rfl

theorem run_call (net : Network) (k : κ) (next : Flow κ α) :
    (call k next).run net =
      ⟨(next.run net).requests, k :: (next.run net).calls, (next.run net).result⟩ := rfl

theorem run_bind (net : Network) (p : Flow κ α) (f : α → Flow κ β) :
    (p >>= f).run net =
      { requests := (p.run net).requests ++ ((f (p.run net).result).run net).requests
        calls := (p.run net).calls ++ ((f (p.run net).result).run net).calls
        result := ((f (p.run net).result).run net).result } := by
  induction p with
  | done a => rfl
  | request url next ih =>
    change (request url fun r ↦ next r >>= f).run net = _
    simp only [run_request, ih, List.cons_append]
  | call k next ih =>
    change (call k (next >>= f)).run net = _
    simp only [run_call, ih, List.cons_append]

theorem run_calls (net : Network) (ks : List κ) : (calls ks).run net = ⟨[], ks, ()⟩ := by
  induction ks with
  | nil => rfl
  | cons k ks ih =>
    change (call k (calls ks)).run net = _
    rw [run_call, ih]

end Flow

namespace Web

variable {κ : Type}

/-- The reply to a request for the URL. -/
def reply (net : Network) (url : Url) : Option Reply :=
  if url.scheme = "http" then net url else none

theorem run_get (net : Network) (url : Url) :
    (get url : Flow κ (Option Reply)).run net =
      ⟨if url.scheme = "http" then [url] else [], [], reply net url⟩ := by
  by_cases h : url.scheme = "http" <;> simp [get, reply, h, Flow.run]

theorem run_getText (net : Network) (url : Url) :
    (getText url : Flow κ (Except Failure String)).run net =
      ⟨if url.scheme = "http" then [url] else [], [], textOf url (reply net url)⟩ := by
  rw [getText, Flow.run_bind, run_get, Flow.run_pure]
  simp only [List.append_nil]

/-- Where a request is sent to: nowhere when there is no URL, or none of plain HTTP. -/
def address? {ε : Type} (place : Except ε Url) : Option Url :=
  match place with
  | .error _ => none
  | .ok url => if url.scheme = "http" then some url else none

section Address

variable {ε : Type}

@[simp] theorem address?_error (e : ε) : address? (.error e) = none := rfl

theorem address?_ok (url : Url) :
    address? (.ok url : Except ε Url) = if url.scheme = "http" then some url else none := rfl

theorem address?_ok_toList (url : Url) :
    (address? (.ok url : Except ε Url)).toList = if url.scheme = "http" then [url] else [] := by
  rw [address?_ok]
  split <;> rfl

theorem address?_ok_bind (net : Network) (url : Url) :
    (address? (.ok url : Except ε Url)).bind net = reply net url := by
  rw [address?_ok, reply]
  split <;> rfl

end Address

/-- The text of a reply, which has to report success and to be whole. -/
def wholeText? (reply : Option Reply) : Option String :=
  reply.bind fun page ↦
    if page.succeeded = true ∧ page.broken = false then
      some (.ofList (Text.Utf8.decode page.body))
    else none

theorem toOption_textOf (url : Url) (reply : Option Reply) :
    (textOf url reply).toOption = wholeText? reply := by
  cases reply with
  | none => rfl
  | some page =>
    cases hsucceeded : page.succeeded with
    | false => simp [textOf, wholeText?, hsucceeded, Except.toOption]
    | true =>
      cases hbroken : page.broken with
      | true => simp [textOf, wholeText?, hsucceeded, hbroken, Except.toOption]
      | false => simp [textOf, wholeText?, hsucceeded, hbroken, Except.toOption]

theorem textOf_eq_ok_iff {url : Url} {reply : Option Reply} {text : String} :
    textOf url reply = .ok text ↔ wholeText? reply = some text := by
  rw [← toOption_textOf url]
  cases textOf url reply <;> simp [Except.toOption]

/-- A text that is sent whole is received. -/
theorem wholeText?_toUTF8 (text : String) :
    wholeText? (some ⟨200, [text.toUTF8.toList], false⟩) = some text := by
  change some (String.ofList (Text.Utf8.decode (text.toUTF8.toList ++ []))) = some text
  rw [List.append_nil, Text.Utf8.decode_toUTF8, String.ofList_toList]

end Web

end SiteSearch
