import SiteSearch.Proofs.Answer.Fragments
import SiteSearch.Proofs.EventStream.Blocks
import SiteSearch.Proofs.Web

/-!
# What a session delivers

A session takes in the messages of the whole body, however it was cut into chunks
(`answer_eq_acceptAll`), up to the first that carries no fragment (`acceptAll_eq`). Once it has been
started it stays closed.
-/

set_option autoImplicit false
set_option relaxedAutoImplicit false

namespace SiteSearch.Answer.Session

open Text

/-! ### Outcomes one after another -/

/-- An outcome with what follows it, unless it has failed. -/
def Outcome.andThen (first : Outcome) (next : Session → Outcome) : Outcome :=
  match first.result with
  | .error _ => first
  | .ok () =>
    let more := next first.session
    { more with calls := first.calls ++ more.calls }

theorem Outcome.andThen_assoc (first : Outcome) (next last : Session → Outcome) :
    (first.andThen next).andThen last = first.andThen fun s ↦ (next s).andThen last := by
  cases hfirst : first.result with
  | error failure => simp only [andThen, hfirst]
  | ok =>
    cases hnext : (next first.session).result with
    | error failure => simp only [andThen, hfirst, hnext]
    | ok => simp only [andThen, hfirst, hnext, List.append_assoc]

variable (s : Session) (style : Style)

/-! ### Messages and chunks -/

theorem acceptAll_nil : s.acceptAll style [] = ⟨s, [], .ok ()⟩ := rfl

theorem acceptAll_cons (payload : String) (rest : List String) :
    s.acceptAll style (payload :: rest) =
      (s.accept style payload).andThen fun s ↦ s.acceptAll style rest := rfl

theorem acceptAll_append (first second : List String) :
    s.acceptAll style (first ++ second) =
      (s.acceptAll style first).andThen fun s ↦ s.acceptAll style second := by
  induction first generalizing s with
  | nil => rfl
  | cons payload rest ih =>
    rw [List.cons_append, acceptAll_cons, acceptAll_cons, Outcome.andThen_assoc]
    simp only [ih]

theorem consume_cons (decoder : EventStream.Decoder) (chunk : List UInt8)
    (rest : List (List UInt8)) :
    s.consume style decoder (chunk :: rest) =
      (s.acceptAll style (messages (decoder.feed chunk).2)).andThen fun s ↦
        s.consume style (decoder.feed chunk).1 rest := rfl

theorem messages_append (first second : List EventStream.Event) :
    messages (first ++ second) = messages first ++ messages second := by
  simp [messages]

theorem consume_eq_acceptAll (decoder : EventStream.Decoder) (chunks : List (List UInt8)) :
    s.consume style decoder chunks =
      s.acceptAll style (messages (decoder.feedAll chunks).flatten) := by
  induction chunks generalizing s decoder with
  | nil => rfl
  | cons chunk rest ih =>
    rw [consume_cons, EventStream.Decoder.feedAll, List.flatten_cons, messages_append,
      acceptAll_append]
    simp only [ih]

/-- The data of the messages that a reply delivers: those of the text of the whole body, if the
reply reports success. -/
def delivered : Option Reply → List String
  | none => []
  | some r =>
    if r.succeeded then
      messages (EventStream.events (EventStream.dropMark (Utf8.decode r.body)))
    else []

/-- A reply is taken in as the messages that it delivers, whatever the chunks and the end of its
body. -/
theorem answer_eq_acceptAll (reply : Option Reply) :
    s.answer style reply = s.acceptAll style (delivered reply) := by
  cases reply with
  | none => rfl
  | some r =>
    cases h : r.succeeded with
    | false => simp [answer, delivered, h, acceptAll]
    | true =>
      have hevents := EventStream.feedAll_initial r.chunks
      rw [EventStream.linesEvents_empty] at hevents
      simp only [answer, delivered, h, if_true]
      rw [consume_eq_acceptAll, hevents]
      rfl

/-! ### The first message that carries no fragment -/

/-- The number of messages before the first that carries no fragment. -/
def intact (payloads : List String) : Nat :=
  payloads.findIdx fun payload ↦ (fragment? payload).isNone

/-- The fragments of the messages before the first that carries none. -/
def fragmentsOf (payloads : List String) : List String :=
  (payloads.take (intact payloads)).filterMap fragment?

/-- How a session ends on messages: it fails at the first that carries no fragment. -/
def verdict (payloads : List String) : Except Failure Unit :=
  match payloads[intact payloads]? with
  | some payload => .error (.fragment payload)
  | none => .ok ()

theorem intact_cons_none {payload : String} (h : fragment? payload = none) (rest : List String) :
    intact (payload :: rest) = 0 := by
  simp [intact, List.findIdx_cons, h]

theorem intact_cons_some {payload fragment : String} (h : fragment? payload = some fragment)
    (rest : List String) : intact (payload :: rest) = intact rest + 1 := by
  simp [intact, List.findIdx_cons, h]

/-- No message before the first that carries no fragment is passed over. -/
theorem map_take_intact (payloads : List String) :
    (payloads.take (intact payloads)).map fragment? = (fragmentsOf payloads).map some := by
  induction payloads with
  | nil => rfl
  | cons payload rest ih =>
    cases h : fragment? payload with
    | none => simp [fragmentsOf, intact_cons_none h]
    | some fragment =>
      rw [fragmentsOf] at ih
      simp [fragmentsOf, intact_cons_some h, h, ih]

/-- Messages are taken in up to the first that carries no fragment; what is behind it makes no
difference. -/
theorem acceptAll_eq (payloads : List String) :
    s.acceptAll style payloads =
      ⟨(s.extendAll style (fragmentsOf payloads)).1, (s.extendAll style (fragmentsOf payloads)).2,
        verdict payloads⟩ := by
  have hsplit : s.acceptAll style payloads =
      Outcome.andThen
        ⟨(s.extendAll style (fragmentsOf payloads)).1,
          (s.extendAll style (fragmentsOf payloads)).2, .ok ()⟩
        fun s ↦ s.acceptAll style (payloads.drop (intact payloads)) := by
    rw [← s.acceptAll_eq_extendAll style (map_take_intact payloads), ← acceptAll_append,
      List.take_append_drop]
  rw [hsplit, Outcome.andThen]
  by_cases hend : intact payloads < payloads.length
  · have hbad : fragment? payloads[intact payloads] = none :=
      Option.isNone_iff_eq_none.mp (List.findIdx_getElem (w := hend))
    simp only [List.drop_eq_getElem_cons hend, acceptAll_cons, accept, hbad, Outcome.andThen,
      verdict, List.getElem?_eq_getElem hend, List.append_nil]
  · have hlength : payloads.length ≤ intact payloads := Nat.le_of_not_lt hend
    simp only [List.drop_eq_nil_of_le hlength, acceptAll_nil, verdict,
      List.getElem?_eq_none hlength, List.append_nil]

/-! ### A whole run -/

theorem run_start_error (hidle : s.phase = .idle) {base : Url} {query : String} {failure : Failure}
    (h : Web.endpoint base Web.assistantPath (some query) = .error failure) (net : Network) :
    (s.start base style query).run net = ⟨[], [], (s.close, .error failure)⟩ := by
  rw [start, if_pos hidle, h]
  rfl

theorem run_start_ok (hidle : s.phase = .idle) {base : Url} {query : String} {url : Url}
    (h : Web.endpoint base Web.assistantPath (some query) = .ok url) (net : Network) :
    (s.start base style query).run net =
      let payloads := delivered (Web.reply net url)
      let (session, calls) := s.extendAll style (fragmentsOf payloads)
      ⟨if url.scheme = "http" then [url] else [], calls, (session.close, verdict payloads)⟩ := by
  rw [start, if_pos hidle, h]
  simp only [Flow.run_bind, Web.run_get, answer_eq_acceptAll, acceptAll_eq, Flow.run_calls,
    Flow.run_pure, extendAll_phase, List.append_nil, List.nil_append]
  rfl

theorem run_start_phase (hidle : s.phase = .idle) (base : Url) (query : String) (net : Network) :
    ((s.start base style query).run net).result.1.phase = .closed ∧
      ((s.start base style query).run net).result.1.display.panel =
        s.display.panel.applyAll ((s.start base style query).run net).calls := by
  cases hurl : Web.endpoint base Web.assistantPath (some query) with
  | error failure =>
    rw [run_start_error s style hidle hurl]
    exact ⟨rfl, rfl⟩
  | ok url =>
    rw [run_start_ok s style hidle hurl]
    exact ⟨rfl, (s.extendAll_spec style _).2.2.2⟩

end SiteSearch.Answer.Session
