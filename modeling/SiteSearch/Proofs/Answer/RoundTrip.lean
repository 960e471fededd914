import SiteSearch.Proofs.Answer.Delivery
import SiteSearch.Proofs.Json.Quoted

/-!
# Fragments on the wire

A site sends each fragment of an answer as a message of its own, whose data are the fragment as a
JSON string (`messageText`). The string has no control character, so it fills one line of the
stream, and reading the line gives it back (`linesEvents_messageText`); what the string stands for
is the fragment. The text of a session is therefore that of the fragments sent, whatever they hold
and wherever the chunks of the body are cut (`start_receives`).
-/

set_option autoImplicit false
set_option relaxedAutoImplicit false

namespace SiteSearch.EventStream

/-! ### One message -/

/-- A line with data. -/
def dataLine (payload : List Char) : List Char :=
  ['d', 'a', 't', 'a', ':', ' '] ++ payload

/-- The text of a message with such data. -/
def messageText (payload : List Char) : List Char :=
  dataLine payload ++ ['\n', '\n']

theorem not_mem_dataLine {c : Char} (hc : c.toNat < 0x20) {payload : List Char}
    (h : c ∉ payload) : c ∉ dataLine payload := by
  rw [dataLine, List.mem_append, not_or]
  refine ⟨fun hmem ↦ ?_, h⟩
  have hvisible : ∀ d ∈ ['d', 'a', 't', 'a', ':', ' '], 0x20 ≤ d.toNat := by simp
  exact Nat.not_le_of_lt hc (hvisible c hmem)

/-- A message without line ends in its data fills a line, and an empty line is behind it. -/
theorem lines_messageText {payload : List Char} (hreturn : '\r' ∉ payload) (hfeed : '\n' ∉ payload)
    (rest : List Char) :
    lines (messageText payload ++ rest) = dataLine payload :: [] :: lines rest := by
  rw [messageText, List.append_assoc, lines_append (not_mem_dataLine (by decide) hreturn)
    (not_mem_dataLine (by decide) hfeed)]
  change (lines ('\n' :: '\n' :: rest)).modifyHead _ = _
  rw [lines_feed, lines_feed, List.modifyHead_cons, List.append_nil]

theorem line_dataLine (payload : List Char) :
    Draft.empty.line (dataLine payload) =
      ({ Draft.empty with data := some (.ofList payload) }, none) := rfl

/-- A message of one line is the event with its data; nothing of it is left for the next. -/
theorem linesEvents_messageText {payload : List Char} (hreturn : '\r' ∉ payload)
    (hfeed : '\n' ∉ payload) (hpayload : payload ≠ []) (rest : List Char) :
    Draft.empty.linesEvents (lines (messageText payload ++ rest)) =
      ⟨"", .ofList payload, none⟩ :: Draft.empty.linesEvents (lines rest) := by
  have hdata : String.ofList payload ≠ "" := by
    simpa using hpayload
  have hempty : Draft.line { Draft.empty with data := some (.ofList payload) } [] =
      (Draft.empty, some ⟨"", .ofList payload, none⟩) := by
    simp only [Draft.line, Draft.event?, if_neg hdata]
    rfl
  rw [lines_messageText hreturn hfeed, Draft.linesEvents, line_dataLine, Draft.linesEvents, hempty]
  rfl

end SiteSearch.EventStream

namespace SiteSearch.Answer.Session

open EventStream Text

/-! ### The messages of an answer -/

/-- The text of an answer: a message for each fragment, with the fragment as a JSON string. -/
def answerText (fragments : List String) : List Char :=
  fragments.flatMap fun fragment ↦ messageText (Json.quote fragment)

theorem not_mem_quote {c : Char} (hc : c.toNat < 0x20) (s : String) : c ∉ Json.quote s :=
  fun h ↦ absurd (Json.le_of_mem_quote h) (Nat.not_le_of_lt hc)

theorem linesEvents_answerText (fragments : List String) :
    Draft.empty.linesEvents (lines (answerText fragments)) =
      fragments.map fun fragment ↦ ⟨"", .ofList (Json.quote fragment), none⟩ := by
  induction fragments with
  | nil => rfl
  | cons fragment rest ih =>
    rw [answerText, List.flatMap_cons, linesEvents_messageText (not_mem_quote (by decide) fragment)
      (not_mem_quote (by decide) fragment) (List.cons_ne_nil _ _), List.map_cons, ← ih]
    rfl

theorem dropMark_answerText (fragments : List String) :
    dropMark (answerText fragments) = answerText fragments := by
  cases fragments with
  | nil => rfl
  | cons fragment rest => rfl

theorem messages_map_plain (payloads : List String) :
    messages (payloads.map fun payload ↦ ⟨"", payload, none⟩) = payloads := by
  induction payloads with
  | nil => rfl
  | cons payload rest ih =>
    rw [messages] at ih ⊢
    rw [List.map_cons, List.filter_cons_of_pos rfl, List.map_cons, ih]

/-- A reply with the text of an answer delivers its fragments as JSON strings. -/
theorem delivered_answerText {r : Reply} (hok : r.succeeded = true) {fragments : List String}
    (hbody : r.body = Utf8.encode (answerText fragments)) :
    delivered (some r) = fragments.map fun fragment ↦ .ofList (Json.quote fragment) := by
  have hevents := linesEvents_answerText fragments
  rw [linesEvents_empty] at hevents
  rw [delivered, if_pos hok, hbody, Utf8.decode_encode, dropMark_answerText, events, hevents]
  exact Eq.trans (by rw [List.map_map]; rfl) (messages_map_plain _)

theorem fragment?_quote (fragment : String) :
    fragment? (.ofList (Json.quote fragment)) = some fragment :=
  Json.text?_read?_quote fragment

theorem map_fragment?_delivered {r : Reply} (hok : r.succeeded = true) {fragments : List String}
    (hbody : r.body = Utf8.encode (answerText fragments)) :
    (delivered (some r)).map fragment? = fragments.map some := by
  rw [delivered_answerText hok hbody, List.map_map]
  simp only [Function.comp_def, fragment?_quote]

/-- Messages that all carry a fragment are taken in to the end. -/
theorem fragmentsOf_of_forall_some {payloads fragments : List String}
    (h : payloads.map fragment? = fragments.map some) :
    fragmentsOf payloads = fragments ∧ verdict payloads = .ok () := by
  have hintact : intact payloads = payloads.length := by
    refine List.findIdx_eq_length.mpr fun payload hpayload ↦ ?_
    have hmem : fragment? payload ∈ fragments.map some := h ▸ List.mem_map_of_mem hpayload
    obtain ⟨fragment, -, hfragment⟩ := List.mem_map.mp hmem
    rw [← hfragment, Option.isNone_some]
  have htaken := map_take_intact payloads
  rw [hintact, List.take_length, h] at htaken
  refine ⟨((List.map_inj_right fun _ _ ↦ Option.some.inj).mp htaken).symm, ?_⟩
  rw [verdict, hintact, List.getElem?_eq_none (Nat.le_refl _)]

/-- A session that is sent fragments, each as a JSON string in a message of its own, receives them:
it ends without a failure, its text is what the fragments make when joined in order, and it has
counted all of them, the empty ones too. The body may arrive in any chunks, and its connection may
break off behind it. -/
theorem start_receives (panel : Panel) {base url : Url} {query : String} (style : Style)
    (net : Network) {r : Reply} (fragments : List String)
    (hurl : Web.endpoint base Web.assistantPath (some query) = .ok url)
    (hreply : Web.reply net url = some r) (hok : r.succeeded = true)
    (hbody : r.body = Utf8.encode (answerText fragments)) :
    let result := (((idle panel).start base style query).run net).result
    result.2 = .ok () ∧ result.1.text = String.join fragments ∧
      result.1.fragments = fragments.length := by
  obtain ⟨hfragments, hverdict⟩ := fragmentsOf_of_forall_some (map_fragment?_delivered hok hbody)
  obtain ⟨-, htext, hcount, -⟩ := (idle panel).extendAll_spec style fragments
  rw [run_start_ok (idle panel) style rfl hurl, hreply]
  simp only [hfragments, hverdict]
  exact ⟨trivial, htext.trans String.empty_append, hcount.trans (Nat.zero_add _)⟩

/-- Three fragments, one of them empty. Their body is cut behind the backslash of an escape and
inside the last character. -/
theorem start_receives_cut :
    let base : Url := ⟨"http", some ⟨"", none, .name "docs", none⟩, .segments [""], none, none⟩
    let r : Reply := ⟨200,
      ["data: \"Use\\".toUTF8.toList,
        "n\"\n\ndata: \"\"\n\ndata: \"".toUTF8.toList ++ [0xF0, 0x9F],
        [0x98, 0x80] ++ "\"\n\n".toUTF8.toList], true⟩
    let result := (((idle .initial).start base ⟨id, ⟨"", .empty⟩⟩ "join").run fun _ ↦ some r).result
    r.body = Utf8.encode (answerText ["Use\n", "", "😀"]) ∧
      result.2 = .ok () ∧ result.1.text = "Use\n😀" ∧ result.1.fragments = 3 := by
  intro base r result
  have hbody : r.body = Utf8.encode (answerText ["Use\n", "", "😀"]) := by decide +kernel
  have hurl : Web.endpoint base Web.assistantPath (some "join") =
      .ok ⟨"http", some ⟨"", none, .name "docs", none⟩, .segments ["api", "assistant"],
        some "query=join", none⟩ := rfl
  have hreceives :=
    start_receives .initial ⟨id, ⟨"", .empty⟩⟩ (fun _ ↦ some r) _ hurl rfl rfl hbody
  have hjoin : String.join ["Use\n", "", "😀"] = "Use\n😀" := by decide
  rw [hjoin] at hreceives
  exact ⟨hbody, hreceives⟩

end SiteSearch.Answer.Session
