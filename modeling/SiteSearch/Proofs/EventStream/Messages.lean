import Mathlib.Data.List.Chain
import SiteSearch.Proofs.EventStream.Blocks

/-!
# Messages on the wire

What is sent as events is what arrives. A message is written as a line with its identifier, if it
has one of its own, a line with its type, which may be left out when the type is empty, a line with
each line of its data, and an empty line (`Writes`). Comments may stand between any two lines
(`Commented`), and each line ends in LF, CRLF or CR (`Ending`); only a CR with an empty line behind
it that ends in LF would be read as one line end (`Apart`). However the bytes are then cut into
chunks, the decoder gives the messages back, each with the latest identifier written so far
(`feedAll_flatten_eq_received`).
-/

set_option autoImplicit false
set_option relaxedAutoImplicit false

namespace SiteSearch.EventStream

open Text

/-! ### Messages and their lines -/

/-- Whether a text has no line end. -/
def IsInline (s : List Char) : Prop :=
  '\r' ∉ s ∧ '\n' ∉ s

instance (s : List Char) : Decidable (IsInline s) :=
  inferInstanceAs (Decidable (_ ∧ _))

/-- An event as it is sent: its type, an identifier if it has one of its own, and its data. -/
structure Message where
  kind : String
  id : Option String
  data : String
  kind_inline : IsInline kind.toList
  id_inline : ∀ s ∈ id, IsInline s.toList ∧ '\x00' ∉ s.toList
  data_ne_empty : data ≠ ""
  data_noReturn : '\r' ∉ data.toList

/-- A line with a field: its name, a colon and a blank, its value. -/
def fieldLine (name : String) (value : List Char) : List Char :=
  name.toList ++ ':' :: ' ' :: value

namespace Message

variable (m : Message)

/-- The lines of the data. -/
def parts : List (List Char) :=
  m.data.toList.splitOn '\n'

/-- The lines with the fields of a message, with or without a line for its type. -/
def fields (typed : Bool) : List (List Char) :=
  (m.id.map fun s ↦ fieldLine "id" s.toList).toList ++
    (if typed then [fieldLine "event" m.kind.toList] else []) ++
    m.parts.map (fieldLine "data")

end Message

/-- The lines of messages one after another, an empty line behind each. An empty type need not be
written. -/
inductive Writes : List Message → List (List Char) → Prop
  | nil : Writes [] []
  | cons {m : Message} {ms : List Message} {ls : List (List Char)} (typed : Bool)
      (h : typed = true ∨ m.kind = "") (rest : Writes ms ls) :
      Writes (m :: ms) (m.fields typed ++ [] :: ls)

/-- The lines of the first list with comments at any places between them. -/
inductive Commented : List (List Char) → List (List Char) → Prop
  | nil : Commented [] []
  | line {ls ls' : List (List Char)} (line : List Char) (rest : Commented ls ls') :
      Commented (line :: ls) (line :: ls')
  | comment {ls ls' : List (List Char)} {text : List Char} (h : IsInline text)
      (rest : Commented ls ls') : Commented ls ((':' :: text) :: ls')

/-- What a line ends in. -/
inductive Ending where
  | feed
  | returnFeed
  | return
deriving DecidableEq, Repr

/-- The characters of a line end. -/
def Ending.chars : Ending → List Char
  | .feed => ['\n']
  | .returnFeed => ['\r', '\n']
  | .return => ['\r']

/-- Two lines whose ends do not run together: after a CR, an LF would end the same line. -/
def Apart (first second : List Char × Ending) : Prop :=
  ¬ (first.2 = .return ∧ second = ([], .feed))

/-- Lines with their ends as one text. -/
def wireText (ls : List (List Char × Ending)) : List Char :=
  ls.flatMap fun l ↦ l.1 ++ l.2.chars

/-- What is to arrive of messages: each with its type and its data, and with the latest identifier,
where `last` is the one before them. -/
def received (last : Option String) : List Message → List Event
  | [] => []
  | m :: rest => ⟨m.kind, m.data, m.id.or last⟩ :: received (m.id.or last) rest

/-! ### Lines on the wire -/

/-- A line as it may stand on the wire: it has no line end, and no mark at its front that a stream
could lose. -/
structure IsLine (s : List Char) : Prop where
  inline : IsInline s
  dropMark_eq : dropMark s = s

theorem IsInline.append {s t : List Char} (hs : IsInline s) (ht : IsInline t) :
    IsInline (s ++ t) := by
  refine ⟨fun h ↦ ?_, fun h ↦ ?_⟩
  · exact (List.mem_append.mp h).elim hs.1 ht.1
  · exact (List.mem_append.mp h).elim hs.2 ht.2

theorem isLine_comment {text : List Char} (h : IsInline text) : IsLine (':' :: text) :=
  ⟨IsInline.append (s := [':']) (by decide) h, rfl⟩

theorem isLine_fieldLine {name : String} (hname : name ∈ ["id", "event", "data"])
    {value : List Char} (h : IsInline value) : IsLine (fieldLine name value) := by
  have hfront : IsInline (name.toList ++ [':', ' ']) := by
    simp only [List.mem_cons, List.not_mem_nil, or_false] at hname
    obtain rfl | rfl | rfl := hname <;> decide
  refine ⟨?_, ?_⟩
  · have hline : fieldLine name value = (name.toList ++ [':', ' ']) ++ value := by
      simp [fieldLine]
    exact hline ▸ hfront.append h
  · simp only [List.mem_cons, List.not_mem_nil, or_false] at hname
    obtain rfl | rfl | rfl := hname <;> rfl

theorem mem_splitOn {s part : List Char} {c d : Char} (hpart : part ∈ s.splitOn d)
    (hc : c ∈ part) : c ∈ s ∧ c ≠ d := by
  induction s generalizing part with
  | nil => simp_all
  | cons a s ih =>
    rw [List.splitOn_cons_eq_if_modifyHead] at hpart
    split at hpart
    · next ha =>
      obtain rfl | hpart := List.mem_cons.mp hpart
      · cases hc
      · exact ⟨List.mem_cons_of_mem a (ih hpart hc).1, (ih hpart hc).2⟩
    · next ha =>
      obtain ⟨first, rest, hsplit⟩ := List.exists_cons_of_ne_nil (List.splitOn_ne_nil d s)
      rw [hsplit] at ih hpart
      obtain rfl | hpart := List.mem_cons.mp hpart
      · obtain rfl | hc := List.mem_cons.mp hc
        · exact ⟨List.mem_cons_self, by simpa using ha⟩
        · have hfirst := ih List.mem_cons_self hc
          exact ⟨List.mem_cons_of_mem a hfirst.1, hfirst.2⟩
      · have hlater := ih (List.mem_cons_of_mem first hpart) hc
        exact ⟨List.mem_cons_of_mem a hlater.1, hlater.2⟩

theorem Message.inline_of_mem_parts {m : Message} {part : List Char} (h : part ∈ m.parts) :
    IsInline part :=
  ⟨fun hreturn ↦ m.data_noReturn (mem_splitOn h hreturn).1, fun hfeed ↦ (mem_splitOn h hfeed).2 rfl⟩

theorem Message.isLine_of_mem_fields {m : Message} {typed : Bool} {line : List Char}
    (h : line ∈ m.fields typed) : IsLine line := by
  rw [Message.fields, List.mem_append, List.mem_append] at h
  obtain (hid | hkind) | hdata := h
  · obtain ⟨s, hs, rfl⟩ := Option.map_eq_some_iff.mp (Option.mem_toList.mp hid)
    exact isLine_fieldLine (by decide) (m.id_inline s hs).1
  · split at hkind
    · rw [List.mem_singleton.mp hkind]
      exact isLine_fieldLine (by decide) m.kind_inline
    · cases hkind
  · obtain ⟨part, hpart, rfl⟩ := List.mem_map.mp hdata
    exact isLine_fieldLine (by decide) (inline_of_mem_parts hpart)

theorem Writes.isLine {ms : List Message} {ls : List (List Char)} (h : Writes ms ls) :
    ∀ line ∈ ls, IsLine line := by
  induction h with
  | nil => simp
  | cons typed _ _ ih =>
    intro line hline
    obtain hline | hline := List.mem_append.mp hline
    · exact Message.isLine_of_mem_fields hline
    · obtain rfl | hline := List.mem_cons.mp hline
      · exact ⟨by decide, rfl⟩
      · exact ih line hline

theorem Commented.isLine {ls ls' : List (List Char)} (h : Commented ls ls')
    (hls : ∀ line ∈ ls, IsLine line) : ∀ line ∈ ls', IsLine line := by
  induction h with
  | nil => exact hls
  | line line _ ih =>
    rw [List.forall_mem_cons] at hls ⊢
    exact ⟨hls.1, ih hls.2⟩
  | comment htext _ ih =>
    rw [List.forall_mem_cons]
    exact ⟨isLine_comment htext, ih hls⟩

/-- A text behind a line that ends in CR starts with no LF that would belong to that end. -/
theorem dropFront_wireText {first : List Char} {ls : List (List Char × Ending)}
    (hls : ∀ l ∈ ls, IsLine l.1) (happart : ∀ l ∈ ls.head?, Apart (first, .return) l) :
    dropFront '\n' (wireText ls) = wireText ls := by
  cases ls with
  | nil => rfl
  | cons l ls =>
    obtain ⟨text, ending⟩ := l
    have happart := happart _ rfl
    have htext := (hls _ List.mem_cons_self).inline
    cases text with
    | cons c text =>
      have hc : c ≠ '\n' := fun h ↦ htext.2 (h ▸ List.mem_cons_self)
      simp [wireText, dropFront, hc]
    | nil =>
      cases ending with
      | feed => exact absurd ⟨rfl, rfl⟩ happart
      | returnFeed => rfl
      | «return» => rfl

/-- The lines of a text are the ones that it was made of. -/
theorem lines_wireText {ls : List (List Char × Ending)} (hls : ∀ l ∈ ls, IsLine l.1)
    (happart : ls.IsChain Apart) : lines (wireText ls) = ls.map Prod.fst := by
  induction ls with
  | nil => rfl
  | cons l ls ih =>
    obtain ⟨text, ending⟩ := l
    obtain ⟨hnext, hrest⟩ := List.isChain_cons.mp happart
    obtain ⟨⟨⟨hreturn, hfeed⟩, -⟩, hlater⟩ := List.forall_mem_cons.mp hls
    have ih := ih hlater hrest
    have hwire : wireText ((text, ending) :: ls) = text ++ (ending.chars ++ wireText ls) := by
      rw [wireText, List.flatMap_cons, List.append_assoc]
      rfl
    have hend : lines (ending.chars ++ wireText ls) = [] :: lines (wireText ls) := by
      cases ending with
      | feed => exact lines_feed _
      | returnFeed => exact lines_return _
      | «return» =>
        have hkept := dropFront_wireText hlater hnext
        exact (lines_return _).trans (congrArg (fun rest ↦ [] :: lines rest) hkept)
    rw [hwire, lines_append hreturn hfeed, hend, ih, List.modifyHead_cons, List.append_nil,
      List.map_cons]

theorem dropMark_wireText {ls : List (List Char × Ending)} (hls : ∀ l ∈ ls, IsLine l.1)
    (happart : ls.IsChain Apart) :
    lines (dropMark (wireText ls)) = ls.map Prod.fst := by
  rw [lines_dropMark, lines_wireText hls happart]
  cases ls with
  | nil => rfl
  | cons l ls => rw [List.map_cons, List.modifyHead_cons, (hls l List.mem_cons_self).dropMark_eq]

/-- Comments make no difference to the events. -/
theorem Commented.linesEvents_eq {ls ls' : List (List Char)} (h : Commented ls ls') (d : Draft) :
    d.linesEvents ls' = d.linesEvents ls := by
  induction h generalizing d with
  | nil => rfl
  | line line _ ih => rw [Draft.linesEvents, Draft.linesEvents, ih]
  | comment _ _ ih => exact ih d

/-! ### The values of fields -/

theorem field?_fieldLine {name : String} (hcolon : ':' ∉ name.toList) (hname : name.toList ≠ [])
    (value : List Char) : field? (fieldLine name value) = some (name, .ofList value) := by
  have hindex : (fieldLine name value).idxOf ':' = name.toList.length := by
    rw [fieldLine, List.idxOf_append, if_neg hcolon, List.idxOf_cons_self, Nat.zero_add]
  have hlength : name.toList.length ≠ 0 := fun h ↦ hname (List.length_eq_zero_iff.mp h)
  have htake : (fieldLine name value).take name.toList.length = name.toList :=
    List.take_left
  have hdrop : (fieldLine name value).drop (name.toList.length + 1) = ' ' :: value := by
    rw [fieldLine, ← List.drop_drop, List.drop_left]
    rfl
  simp only [field?, hindex, if_neg hlength, htake, hdrop, dropBlank, String.ofList_toList]

theorem fieldLine_ne_nil (name : String) (value : List Char) : fieldLine name value ≠ [] :=
  List.append_ne_nil_of_right_ne_nil _ (List.cons_ne_nil _ _)

theorem valuesOf_cons_fieldLine {name : String} (hcolon : ':' ∉ name.toList)
    (hname : name.toList ≠ []) (wanted : String) (value : List Char) (ls : List (List Char)) :
    valuesOf wanted (fieldLine name value :: ls) =
      (if name = wanted then [.ofList value] else []) ++ valuesOf wanted ls := by
  rw [← List.singleton_append, valuesOf_append,
    valuesOf_field (field?_fieldLine hcolon hname value)]

theorem valuesOf_map_dataLine (wanted : String) (parts : List (List Char)) :
    valuesOf wanted (parts.map (fieldLine "data")) =
      if "data" = wanted then parts.map .ofList else [] := by
  induction parts with
  | nil => simp [valuesOf]
  | cons part rest ih =>
    rw [List.map_cons, valuesOf_cons_fieldLine (by decide) (by decide), ih]
    split <;> rfl

theorem Message.intercalate_parts (m : Message) :
    "\n".intercalate (m.parts.map .ofList) = m.data := by
  rw [← String.toList_inj, String.toList_intercalate, List.map_map]
  have hsame : String.toList ∘ String.ofList = fun s ↦ s := funext fun _ ↦ String.toList_ofList
  rw [hsame, List.map_id']
  exact List.intercalate_splitOn '\n'

theorem Message.valuesOf_fields (m : Message) (typed : Bool) (wanted : String) :
    valuesOf wanted (m.fields typed) =
      (if "id" = wanted then m.id.toList else []) ++
        (if "event" = wanted ∧ typed = true then [m.kind] else []) ++
        if "data" = wanted then m.parts.map .ofList else [] := by
  have hnil : valuesOf wanted [] = [] := rfl
  have hid : valuesOf wanted (m.id.map fun s ↦ fieldLine "id" s.toList).toList =
      if "id" = wanted then m.id.toList else [] := by
    cases m.id with
    | none => simp [hnil]
    | some s =>
      rw [Option.map_some, Option.toList_some,
        valuesOf_cons_fieldLine (by decide) (by decide), hnil, String.ofList_toList]
      simp
  have hkind : valuesOf wanted (if typed then [fieldLine "event" m.kind.toList] else []) =
      if "event" = wanted ∧ typed = true then [m.kind] else [] := by
    cases typed with
    | false => simp [hnil]
    | true =>
      rw [if_pos rfl, valuesOf_cons_fieldLine (by decide) (by decide), hnil, String.ofList_toList]
      simp
  rw [Message.fields, valuesOf_append, valuesOf_append, hid, hkind, valuesOf_map_dataLine]

/-! ### The events of messages -/

/-- Lines of which none is empty, with an empty line behind them, are a block of their own. -/
theorem linesEvents_block {block : List (List Char)} (h : [] ∉ block)
    (seen before rest : List (List Char)) :
    (draftOf seen before).linesEvents (block ++ [] :: rest) =
      (blockEvent? (seen ++ block) (before ++ block)).toList ++
        (draftOf (seen ++ block) []).linesEvents rest := by
  induction block generalizing seen before with
  | nil =>
    rw [List.nil_append, Draft.linesEvents, line_draftOf_nil, List.append_nil, List.append_nil]
  | cons line block ih =>
    rw [List.mem_cons, not_or] at h
    rw [List.cons_append, Draft.linesEvents, line_draftOf (Ne.symm h.1), ih h.2,
      List.append_assoc, List.append_assoc]
    rfl

namespace Message

variable (m : Message) (typed : Bool)

theorem nil_notMem_fields : [] ∉ m.fields typed := by
  intro h
  rw [fields, List.mem_append, List.mem_append] at h
  obtain (hid | hkind) | hdata := h
  · obtain ⟨s, -, hs⟩ := Option.map_eq_some_iff.mp (Option.mem_toList.mp hid)
    exact fieldLine_ne_nil _ _ hs
  · split at hkind
    · exact fieldLine_ne_nil _ _ (List.mem_singleton.mp hkind).symm
    · cases hkind
  · obtain ⟨part, -, hpart⟩ := List.mem_map.mp hdata
    exact fieldLine_ne_nil _ _ hpart

theorem identifiers_fields : identifiers (m.fields typed) = m.id.toList := by
  rw [identifiers, valuesOf_fields]
  cases hid : m.id with
  | none => rfl
  | some s => simp [(m.id_inline s hid).2]

/-- The latest identifier once a message is written. -/
theorem getLast?_identifiers (seen : List (List Char)) :
    (identifiers (seen ++ m.fields typed)).getLast? = m.id.or (identifiers seen).getLast? := by
  rw [identifiers_append, identifiers_fields]
  cases m.id with
  | none => simp
  | some s => simp

variable {typed}

/-- A message is the event of its lines. -/
theorem blockEvent?_fields (h : typed = true ∨ m.kind = "") (seen : List (List Char)) :
    blockEvent? (seen ++ m.fields typed) (m.fields typed) =
      some ⟨m.kind, m.data, m.id.or (identifiers seen).getLast?⟩ := by
  have hdata : "\n".intercalate (valuesOf "data" (m.fields typed)) = m.data := by
    rw [valuesOf_fields]
    exact m.intercalate_parts
  have hkind : (valuesOf "event" (m.fields typed)).getLast?.getD "" = m.kind := by
    rw [valuesOf_fields]
    obtain rfl | hempty := h
    · rfl
    · cases typed
      · exact hempty.symm
      · rfl
  rw [blockEvent?, hdata, hkind, getLast?_identifiers]
  exact if_neg m.data_ne_empty

end Message

theorem Writes.linesEvents_eq {ms : List Message} {ls : List (List Char)} (h : Writes ms ls)
    (seen : List (List Char)) :
    (draftOf seen []).linesEvents ls = received (identifiers seen).getLast? ms := by
  induction h generalizing seen with
  | nil => rfl
  | @cons m ms ls typed htyped _ ih =>
    rw [linesEvents_block (m.nil_notMem_fields typed), List.nil_append,
      m.blockEvent?_fields htyped, ih, m.getLast?_identifiers]
    rfl

/-- Messages arrive as they are sent. They may be written with comments between any lines of
theirs, with any line ends that do not run together, and the bytes of the text may be cut into any
chunks: the events are the messages in order, each with its type, its data and the latest
identifier written so far. -/
theorem feedAll_flatten_eq_received {ms : List Message} {written : List (List Char)}
    {ls : List (List Char × Ending)} {chunks : List (List UInt8)} (hwritten : Writes ms written)
    (hcommented : Commented written (ls.map Prod.fst)) (happart : ls.IsChain Apart)
    (hbytes : chunks.flatten = Utf8.encode (wireText ls)) :
    (Decoder.initial.feedAll chunks).flatten = received none ms := by
  have hlines : ∀ l ∈ ls, IsLine l.1 := fun l hl ↦
    hcommented.isLine hwritten.isLine l.1 (List.mem_map_of_mem hl)
  rw [feedAll_initial, hbytes, Utf8.decode_encode, dropMark_wireText hlines happart,
    hcommented.linesEvents_eq]
  exact hwritten.linesEvents_eq []

/-- Two messages, the second without type and identifier, with three comments, one of them within
the data of the first. All three line ends occur, a CR with an empty line behind it that ends in
CRLF, and the bytes are cut inside a CRLF and inside a character. -/
theorem feedAll_flatten_eq_received_mixed :
    let first : Message := ⟨"note", some "7", "\n a: é", by decide, by simp [IsInline], by decide,
      by decide⟩
    let second : Message := ⟨"", none, ":", by decide, by simp, by decide, by decide⟩
    let written := first.fields true ++ [] :: (second.fields false ++ [[]])
    let ls : List (List Char × Ending) :=
      [(": hello".toList, .return), ("id: 7".toList, .returnFeed), ("event: note".toList, .feed),
        ("data: ".toList, .return), (":".toList, .feed), ("data:  a: é".toList, .return),
        ([], .returnFeed), ("data: :".toList, .feed), ([], .feed), (": end".toList, .return)]
    let chunks : List (List UInt8) :=
      [": hello\rid: 7\r".toUTF8.toList,
        "\nevent: note\ndata: \r:\ndata:  a: ".toUTF8.toList ++ [0xC3],
        0xA9 :: "\r\r\ndata: :\n\n: end\r".toUTF8.toList]
    Writes [first, second] written ∧ Commented written (ls.map Prod.fst) ∧ ls.IsChain Apart ∧
      chunks.flatten = Utf8.encode (wireText ls) ∧
      (Decoder.initial.feedAll chunks).flatten =
        [⟨"note", "\n a: é", some "7"⟩, ⟨"", ":", some "7"⟩] := by
  intro first second written ls chunks
  have hwritten : Writes [first, second] written :=
    .cons true (.inl rfl) (.cons false (.inr rfl) .nil)
  have hlines : written = ["id: 7".toList, "event: note".toList, "data: ".toList,
      "data:  a: é".toList, [], "data: :".toList, []] := by decide
  have hcommented : Commented written (ls.map Prod.fst) := by
    rw [hlines]
    exact .comment (by decide) (.line _ (.line _ (.line _ (.comment (by decide) (.line _ (.line _
      (.line _ (.line _ (.comment (by decide) .nil)))))))))
  have happart : ls.IsChain Apart := by
    simp [ls, List.isChain_cons, Apart]
  have hbytes : chunks.flatten = Utf8.encode (wireText ls) := by decide +kernel
  exact ⟨hwritten, hcommented, happart, hbytes,
    feedAll_flatten_eq_received hwritten hcommented happart hbytes⟩

end SiteSearch.EventStream
