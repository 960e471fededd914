import SiteSearch.Proofs.EventStream.Lines

/-!
# The events of a whole stream

An event stream as its format describes it, read from the whole text at once: lines that are empty
close blocks, a block is read through the fields of its lines (`field?`, `valuesOf`), and it gives
an event when the joined values of its `data` lines are not empty (`blockEvent?`). `events` reads a
text so. The draft that the decoder carries is that of the open block (`line_draftOf`), so the
decoder, fed any bytes in any chunks, gives the events of the text that the bytes stand for.
-/

set_option autoImplicit false
set_option relaxedAutoImplicit false

namespace SiteSearch.EventStream

open Text

/-! ### Fields and blocks -/

/-- A value without the blank at its front. -/
def dropBlank : List Char → List Char
  | ' ' :: s => s
  | s => s

/-- The field of a line, cut at the first colon; a line with a colon at its front is a comment and
has none, and a line without a colon is a field with an empty value. -/
def field? (line : List Char) : Option (String × String) :=
  let colon := line.idxOf ':'
  if colon = 0 then none
  else some (.ofList (line.take colon), .ofList (dropBlank (line.drop (colon + 1))))

/-- The values of the fields of that name among some lines, in order. -/
def valuesOf (name : String) (lines : List (List Char)) : List String :=
  ((lines.filterMap field?).filter fun field ↦ field.1 = name).map Prod.snd

/-- The identifiers among some lines: values of `id` lines without a NUL. -/
def identifiers (lines : List (List Char)) : List String :=
  (valuesOf "id" lines).filter fun value ↦ !value.toList.contains '\x00'

/-- The event of a block of lines, where `seen` are the lines of the stream up to its end: its data
are the values of the `data` lines, joined with line feeds, and it is no event when these are
empty. -/
def blockEvent? (seen block : List (List Char)) : Option Event :=
  let data := "\n".intercalate (valuesOf "data" block)
  if data = "" then none
  else some
    { kind := (valuesOf "event" block).getLast?.getD "", data,
      id := (identifiers seen).getLast? }

/-- The events of blocks, where `seen` are the lines of the stream before them. -/
def blockEvents (seen : List (List Char)) : List (List (List Char)) → List Event
  | [] => []
  | block :: rest =>
    (blockEvent? (seen ++ block) block).toList ++ blockEvents (seen ++ block) rest

/-- The blocks of a list of lines: what stands before each empty line, back to the one before. -/
def blocks (lines : List (List Char)) : List (List (List Char)) :=
  (lines.splitOnP List.isEmpty).dropLast

/-- The events of the text of a whole stream. -/
def events (text : List Char) : List Event :=
  blockEvents [] (blocks (lines text))

/-! ### Fields of the draft -/

theorem idxOf_cons {c : Char} (hc : c ≠ ':') (line : List Char) :
    (c :: line).idxOf ':' = line.idxOf ':' + 1 := by
  rw [List.idxOf_cons, beq_false_of_ne hc, cond_false]

theorem take_idxOf (line : List Char) :
    line.take (line.idxOf ':') = line.takeWhile (· ≠ ':') := by
  induction line with
  | nil => rfl
  | cons c line ih =>
    by_cases hc : c = ':'
    · simp [hc]
    · rw [idxOf_cons hc, List.take_succ_cons, ih, List.takeWhile_cons_of_pos (by simpa using hc)]

theorem drop_idxOf (line : List Char) :
    line.drop (line.idxOf ':') = line.dropWhile (· ≠ ':') := by
  induction line with
  | nil => rfl
  | cons c line ih =>
    by_cases hc : c = ':'
    · simp [hc]
    · rw [idxOf_cons hc, List.drop_succ_cons, ih, List.dropWhile_cons_of_pos (by simpa using hc)]

/-- The value behind the first colon, as `splitField` reads it. -/
theorem dropBlank_drop (line : List Char) :
    dropBlank (line.drop (line.idxOf ':' + 1)) = (match line.dropWhile (· ≠ ':') with
      | ':' :: ' ' :: value => value
      | ':' :: value => value
      | _ => []) := by
  rw [← List.drop_drop, drop_idxOf]
  have hhead := List.head?_dropWhile_not (· ≠ ':') line
  match hrest : line.dropWhile (· ≠ ':') with
  | [] => rfl
  | c :: rest =>
    rw [hrest, List.head?_cons] at hhead
    obtain rfl : c = ':' := by simpa using hhead
    rw [List.drop_succ_cons, List.drop_zero]
    unfold dropBlank
    split <;> simp_all

theorem field?_comment (line : List Char) : field? (':' :: line) = none := by
  simp [field?]

/-- A line that is neither empty nor a comment is cut as the format describes. -/
theorem field?_cons {c : Char} (hc : c ≠ ':') (line : List Char) :
    field? (c :: line) = some (splitField (c :: line)) := by
  have hcolon : (c :: line).idxOf ':' ≠ 0 := by
    rw [idxOf_cons hc]
    exact Nat.succ_ne_zero _
  refine (if_neg hcolon).trans (congrArg some (Prod.ext ?_ ?_))
  · exact congrArg String.ofList (take_idxOf _)
  · exact congrArg String.ofList (dropBlank_drop _)

/-- Lines that are not empty change the draft by their fields. -/
theorem line_of_ne_nil (d : Draft) {line : List Char} (h : line ≠ []) :
    d.line line = (match field? line with
      | some (name, value) => (d.field name value, none)
      | none => (d, none)) := by
  obtain ⟨c, line, rfl⟩ := List.exists_cons_of_ne_nil h
  by_cases hc : c = ':'
  · rw [hc, field?_comment]
    rfl
  · rw [field?_cons hc, Draft.line]
    · exact h
    · rintro t ht
      exact hc (List.cons.inj ht).1

/-! ### The draft of a block -/

theorem valuesOf_append (name : String) (first second : List (List Char)) :
    valuesOf name (first ++ second) = valuesOf name first ++ valuesOf name second := by
  simp [valuesOf]

theorem identifiers_append (first second : List (List Char)) :
    identifiers (first ++ second) = identifiers first ++ identifiers second := by
  simp [identifiers, valuesOf_append]

theorem valuesOf_comment {line : List Char} (h : field? line = none) (name : String) :
    valuesOf name [line] = [] := by
  simp [valuesOf, h]

theorem valuesOf_field {line : List Char} {name value : String}
    (h : field? line = some (name, value)) (wanted : String) :
    valuesOf wanted [line] = if name = wanted then [value] else [] := by
  by_cases hname : name = wanted <;> simp [valuesOf, h, hname]

/-- The draft that the lines of an open block leave, where `seen` are the lines of the stream. -/
def draftOf (seen block : List (List Char)) : Draft where
  kind := (valuesOf "event" block).getLast?.getD ""
  data := if valuesOf "data" block = [] then none else
    some ("\n".intercalate (valuesOf "data" block))
  id := (identifiers seen).getLast?

theorem event?_draftOf (seen block : List (List Char)) :
    (draftOf seen block).event? = blockEvent? seen block := by
  unfold draftOf Draft.event? blockEvent?
  by_cases hdata : valuesOf "data" block = []
  · simp [hdata]
  · simp only [if_neg hdata]

theorem line_draftOf_nil (seen block : List (List Char)) :
    (draftOf seen block).line [] = (draftOf seen [], blockEvent? seen block) := by
  rw [← event?_draftOf]
  rfl

theorem identifiers_singleton (line : List Char) :
    identifiers [line] = (valuesOf "id" [line]).filter fun value ↦ !value.toList.contains '\x00' :=
  rfl

/-- The field of a line changes the draft of a block to that of the block with the line. -/
theorem field_draftOf {line : List Char} {name value : String}
    (h : field? line = some (name, value)) (seen block : List (List Char)) :
    (draftOf seen block).field name value = draftOf (seen ++ [line]) (block ++ [line]) := by
  simp only [draftOf, Draft.field, valuesOf_append, identifiers_append, identifiers_singleton,
    valuesOf_field h]
  by_cases hdata : name = "data"
  · simp only [hdata, if_true, String.reduceEq, if_false, List.append_nil, List.filter_nil]
    by_cases hnone : valuesOf "data" block = []
    · simp [hnone]
    · simp [hnone, String.intercalate_append_of_ne_nil]
  by_cases hevent : name = "event"
  · simp [hevent]
  by_cases hid : name = "id"
  · by_cases hnul : '\x00' ∈ value.toList <;> simp [hid, hnul]
  · simp [hdata, hevent, hid]

/-- A line that is not empty joins the open block. -/
theorem line_draftOf {line : List Char} (h : line ≠ []) (seen block : List (List Char)) :
    (draftOf seen block).line line = (draftOf (seen ++ [line]) (block ++ [line]), none) := by
  rw [line_of_ne_nil _ h]
  cases hfield : field? line with
  | none =>
    simp only [draftOf, valuesOf_append, identifiers_append, identifiers_singleton,
      valuesOf_comment hfield, List.append_nil, List.filter_nil]
  | some field =>
    rw [← field_draftOf hfield]

/-! ### Streams -/

theorem modifyHead_nil_append {α : Type} (l : List (List α)) : l.modifyHead ([] ++ ·) = l := by
  cases l <;> rfl

/-- The lines that follow an open block complete the events of the blocks that they close, the open
block first. -/
theorem linesEvents_draftOf (before block rest : List (List Char)) :
    (draftOf (before ++ block) block).linesEvents rest =
      blockEvents before (((rest.splitOnP List.isEmpty).modifyHead (block ++ ·)).dropLast) := by
  induction rest generalizing before block with
  | nil => rfl
  | cons line rest ih =>
    rw [Draft.linesEvents, List.splitOnP_cons_eq_if_modifyHead]
    by_cases hline : line = []
    · have hnext := ih (before ++ block) []
      rw [List.append_nil, modifyHead_nil_append] at hnext
      rw [hline, line_draftOf_nil, hnext, List.isEmpty_nil, if_pos rfl, List.modifyHead_cons,
        List.dropLast_cons_of_ne_nil (List.splitOnP_ne_nil _ _), List.append_nil, blockEvents]
    · rw [line_draftOf hline, List.append_assoc, ih, if_neg (by simpa using hline),
        List.modifyHead_modifyHead]
      simp [Function.comp_def]

theorem linesEvents_empty (ls : List (List Char)) :
    Draft.empty.linesEvents ls = blockEvents [] (blocks ls) := by
  have h := linesEvents_draftOf [] [] ls
  rw [modifyHead_nil_append] at h
  exact h

/-- Bytes in any chunks give the events of the text that they stand for, read as a whole. There is
one such text: it has one replacement character for each maximal ill-formed piece, and a mark at its
front is dropped. -/
theorem feedAll_flatten_eq_events (chunks : List (List UInt8)) :
    ∃ text, (∀ t, Utf8.Reads chunks.flatten t ↔ t = text) ∧
      (Decoder.initial.feedAll chunks).flatten = events (dropMark text) := by
  refine ⟨Utf8.decode chunks.flatten, fun t ↦ Utf8.reads_iff, ?_⟩
  rw [feedAll_initial, linesEvents_empty, events]

end SiteSearch.EventStream
