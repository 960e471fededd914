import SiteSearch.EventStream
import SiteSearch.Proofs.Text.Decoding

/-!
# The lines of a stream

`lines` cuts a whole text at CRLF, LF and CR. The decoder cuts bytes instead, decodes each line by
itself and carries what is unfinished from chunk to chunk; the lines that it takes in are the lines
of the decoded text all the same (`feed_eq_linesEvents`). What one byte does to the lines still to
come is `byte_cases`, and `feedAll_flatten` says that chunks do not matter.
-/

set_option autoImplicit false
set_option relaxedAutoImplicit false

namespace SiteSearch.EventStream

open Text

/-! ### Lines of a text -/

/-- The pieces of a text between its line ends, which are CRLF, LF and CR; the last piece is not
ended. -/
def pieces : List Char → List (List Char)
  | [] => [[]]
  | '\r' :: '\n' :: s => [] :: pieces s
  | '\r' :: s => [] :: pieces s
  | '\n' :: s => [] :: pieces s
  | c :: s => (pieces s).modifyHead (c :: ·)

/-- The lines of a text: its pieces that are ended. -/
def lines (s : List Char) : List (List Char) :=
  (pieces s).dropLast

/-- A list without an element at its front. -/
def dropFront {α : Type} [DecidableEq α] (a : α) : List α → List α
  | [] => []
  | b :: s => if b = a then s else b :: s

/-- What the first character of a text does to its pieces. -/
theorem pieces_cons (c : Char) (s : List Char) :
    pieces (c :: s) =
      if c = '\r' then [] :: pieces (dropFront '\n' s)
      else if c = '\n' then [] :: pieces s
      else (pieces s).modifyHead (c :: ·) := by
  by_cases hreturn : c = '\r'
  · rw [hreturn, if_pos rfl]
    cases s with
    | nil => rfl
    | cons d s =>
      by_cases hd : d = '\n'
      · rw [hd]
        rfl
      · rw [pieces, dropFront, if_neg hd]
        rintro t ht
        exact hd (List.cons.inj ht).1
  by_cases hfeed : c = '\n'
  · rw [hfeed]
    rfl
  rw [if_neg hreturn, if_neg hfeed, pieces]
  · exact fun _ hc _ ↦ hreturn hc
  · exact hreturn
  · exact hfeed

theorem pieces_ne_nil (s : List Char) : pieces s ≠ [] := by
  induction s with
  | nil => exact List.cons_ne_nil [] []
  | cons c s ih =>
    rw [pieces_cons]
    split
    · exact List.cons_ne_nil _ _
    split
    · exact List.cons_ne_nil _ _
    · rwa [ne_eq, List.modifyHead_eq_nil_iff]

theorem dropLast_pieces_modifyHead (f : List Char → List Char) (s : List Char) :
    ((pieces s).modifyHead f).dropLast = (lines s).modifyHead f := by
  rw [lines]
  match pieces s with
  | [] => rfl
  | [_] => rfl
  | _ :: _ :: _ => rfl

theorem lines_cons {c : Char} (hreturn : c ≠ '\r') (hfeed : c ≠ '\n') (s : List Char) :
    lines (c :: s) = (lines s).modifyHead (c :: ·) := by
  rw [lines, pieces_cons, if_neg hreturn, if_neg hfeed, dropLast_pieces_modifyHead]

theorem lines_feed (s : List Char) : lines ('\n' :: s) = [] :: lines s := by
  have hpieces : pieces ('\n' :: s) = [] :: pieces s := rfl
  rw [lines, hpieces, List.dropLast_cons_of_ne_nil (pieces_ne_nil s), lines]

theorem lines_return (s : List Char) : lines ('\r' :: s) = [] :: lines (dropFront '\n' s) := by
  rw [lines, pieces_cons, if_pos rfl, List.dropLast_cons_of_ne_nil (pieces_ne_nil _), lines]

/-- A text without line ends lengthens the line behind it. -/
theorem lines_append {p : List Char} (hreturn : '\r' ∉ p) (hfeed : '\n' ∉ p) (s : List Char) :
    lines (p ++ s) = (lines s).modifyHead (p ++ ·) := by
  induction p with
  | nil => cases hs : lines s <;> simp [hs]
  | cons c p ih =>
    rw [List.mem_cons, not_or] at hreturn hfeed
    rw [List.cons_append, lines_cons (Ne.symm hreturn.1) (Ne.symm hfeed.1),
      ih hreturn.2 hfeed.2, List.modifyHead_modifyHead]
    rfl

theorem dropMark_cons {c : Char} (h : c ≠ '\uFEFF') (s : List Char) :
    dropMark (c :: s) = c :: s := by
  rw [dropMark]
  rintro t ht
  exact h (List.cons.inj ht).1

/-- A mark at the front of a text is a mark at the front of its first line. -/
theorem lines_dropMark (s : List Char) : lines (dropMark s) = (lines s).modifyHead dropMark := by
  cases s with
  | nil => rfl
  | cons c s =>
    by_cases hmark : c = '\uFEFF'
    · rw [hmark, lines_cons (by decide) (by decide), List.modifyHead_modifyHead]
      cases hs : lines s <;> simp [dropMark, hs]
    · rw [dropMark_cons hmark]
      by_cases hreturn : c = '\r'
      · rw [hreturn, lines_return]
        rfl
      by_cases hfeed : c = '\n'
      · rw [hfeed, lines_feed]
        rfl
      · rw [lines_cons hreturn hfeed, List.modifyHead_modifyHead]
        cases lines s with
        | nil => rfl
        | cons line rest =>
          change (c :: line) :: rest = dropMark (c :: line) :: rest
          rw [dropMark_cons hmark]

/-! ### Lines still to come -/

/-- The events that lines complete, one after another. -/
def Draft.linesEvents (d : Draft) : List (List Char) → List Event
  | [] => []
  | line :: rest => (d.line line).2.toList ++ (d.line line).1.linesEvents rest

/-- The text of a stream from the unfinished line on. -/
def Decoder.textFrom (d : Decoder) (s : List UInt8) : List Char :=
  Utf8.decode (d.pending.reverse ++ if d.afterReturn then dropFront 0x0A s else s)

/-- The lines of a stream from the unfinished one on. -/
def Decoder.linesFrom (d : Decoder) (s : List UInt8) : List (List Char) :=
  if d.started then lines (d.textFrom s) else lines (dropMark (d.textFrom s))

/-- What holds between two bytes: no line end is pending, and nothing is after a return. -/
structure Decoder.Settled (d : Decoder) : Prop where
  not_end : ∀ b ∈ d.pending, b ≠ 0x0A ∧ b ≠ 0x0D
  pending_eq_nil : d.afterReturn = true → d.pending = []

theorem decode_dropFront (s : List UInt8) :
    Utf8.decode (dropFront 0x0A s) = dropFront '\n' (Utf8.decode s) := by
  cases s with
  | nil => rfl
  | cons b s =>
    by_cases hb : b = 0x0A
    · rw [hb, dropFront, if_pos rfl, Utf8.decode_cons_ascii (by decide)]
      rfl
    · rw [dropFront, if_neg hb]
      cases ht : Utf8.decode (b :: s) with
      | nil => rfl
      | cons c t =>
        rw [dropFront, if_neg]
        rintro rfl
        have hhead := Utf8.head?_of_head?_decode (c := '\n') (by decide)
          (by rw [ht, List.head?_cons] : (Utf8.decode (b :: s)).head? = some '\n')
        exact hb (Option.some.inj hhead)

theorem decode_pending_noEnd {d : Decoder} (hd : d.Settled) :
    '\r' ∉ Utf8.decode d.pending.reverse ∧ '\n' ∉ Utf8.decode d.pending.reverse := by
  refine ⟨fun h ↦ ?_, fun h ↦ ?_⟩
  · have hmem := Utf8.mem_of_mem_decode (by decide) h
    exact (hd.not_end _ (List.mem_reverse.mp hmem)).2 rfl
  · have hmem := Utf8.mem_of_mem_decode (by decide) h
    exact (hd.not_end _ (List.mem_reverse.mp hmem)).1 rfl

theorem linesFrom_nil {d : Decoder} (hd : d.Settled) : d.linesFrom [] = [] := by
  obtain ⟨hreturn, hfeed⟩ := decode_pending_noEnd hd
  have hrest : lines (d.textFrom []) = [] := by
    have htext : d.textFrom [] = Utf8.decode d.pending.reverse ++ [] := by
      simp [Decoder.textFrom, dropFront]
    rw [htext, lines_append hreturn hfeed]
    rfl
  rw [Decoder.linesFrom, lines_dropMark, hrest]
  split <;> rfl

theorem textFrom_of_end {d : Decoder} {b : UInt8} (hb : b = 0x0A ∨ b = 0x0D)
    (hskip : ¬ (d.afterReturn = true ∧ b = 0x0A)) (s : List UInt8) :
    d.textFrom (b :: s) = Utf8.decode d.pending.reverse ++ Char.ofNat b.toNat :: Utf8.decode s := by
  have hkeep : (if d.afterReturn then dropFront 0x0A (b :: s) else b :: s) = b :: s := by
    split
    · rename_i hreturn
      rw [dropFront, if_neg fun h ↦ hskip ⟨hreturn, h⟩]
    · rfl
  rw [Decoder.textFrom, hkeep, Utf8.decode_append_ascii]
  rcases hb with rfl | rfl <;> decide

/-- A byte that ends a line: the pending bytes are the line, and the lines behind it are left. -/
theorem linesFrom_of_end {d : Decoder} (hd : d.Settled) {b : UInt8} (hb : b = 0x0A ∨ b = 0x0D)
    (hskip : ¬ (d.afterReturn = true ∧ b = 0x0A)) (s : List UInt8) :
    d.linesFrom (b :: s) =
      (if d.started then Utf8.decode d.pending.reverse
        else dropMark (Utf8.decode d.pending.reverse)) ::
      ({ d with afterReturn := b = 0x0D }.endLine).1.linesFrom s := by
  obtain ⟨hreturn, hfeed⟩ := decode_pending_noEnd hd
  have hrest : lines (d.textFrom (b :: s)) = Utf8.decode d.pending.reverse ::
      ({ d with afterReturn := b = 0x0D }.endLine).1.linesFrom s := by
    rw [textFrom_of_end hb hskip, lines_append hreturn hfeed]
    rcases hb with rfl | rfl
    · change (lines ('\n' :: _)).modifyHead _ = _
      rw [lines_feed]
      simp [Decoder.linesFrom, Decoder.endLine, Decoder.textFrom]
    · change (lines ('\r' :: _)).modifyHead _ = _
      rw [lines_return]
      simp [Decoder.linesFrom, Decoder.endLine, Decoder.textFrom, decode_dropFront]
  rw [Decoder.linesFrom, lines_dropMark, hrest]
  split <;> rfl

/-- What one byte does: it ends a line, which the draft takes in, or it ends none and changes
neither the draft nor the lines still to come. -/
theorem byte_cases {d : Decoder} (hd : d.Settled) (b : UInt8) (s : List UInt8) :
    (d.byte b).1.Settled ∧
      ((d.byte b).2 = none ∧ (d.byte b).1.draft = d.draft ∧
          d.linesFrom (b :: s) = (d.byte b).1.linesFrom s ∨
        ∃ line, d.linesFrom (b :: s) = line :: (d.byte b).1.linesFrom s ∧
          d.draft.line line = ((d.byte b).1.draft, (d.byte b).2)) := by
  by_cases hskip : d.afterReturn = true ∧ b = 0x0A
  · have hbyte : d.byte b = ({ d with afterReturn := false }, none) := by
      simp [Decoder.byte, hskip]
    rw [hbyte]
    refine ⟨⟨hd.not_end, by simp⟩, .inl ⟨rfl, rfl, ?_⟩⟩
    have htext : d.textFrom (b :: s) = { d with afterReturn := false }.textFrom s := by
      simp [Decoder.textFrom, hskip, dropFront]
    rw [Decoder.linesFrom, htext]
    rfl
  by_cases hb : b = 0x0A ∨ b = 0x0D
  · have hbyte : d.byte b = { d with afterReturn := b = 0x0D }.endLine := by
      rw [Decoder.byte, if_neg (by simpa using hskip), if_pos (by simpa using hb)]
    rw [hbyte]
    refine ⟨⟨by simp [Decoder.endLine], fun _ ↦ rfl⟩, .inr ⟨_, linesFrom_of_end hd hb hskip s, ?_⟩⟩
    rfl
  · have hbyte : d.byte b = ({ d with pending := b :: d.pending, afterReturn := false }, none) := by
      rw [Decoder.byte, if_neg (by simpa using hskip), if_neg (by simpa using hb)]
    rw [not_or] at hb
    rw [hbyte]
    refine ⟨⟨?_, by simp⟩, .inl ⟨rfl, rfl, ?_⟩⟩
    · rintro a ha
      rcases List.mem_cons.mp ha with rfl | ha
      · exact hb
      · exact hd.not_end a ha
    · have htext : d.textFrom (b :: s) =
          { d with pending := b :: d.pending, afterReturn := false }.textFrom s := by
        simp [Decoder.textFrom, dropFront, hb.1]
      rw [Decoder.linesFrom, htext]
      rfl

theorem feed_cons (d : Decoder) (b : UInt8) (s : List UInt8) :
    d.feed (b :: s) = (((d.byte b).1.feed s).1, (d.byte b).2.toList ++ ((d.byte b).1.feed s).2) :=
  rfl

/-- A chunk completes the events of the lines that it ends. -/
theorem feed_eq_linesEvents (s : List UInt8) {d : Decoder} (hd : d.Settled) :
    (d.feed s).2 = d.draft.linesEvents (d.linesFrom s) := by
  induction s generalizing d with
  | nil =>
    rw [linesFrom_nil hd]
    rfl
  | cons b s ih =>
    obtain ⟨hsettled, hcases⟩ := byte_cases hd b s
    rw [feed_cons, ih hsettled]
    rcases hcases with ⟨hevent, hdraft, hlines⟩ | ⟨line, hlines, hline⟩
    · rw [hlines, hevent, hdraft]
      rfl
    · rw [hlines, Draft.linesEvents, hline]

/-! ### Chunks -/

theorem feed_append (d : Decoder) (s t : List UInt8) :
    d.feed (s ++ t) =
      (((d.feed s).1.feed t).1, (d.feed s).2 ++ ((d.feed s).1.feed t).2) := by
  induction s generalizing d with
  | nil => rfl
  | cons b s ih =>
    rw [List.cons_append, feed_cons, feed_cons, ih, List.append_assoc]

/-- The chunks in which bytes arrive make no difference to the events. -/
theorem feedAll_flatten (d : Decoder) (chunks : List (List UInt8)) :
    (d.feedAll chunks).flatten = (d.feed chunks.flatten).2 := by
  induction chunks generalizing d with
  | nil => rfl
  | cons chunk chunks ih =>
    rw [Decoder.feedAll, List.flatten_cons, List.flatten_cons, feed_append, ih]

/-- The events of a stream are those of the lines of its text, a mark at the front dropped. -/
theorem feedAll_initial (chunks : List (List UInt8)) :
    (Decoder.initial.feedAll chunks).flatten =
      Draft.empty.linesEvents (lines (dropMark (Utf8.decode chunks.flatten))) := by
  have hsettled : Decoder.initial.Settled := ⟨by simp [Decoder.initial], by simp [Decoder.initial]⟩
  rw [feedAll_flatten, feed_eq_linesEvents _ hsettled]
  simp [Decoder.linesFrom, Decoder.textFrom, Decoder.initial]

end SiteSearch.EventStream
