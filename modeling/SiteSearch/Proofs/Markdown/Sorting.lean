import SiteSearch.Markdown.Document

/-!
# The blocks that are read

A heading is read with one of the levels from one to six. What holds of all blocks sorted so far,
inside of open frames and outside, is kept by each step of the sorting, and so holds of the blocks
of the whole document (`proper_of_mem_readDocument`).
-/

set_option autoImplicit false
set_option relaxedAutoImplicit false

namespace SiteSearch.Markdown

/-- A block whose headings, and those of the blocks inside it, have levels from one to six. -/
inductive Block.Proper : Block → Prop where
  | paragraph (task : Option Bool) (s : List Char) : Proper (.paragraph task s)
  | task (checked : Bool) : Proper (.task checked)
  | heading (level : Nat) (task : Option Bool) (s : List Char) (low : 1 ≤ level)
      (high : level ≤ 6) : Proper (.heading level task s)
  | rule : Proper .rule
  | code (language s : List Char) : Proper (.code language s)
  | html (s : List Char) : Proper (.html s)
  | quote (content : List Block) (inner : ∀ b ∈ content, Proper b) : Proper (.quote content)
  | list (start : Option Nat) (tight : Bool) (items : List (List Block))
      (inner : ∀ item ∈ items, ∀ b ∈ item, Proper b) : Proper (.list start tight items)
  | table (columns : List Alignment) (header : List (List Char))
      (rows : List (List (List Char))) : Proper (.table columns header rows)

/-- A frame whose content has only such blocks. -/
def Frame.Proper : Frame → Prop
  | .quote content => ∀ b ∈ content, b.Proper
  | .list _ _ _ items => ∀ item ∈ items, ∀ b ∈ item, b.Proper
  | .item _ content => ∀ b ∈ content, b.Proper

namespace Sorting

/-- A sorting that has found only such blocks. -/
structure Proper (st : Sorting) : Prop where
  frames : ∀ f ∈ st.frames, f.Proper
  finished : ∀ b ∈ st.finished, b.Proper

variable {st : Sorting}

/-! ### Steps of the sorting -/

theorem proper_initial : initial.Proper :=
  ⟨fun _ h ↦ (List.not_mem_nil h).elim, fun _ h ↦ (List.not_mem_nil h).elim⟩

/-- Only the frames and the finished blocks matter. -/
theorem Proper.congr (h : st.Proper) {st' : Sorting} (hframes : st'.frames = st.frames)
    (hfinished : st'.finished = st.finished) : st'.Proper :=
  ⟨hframes ▸ h.frames, hfinished ▸ h.finished⟩

theorem Proper.enter (h : st.Proper) {f : Frame} (hf : f.Proper) : (st.enter f).Proper :=
  ⟨List.forall_mem_cons.mpr ⟨hf, h.frames⟩, h.finished⟩

theorem Proper.tail (h : st.Proper) {f : Frame} {frames : List Frame}
    (hst : st.frames = f :: frames) : f.Proper ∧ { st with frames }.Proper := by
  have hframes := h.frames
  rw [hst, List.forall_mem_cons] at hframes
  exact ⟨hframes.1, hframes.2, h.finished⟩

theorem Proper.add (h : st.Proper) {b : Block} (hb : b.Proper) : (st.add b).Proper := by
  unfold Sorting.add
  split
  · exact ⟨h.frames, List.forall_mem_cons.mpr ⟨hb, h.finished⟩⟩
  · next content frames hst =>
    obtain ⟨hf, hrest⟩ := h.tail hst
    exact hrest.enter (f := .quote (b :: content)) (List.forall_mem_cons.mpr ⟨hb, hf⟩)
  · next indent content frames hst =>
    obtain ⟨hf, hrest⟩ := h.tail hst
    exact hrest.enter (f := .item indent (b :: content)) (List.forall_mem_cons.mpr ⟨hb, hf⟩)
  · next mark start tight items frames hst =>
    obtain ⟨hf, hrest⟩ := h.tail hst
    exact hrest.enter (f := .list mark start tight ([b] :: items))
      (List.forall_mem_cons.mpr ⟨List.forall_mem_singleton.mpr hb, hf⟩)

theorem Proper.close (h : st.Proper) : st.close.Proper := by
  unfold Sorting.close
  split
  · exact h
  · next content frames hst =>
    obtain ⟨hf, hrest⟩ := h.tail hst
    exact hrest.add (.quote _ fun b hb ↦ hf b (List.mem_reverse.mp hb))
  · next mark start tight items frames hst =>
    obtain ⟨hf, hrest⟩ := h.tail hst
    exact hrest.add (.list _ _ _ fun item hitem ↦ hf item (List.mem_reverse.mp hitem))
  · next indent content mark start tight items frames hst =>
    obtain ⟨hitem, hrest⟩ := h.tail hst
    obtain ⟨hlist, hrest⟩ := hrest.tail rfl
    refine hrest.enter (f := .list mark start tight (content.reverse :: items)) ?_
    exact List.forall_mem_cons.mpr ⟨fun b hb ↦ hitem b (List.mem_reverse.mp hb), hlist⟩
  · next indent content frames hlist hst =>
    obtain ⟨hf, hrest⟩ := h.tail hst
    refine hrest.add (.list _ _ _ (List.forall_mem_singleton.mpr fun b hb ↦ ?_))
    exact hf b (List.mem_reverse.mp hb)

theorem Proper.closeMany (h : st.Proper) (n : Nat) : (st.closeMany n).Proper := by
  induction n generalizing st with
  | zero => exact h
  | succ n ih => exact ih h.close

theorem Proper.closeHollow (h : st.Proper) : st.closeHollow.Proper := by
  have hsame : { st with hollow := false }.Proper := h.congr rfl rfl
  unfold Sorting.closeHollow
  dsimp only
  repeat' split
  · exact hsame.close
  · exact hsame
  · exact hsame

theorem Proper.loosen (h : st.Proper) : st.loosen.Proper := by
  unfold Sorting.loosen
  split
  · split
    · next f mark start tight items frames hst =>
      obtain ⟨hf, hrest⟩ := h.tail hst
      obtain ⟨hlist, hrest⟩ := hrest.tail rfl
      have hloose := hrest.enter (f := .list mark start false items) hlist
      exact (hloose.enter hf).congr rfl rfl
    · exact h.congr rfl rfl
  · exact h

theorem Proper.endList (h : st.Proper) : st.endList.Proper := by
  unfold Sorting.endList
  dsimp only
  split
  · exact h.closeHollow.close.loosen
  · exact h.closeHollow.loosen

theorem Proper.continueList (h : st.Proper) (mark : Char) (start : Option Nat) :
    (st.continueList mark start).Proper := by
  have hempty : (Frame.list mark start true []).Proper := fun _ hitem ↦
    (List.not_mem_nil hitem).elim
  have hbegun {st' : Sorting} (h' : st'.Proper) :
      { st'.enter (.list mark start true []) with blank := false }.Proper :=
    (h'.enter hempty).congr rfl rfl
  unfold Sorting.continueList
  dsimp only
  split
  · next mark' start' tight items frames hst =>
    split
    · obtain ⟨hf, hrest⟩ := h.closeHollow.tail hst
      have hgoing := hrest.enter (f := .list mark' start' (tight && !st.closeHollow.blank) items) hf
      exact hgoing.congr rfl rfl
    · exact hbegun h.closeHollow.endList
  · exact hbegun h.closeHollow
  · exact hbegun h.closeHollow.endList

theorem Proper.noteBlank (h : st.Proper) : st.noteBlank.Proper := by
  unfold Sorting.noteBlank
  split
  · exact h
  · next indent content frames hst =>
    obtain ⟨hf, hrest⟩ := h.tail hst
    have hnoted := hrest.enter (f := .item (if st.hollow = true then 0 else indent) content) hf
    exact hnoted.congr rfl rfl
  · exact h.congr rfl rfl

theorem Proper.blocks (h : st.Proper) : ∀ b ∈ st.blocks, b.Proper := fun b hb ↦
  (h.closeMany _).finished b (List.mem_reverse.mp hb)

end Sorting

/-! ### Reading -/

theorem level_of_headingLevel? {s : List Char} {level : Nat} (h : headingLevel? s = some level) :
    1 ≤ level ∧ level ≤ 6 := by
  rw [headingLevel?, Option.ite_none_right_eq_some] at h
  obtain ⟨hlevel, hsome⟩ := h
  obtain rfl := Option.some.inj hsome
  simp only [Bool.and_eq_true, decide_eq_true_eq] at hlevel
  exact hlevel.1

theorem level_of_underlineLevel? {s rest : List Char} {level : Nat}
    (h : underlineLevel? s = some (level, rest)) : 1 ≤ level ∧ level ≤ 6 := by
  unfold underlineLevel? at h
  dsimp only at h
  split at h
  · rw [Option.ite_none_right_eq_some, Option.map_eq_some_iff] at h
    obtain ⟨-, _, -, heq⟩ := h
    obtain ⟨rfl, -⟩ := Prod.mk.inj heq
    split <;> decide
  · cases h

theorem level_of_readParagraph (st : Sorting) (fuel : Nat) {s : List Char} {level : Nat}
    (h : (readParagraph st fuel s).2.1 = some level) : 1 ≤ level ∧ level ≤ 6 := by
  induction fuel generalizing s with
  | zero => cases h
  | succ fuel ih =>
    unfold readParagraph at h
    dsimp only at h
    split at h
    · cases h
    · split at h
      · next underlined hunderlined =>
        cases h
        rw [Option.ite_none_right_eq_some] at hunderlined
        exact level_of_underlineLevel? hunderlined.2
      · split at h
        · cases h
        · split at h
          · cases h
          · exact ih h

theorem proper_readText (st : Sorting) (s : List Char) : (readText st s).1.Proper := by
  unfold readText
  split
  · exact .table _ _ _
  · dsimp only
    split
    · next level hlevel =>
      obtain ⟨hlow, hhigh⟩ := level_of_readParagraph st _ hlevel
      exact .heading _ _ _ hlow hhigh
    · exact .paragraph _ _

theorem proper_readMarked? {st : Sorting} {owed indent : Nat} {s rest : List Char} {b : Block}
    (h : readMarked? st owed indent s = some (b, rest)) : b.Proper := by
  unfold readMarked? at h
  dsimp only at h
  repeat' split at h
  all_goals cases h
  all_goals
    first
      | exact .html _
      | exact .rule
      | exact .code _ _
      | exact .heading _ _ _ (level_of_headingLevel? ‹_›).1 (level_of_headingLevel? ‹_›).2

theorem proper_openFrames {st : Sorting} (h : st.Proper) (fuel : Nat) (c : Cursor) :
    (openFrames fuel st c).1.Proper := by
  induction fuel generalizing st c with
  | zero => exact h
  | succ fuel ih =>
    rw [openFrames]
    dsimp only
    split
    · exact h
    · split
      · next m after hmarker =>
        have hitem : ((st.continueList m.mark m.number).enter (.item m.indent [])).Proper :=
          (h.continueList _ _).enter fun _ hb ↦ (List.not_mem_nil hb).elim
        split
        · exact hitem.congr rfl rfl
        · split
          · exact ih hitem _
          · next checked behind hbox =>
            have htask : { (st.continueList m.mark m.number).enter (.item m.indent []) with
                task := some checked }.Proper := hitem.congr rfl rfl
            split
            · exact (hitem.add (.task _)).congr rfl rfl
            · exact ih htask _
      · have hquote : (Frame.quote []).Proper := fun _ hb ↦ (List.not_mem_nil hb).elim
        split
        · exact ih (h.endList.enter hquote) _
        · exact h

theorem proper_block {r : Reader} (h : r.sorting.Proper) (s : List Char) :
    (r.block s).1.sorting.Proper := by
  have hclosed := h.closeMany (r.sorting.frames.length - (containers r.sorting s).1)
  have hopen := proper_openFrames hclosed (s.length + 1) (containers r.sorting s).2
  unfold Reader.block
  dsimp only
  split
  · next st rest heq =>
    rw [heq] at hopen
    exact hopen
  · next st c heq =>
    rw [heq] at hopen
    split
    · exact hopen.noteBlank
    · split
      · exact (hopen.endList.add (.code _ _)).congr rfl rfl
      · split
        · next b rest hmarked => exact hopen.endList.add (proper_readMarked? hmarked)
        · split
          · exact hopen.endList
          · exact (hopen.endList.add (proper_readText _ _)).congr rfl rfl

theorem proper_all {r : Reader} (h : r.sorting.Proper) (fuel : Nat) (s : List Char) :
    (Reader.all fuel r s).sorting.Proper := by
  induction fuel generalizing r s with
  | zero => exact h
  | succ fuel ih =>
    cases s with
    | nil => exact h
    | cons c s => exact ih (proper_block h (c :: s)) _

/-- The blocks of a document have headings of the levels from one to six only. -/
theorem proper_of_mem_readDocument (s : List Char) : ∀ b ∈ (readDocument s).1, b.Proper :=
  (proper_all Sorting.proper_initial _ s).blocks

end SiteSearch.Markdown
