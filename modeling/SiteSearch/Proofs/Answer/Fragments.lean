import SiteSearch.Answer.Session
import SiteSearch.Proofs.Answer.Panel

/-!
# What fragments show

A text that is not suppressed stays so when it grows (`isSuppressed_of_append`). That carries
`Presents`, which says what the panel shows between two fragments: nothing as long as the text is
suppressed, and its rendering from then on. `Presents.extend` is the step and `Presents.extendAll`
the run over several fragments. What the panel shows depends on the text gathered alone, not on how
it was cut into fragments.
-/

set_option autoImplicit false
set_option relaxedAutoImplicit false

namespace SiteSearch.Answer

/-! ### Suppression -/

theorem isSuppressed_iff {text : String} :
    isSuppressed text = true ↔
      noAnswer.toList <+: text.toList ∨ text.toList <+: noAnswer.toList := by
  simp [isSuppressed]

/-- What differs from the phrase for no answer before the end of both differs for good. -/
theorem isSuppressed_of_append {text more : String} (h : isSuppressed (text ++ more) = true) :
    isSuppressed text = true := by
  rw [isSuppressed_iff, String.toList_append] at h
  rw [isSuppressed_iff]
  have htext : text.toList <+: text.toList ++ more.toList := List.prefix_append _ _
  rcases h with hphrase | hwhole
  · exact List.prefix_or_prefix_of_prefix hphrase htext
  · exact .inr (htext.trans hwhole)

namespace Session

variable (s : Session) (style : Style)

/-! ### One fragment -/

theorem extend_of_suppressed {fragment : String} (h : isSuppressed (s.text ++ fragment) = true) :
    s.extend style fragment =
      ({ s with text := s.text ++ fragment, fragments := s.fragments + 1 }, []) :=
  if_pos h

theorem extend_of_not_suppressed {fragment : String}
    (h : isSuppressed (s.text ++ fragment) = false) :
    s.extend style fragment =
      ({ s with
          text := s.text ++ fragment
          fragments := s.fragments + 1
          display := (s.display.render (style.markup (s.text ++ fragment))).retitle style.links },
        s.display.renderCalls (style.markup (s.text ++ fragment)) ++
          (s.display.render (style.markup (s.text ++ fragment))).retitleCalls style.links) := by
  simp [extend, h]

/-- The calls of a fragment that is shown: the new content first, then a reveal if nothing was
shown before. -/
theorem extend_calls {fragment : String} (h : isSuppressed (s.text ++ fragment) = false) :
    ∃ rest, (s.extend style fragment).2 =
        .setContent (style.markup (s.text ++ fragment)) ::
          ((if s.display.shown then [] else [.reveal]) ++ rest) ∧
      .reveal ∉ rest := by
  rw [s.extend_of_not_suppressed style h]
  exact ⟨_, rfl, Display.reveal_notMem_retitleCalls _ _⟩

/-- A fragment joins the text and is counted, and changes the panel by its calls alone. -/
theorem extend_spec (fragment : String) :
    (s.extend style fragment).1.phase = s.phase ∧
      (s.extend style fragment).1.text = s.text ++ fragment ∧
      (s.extend style fragment).1.fragments = s.fragments + 1 ∧
      (s.extend style fragment).1.display.panel =
        s.display.panel.applyAll (s.extend style fragment).2 := by
  cases h : isSuppressed (s.text ++ fragment) with
  | true =>
    rw [s.extend_of_suppressed style h]
    exact ⟨rfl, rfl, rfl, rfl⟩
  | false =>
    rw [s.extend_of_not_suppressed style h]
    exact ⟨rfl, rfl, rfl, s.display.retitle_render_panel style.links _⟩

theorem extend_phase (phase : Phase) (fragment : String) :
    { s with phase }.extend style fragment =
      ({ (s.extend style fragment).1 with phase }, (s.extend style fragment).2) := by
  cases h : isSuppressed (s.text ++ fragment) with
  | true =>
    rw [s.extend_of_suppressed style h]
    exact extend_of_suppressed { s with phase } style h
  | false =>
    rw [s.extend_of_not_suppressed style h]
    exact extend_of_not_suppressed { s with phase } style h

/-! ### Several fragments -/

/-- The session after several fragments, and the calls that they make. -/
def extendAll (s : Session) (style : Style) : List String → Session × List Call
  | [] => (s, [])
  | fragment :: rest =>
    let (s, calls) := s.extend style fragment
    let (s, more) := s.extendAll style rest
    (s, calls ++ more)

theorem extendAll_cons (fragment : String) (rest : List String) :
    s.extendAll style (fragment :: rest) =
      (((s.extend style fragment).1.extendAll style rest).1,
        (s.extend style fragment).2 ++ ((s.extend style fragment).1.extendAll style rest).2) :=
  rfl

/-- Fragments are joined and counted, and change the panel by their calls alone. -/
theorem extendAll_spec (fragments : List String) :
    (s.extendAll style fragments).1.phase = s.phase ∧
      (s.extendAll style fragments).1.text = s.text ++ String.join fragments ∧
      (s.extendAll style fragments).1.fragments = s.fragments + fragments.length ∧
      (s.extendAll style fragments).1.display.panel =
        s.display.panel.applyAll (s.extendAll style fragments).2 := by
  induction fragments generalizing s with
  | nil => exact ⟨rfl, by simp [extendAll], rfl, rfl⟩
  | cons fragment rest ih =>
    obtain ⟨hphase, htext, hcount, hpanel⟩ := s.extend_spec style fragment
    obtain ⟨hphase', htext', hcount', hpanel'⟩ := ih (s.extend style fragment).1
    rw [extendAll_cons]
    refine ⟨hphase'.trans hphase, ?_, ?_, ?_⟩
    · rw [htext', htext, String.join_cons, String.append_assoc]
    · rw [hcount', hcount, List.length_cons]
      omega
    · rw [hpanel', hpanel, ← Panel.applyAll_append]

theorem extendAll_phase (phase : Phase) (fragments : List String) :
    { s with phase }.extendAll style fragments =
      ({ (s.extendAll style fragments).1 with phase }, (s.extendAll style fragments).2) := by
  induction fragments generalizing s with
  | nil => rfl
  | cons fragment rest ih =>
    rw [extendAll_cons, extend_phase, ih, extendAll_cons]

theorem accept_eq_extend {payload fragment : String} (h : fragment? payload = some fragment) :
    s.accept style payload =
      ⟨(s.extend style fragment).1, (s.extend style fragment).2, .ok ()⟩ := by
  rw [accept, h]

/-- Messages that carry fragments are taken in as these fragments. -/
theorem acceptAll_eq_extendAll {payloads fragments : List String}
    (h : payloads.map fragment? = fragments.map some) :
    s.acceptAll style payloads =
      ⟨(s.extendAll style fragments).1, (s.extendAll style fragments).2, .ok ()⟩ := by
  induction payloads generalizing s fragments with
  | nil =>
    obtain rfl := List.map_eq_nil_iff.mp h.symm
    rfl
  | cons payload payloads ih =>
    cases fragments with
    | nil => cases h
    | cons fragment fragments =>
      obtain ⟨hfragment, hrest⟩ := List.cons.inj h
      rw [acceptAll, s.accept_eq_extend style hfragment]
      simp only [ih _ hrest, extendAll_cons]

/-! ### What the panel shows -/

/-- What holds between two fragments, where `calls` are the calls on a panel that was empty and
hidden: as long as the text is suppressed there are none, and from then on the panel shows the
rendering of the text and was revealed once, directly after its first content. -/
structure Presents (style : Style) (calls : List Call) (s : Session) : Prop where
  panel : s.display.panel = Panel.initial.applyAll calls
  shown : s.display.shown = !isSuppressed s.text
  visible : s.display.panel.visible = s.display.shown
  content : s.display.shown = true →
    s.display.panel.content = style.links.rewrite (style.markup s.text)
  calls_eq_nil : s.display.shown = false → calls = []
  reveals : s.display.shown = true →
    ∃ html rest, calls = .setContent html :: .reveal :: rest ∧ .reveal ∉ rest

variable {s style}

theorem presents_idle (phase : Phase) :
    Presents style [] { idle .initial with phase } where
  panel := rfl
  shown := by
    have h : isSuppressed "" = true := isSuppressed_iff.mpr (.inr List.nil_prefix)
    simp [idle, h, Display.fresh]
  visible := rfl
  content := fun h ↦ by cases h
  calls_eq_nil := fun _ ↦ rfl
  reveals := fun h ↦ by cases h

theorem Presents.extend {calls : List Call} (h : Presents style calls s) (fragment : String) :
    Presents style (calls ++ (s.extend style fragment).2) (s.extend style fragment).1 := by
  have hpanel : (s.extend style fragment).1.display.panel =
      Panel.initial.applyAll (calls ++ (s.extend style fragment).2) := by
    rw [(s.extend_spec style fragment).2.2.2, h.panel, ← Panel.applyAll_append]
  cases hsuppressed : isSuppressed (s.text ++ fragment) with
  | true =>
    -- the shorter text was suppressed as well, so nothing was shown before
    have hbefore : s.display.shown = false := by
      rw [h.shown, isSuppressed_of_append hsuppressed, Bool.not_true]
    rw [s.extend_of_suppressed style hsuppressed] at hpanel ⊢
    refine ⟨hpanel, ?_, h.visible, fun hshown ↦ ?_, fun _ ↦ ?_, fun hshown ↦ ?_⟩
    · rw [hsuppressed]
      exact hbefore
    · exact absurd (hbefore.symm.trans hshown) Bool.false_ne_true
    · rw [h.calls_eq_nil hbefore]
      rfl
    · exact absurd (hbefore.symm.trans hshown) Bool.false_ne_true
  | false =>
    obtain ⟨more, hcalls, hmore⟩ := s.extend_calls style hsuppressed
    have hdisplay : (s.extend style fragment).1.display =
        (s.display.render (style.markup (s.text ++ fragment))).retitle style.links := by
      rw [s.extend_of_not_suppressed style hsuppressed]
    have hshown : (s.extend style fragment).1.display.shown = true := by
      rw [hdisplay]
      rfl
    have htext := (s.extend_spec style fragment).2.1
    refine ⟨hpanel, ?_, ?_, fun _ ↦ ?_, fun hhidden ↦ ?_, fun _ ↦ ?_⟩
    · rw [hshown, htext, hsuppressed, Bool.not_false]
    · rw [hshown, hdisplay, Display.retitle_visible]
      exact Display.render_visible _ (fun hbefore ↦ h.visible.trans hbefore) _
    · rw [hdisplay, Display.retitle_content, Display.render_content, htext]
    · exact absurd (hhidden.symm.trans hshown) Bool.false_ne_true
    · cases hbefore : s.display.shown with
      | true =>
        obtain ⟨html, rest, rfl, hrest⟩ := h.reveals hbefore
        refine ⟨html, rest ++ (s.extend style fragment).2, rfl, ?_⟩
        simp [hcalls, hbefore, hrest, hmore]
      | false =>
        refine ⟨style.markup (s.text ++ fragment), more, ?_, hmore⟩
        rw [h.calls_eq_nil hbefore, hcalls, hbefore]
        rfl

theorem Presents.extendAll {calls : List Call} (h : Presents style calls s)
    (fragments : List String) :
    Presents style (calls ++ (s.extendAll style fragments).2)
      (s.extendAll style fragments).1 := by
  induction fragments generalizing s calls with
  | nil => simpa [Session.extendAll] using h
  | cons fragment rest ih =>
    rw [extendAll_cons, ← List.append_assoc]
    exact ih (h.extend fragment)

/-- What the panel shows is decided by the text alone. -/
theorem Presents.content_eq {s' : Session} {calls calls' : List Call} (h : Presents style calls s)
    (h' : Presents style calls' s') (htext : s'.text = s.text) :
    s'.display.panel.visible = s.display.panel.visible ∧
      s'.display.panel.content = s.display.panel.content := by
  have hshown : s'.display.shown = s.display.shown := by rw [h.shown, h'.shown, htext]
  refine ⟨by rw [h.visible, h'.visible, hshown], ?_⟩
  cases hbefore : s.display.shown with
  | true => rw [h.content hbefore, h'.content (hshown.trans hbefore), htext]
  | false =>
    rw [h.panel, h'.panel, h.calls_eq_nil hbefore, h'.calls_eq_nil (hshown.trans hbefore)]

/-- A fragment after the panel has become visible is rendered, an empty one too, and reveals
nothing. -/
theorem Presents.accept {calls : List Call} (h : Presents style calls s)
    (hvisible : s.display.panel.visible = true) {payload fragment : String}
    (hpayload : fragment? payload = some fragment) :
    (s.accept style payload).result = .ok () ∧
      (s.accept style payload).session.display.panel.visible = true ∧
      (s.accept style payload).session.display.panel.content =
        style.links.rewrite (style.markup (s.text ++ fragment)) ∧
      ∃ rest, (s.accept style payload).calls =
          .setContent (style.markup (s.text ++ fragment)) :: rest ∧ .reveal ∉ rest := by
  have hshown : s.display.shown = true := h.visible.symm.trans hvisible
  have hbefore : isSuppressed s.text = false := by simpa [hshown] using h.shown
  have hsuppressed : isSuppressed (s.text ++ fragment) = false := by
    cases hafter : isSuppressed (s.text ++ fragment) with
    | false => rfl
    | true => exact absurd (hbefore.symm.trans (isSuppressed_of_append hafter)) Bool.false_ne_true
  have hnext := h.extend fragment
  obtain ⟨rest, hcalls, hrest⟩ := s.extend_calls style hsuppressed
  have htext := (s.extend_spec style fragment).2.1
  have hnextShown : (s.extend style fragment).1.display.shown = true := by
    rw [hnext.shown, htext, hsuppressed, Bool.not_false]
  rw [s.accept_eq_extend style hpayload]
  refine ⟨rfl, hnext.visible.trans hnextShown, ?_, rest, ?_, hrest⟩
  · rw [hnext.content hnextShown, htext]
  · rw [hcalls, hshown]
    rfl

/-- After each of any number of fragments, a panel that was empty and hidden is visible exactly when
neither of the text and the phrase for no answer starts with the other. It then shows the rendering
of the text, was revealed once, directly after its first content, and every further fragment renders
it again; otherwise nothing was asked of it. Other fragments of the same text leave the same. -/
theorem acceptAll_presents (style : Style) (phase : Phase) {payloads fragments : List String}
    (h : payloads.map fragment? = fragments.map some) :
    let outcome := ({ idle .initial with phase } : Session).acceptAll style payloads
    let text := outcome.session.text
    let panel := outcome.session.display.panel
    outcome.result = .ok () ∧ text = String.join fragments ∧
      panel = Panel.initial.applyAll outcome.calls ∧
      (panel.visible = true ↔
        ¬ (noAnswer.toList <+: text.toList ∨ text.toList <+: noAnswer.toList)) ∧
      (panel.visible = true → panel.content = style.links.rewrite (style.markup text)) ∧
      (panel.visible = false → outcome.calls = []) ∧
      (panel.visible = true →
        ∃ html rest, outcome.calls = .setContent html :: .reveal :: rest ∧ .reveal ∉ rest) ∧
      (panel.visible = true → ∀ payload fragment, fragment? payload = some fragment →
        let next := outcome.session.accept style payload
        next.result = .ok () ∧ next.session.display.panel.visible = true ∧
          next.session.display.panel.content =
            style.links.rewrite (style.markup (text ++ fragment)) ∧
          ∃ rest, next.calls = .setContent (style.markup (text ++ fragment)) :: rest ∧
            .reveal ∉ rest) ∧
      ∀ payloads' fragments', payloads'.map fragment? = fragments'.map some →
        String.join fragments' = String.join fragments →
          let other := ({ idle .initial with phase } : Session).acceptAll style payloads'
          other.session.display.panel.visible = panel.visible ∧
            other.session.display.panel.content = panel.content := by
  have hrun : ∀ fragments, Presents style
      (({ idle .initial with phase } : Session).extendAll style fragments).2
      (({ idle .initial with phase } : Session).extendAll style fragments).1 :=
    fun fragments ↦ (presents_idle phase).extendAll fragments
  have htext : ∀ fragments,
      (({ idle .initial with phase } : Session).extendAll style fragments).1.text =
        String.join fragments := by
    intro fragments
    rw [(extendAll_spec _ style fragments).2.1]
    exact String.empty_append
  have hpresents := hrun fragments
  obtain ⟨hpanel, hshown, hvisible, hcontent, hnone, hreveals⟩ := hrun fragments
  rw [← hvisible] at hcontent hnone hreveals
  rw [acceptAll_eq_extendAll _ style h]
  refine ⟨rfl, htext fragments, hpanel, ?_, hcontent, hnone, hreveals,
    fun hv payload fragment ↦ hpresents.accept hv, fun payloads' fragments' h' hjoin ↦ ?_⟩
  · rw [← isSuppressed_iff, hvisible, hshown]
    simp
  · rw [acceptAll_eq_extendAll _ style h']
    exact hpresents.content_eq (hrun fragments') (by rw [htext, htext, hjoin])

/-- An answer of three fragments, one of them empty, is visible. -/
theorem acceptAll_presents_answer :
    ["\"Use\"", "\"\"", "\" join.\""].map fragment? = ["Use", "", " join."].map some ∧
      (({ idle .initial with phase := .streaming } : Session).acceptAll
        ⟨id, ⟨"", .empty⟩⟩ ["\"Use\"", "\"\"", "\" join.\""]).session.display.panel.visible =
          true := by
  have h : ["\"Use\"", "\"\"", "\" join.\""].map fragment? = ["Use", "", " join."].map some := by
    decide
  obtain ⟨-, htext, -, hvisible, -⟩ := acceptAll_presents ⟨id, ⟨"", .empty⟩⟩ .streaming h
  refine ⟨h, hvisible.mpr ?_⟩
  rw [htext]
  decide

end Session

end SiteSearch.Answer
