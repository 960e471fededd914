import SiteSearch.Answer.Panel

/-!
# Calls on the panel

Retitling gives the content with its links retitled (`Display.retitle_content`) and reveals nothing.
Rendering and retitling together change the panel by their calls alone
(`Display.retitle_render_panel`).
-/

set_option autoImplicit false
set_option relaxedAutoImplicit false

namespace SiteSearch.Answer

/-! ### Several calls -/

theorem Panel.applyAll_append (p : Panel) (first second : List Call) :
    p.applyAll (first ++ second) = (p.applyAll first).applyAll second :=
  List.foldl_append

namespace Display

variable (d : Display)

/-! ### Retitling -/

theorem retitle_content (links : Site.Links) :
    (d.retitle links).panel.content = links.rewrite d.panel.content := by
  by_cases h : links.rewrite d.panel.content = d.panel.content
  · simp [retitle, retitleCalls, Panel.applyAll, h]
  · simp [retitle, retitleCalls, Panel.applyAll, Panel.apply, h]

theorem retitle_visible (links : Site.Links) :
    (d.retitle links).panel.visible = d.panel.visible := by
  by_cases h : links.rewrite d.panel.content = d.panel.content
  · simp [retitle, retitleCalls, Panel.applyAll, h]
  · simp [retitle, retitleCalls, Panel.applyAll, Panel.apply, h]

theorem reveal_notMem_retitleCalls (links : Site.Links) : Call.reveal ∉ d.retitleCalls links := by
  by_cases h : links.rewrite d.panel.content = d.panel.content <;> simp [retitleCalls, h]

/-! ### Rendering -/

theorem renderCalls_of_shown (h : d.shown = true) (html : String) :
    d.renderCalls html = [.setContent html] := by
  rw [renderCalls, if_pos h]

theorem renderCalls_of_not_shown (h : d.shown = false) (html : String) :
    d.renderCalls html = [.setContent html, .reveal] := by
  rw [renderCalls, h]
  rfl

theorem render_content (html : String) : (d.render html).panel.content = html := by
  cases h : d.shown with
  | true => rw [render, d.renderCalls_of_shown h]; rfl
  | false => rw [render, d.renderCalls_of_not_shown h]; rfl

/-- What is rendered is visible, provided that a display that was shown before is. -/
theorem render_visible (h : d.shown = true → d.panel.visible = true) (html : String) :
    (d.render html).panel.visible = true := by
  cases hshown : d.shown with
  | true => rw [render, d.renderCalls_of_shown hshown]; exact h hshown
  | false => rw [render, d.renderCalls_of_not_shown hshown]; rfl

theorem retitle_render_panel (links : Site.Links) (html : String) :
    ((d.render html).retitle links).panel =
      d.panel.applyAll (d.renderCalls html ++ (d.render html).retitleCalls links) := by
  rw [Panel.applyAll_append]
  rfl

end Display

end SiteSearch.Answer
