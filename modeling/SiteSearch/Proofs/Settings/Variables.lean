import SiteSearch.Proofs.Settings.Base

/-!
# Settings under variables

Each variable gives one field of the settings: its value, once it is read, takes the place of what
was there, and a variable that is not set leaves the field as it was. `overlaid` says so of all
fields at once, and `outcome_applyVariables` that the assignments, one after another, come to this.
They end at the first value that cannot be read. What was assigned before it stays: the settings are
then those that the variables in front of it give (`applyVariables_of_error`).
-/

set_option autoImplicit false
set_option relaxedAutoImplicit false

namespace SiteSearch.Settings

/-! ### Fields -/

/-- What a variable gives a field: its value, if it is set, or what is there. -/
def given {α : Type} (read : String → Except Failure α) (old : α) :
    Option String → Except Failure α
  | none => .ok old
  | some v => read v

/-- The truth value that the variable for the summaries stands for. -/
def readSummary (v : String) : Except Failure Bool :=
  match readFlag? v with
  | some b => .ok b
  | none => .error (.settings (.flag summaryVariable v))

/-- The number that the variable for the delay stands for. -/
def readDelay (v : String) : Except Failure UInt64 :=
  match readCount? v with
  | some n => .ok n
  | none => .error (.settings (.number delayVariable v))

/-- The settings with variables laid over them, field by field; the first variable that cannot be
read is reported. -/
def overlaid (s : Settings) (vars : Variables) : Except Failure Settings := do
  let base ← given readBase s.base (vars "DOCSEARCH_API_BASE")
  let docsBase ← given .ok s.docsBase (vars "DOCSEARCH_DOCS_BASE_URL")
  let builder ← given readBuilder s.options.builder (vars "DOCSEARCH_BUILDER")
  let urlRoot ← given .ok s.options.urlRoot (vars "DOCSEARCH_URL_ROOT")
  let fileSuffix ← given .ok s.options.fileSuffix (vars "DOCSEARCH_FILE_SUFFIX")
  let linkSuffix ← given .ok s.options.linkSuffix (vars "DOCSEARCH_LINK_SUFFIX")
  let showSummary ← given readSummary s.options.showSummary (vars "DOCSEARCH_SHOW_SUMMARY")
  let stepDelay ← given readDelay s.stepDelay (vars "DOCSEARCH_STEP_DELAY_MS")
  return ⟨base, docsBase, ⟨builder, urlRoot, fileSuffix, linkSuffix, showSummary⟩, stepDelay⟩

theorem bind_eq_ok_iff {α β : Type} {x : Except Failure α} {f : α → Except Failure β} {b : β} :
    x >>= f = .ok b ↔ ∃ a, x = .ok a ∧ f a = .ok b := by
  cases x with
  | error failure =>
    simp only [reduceCtorEq, false_and, exists_false, iff_false]
    exact fun h ↦ by cases h
  | ok a =>
    simp only [Except.ok.injEq, exists_eq_left']
    exact Iff.rfl

/-- Variables are accepted when each of them can be read, and then each field has what its variable
gives it. -/
theorem overlaid_eq_ok_iff {s s' : Settings} {vars : Variables} :
    s.overlaid vars = .ok s' ↔
      given readBase s.base (vars "DOCSEARCH_API_BASE") = .ok s'.base ∧
      given .ok s.docsBase (vars "DOCSEARCH_DOCS_BASE_URL") = .ok s'.docsBase ∧
      given readBuilder s.options.builder (vars "DOCSEARCH_BUILDER") = .ok s'.options.builder ∧
      given .ok s.options.urlRoot (vars "DOCSEARCH_URL_ROOT") = .ok s'.options.urlRoot ∧
      given .ok s.options.fileSuffix (vars "DOCSEARCH_FILE_SUFFIX") = .ok s'.options.fileSuffix ∧
      given .ok s.options.linkSuffix (vars "DOCSEARCH_LINK_SUFFIX") = .ok s'.options.linkSuffix ∧
      given readSummary s.options.showSummary (vars "DOCSEARCH_SHOW_SUMMARY") =
        .ok s'.options.showSummary ∧
      given readDelay s.stepDelay (vars "DOCSEARCH_STEP_DELAY_MS") = .ok s'.stepDelay := by
  simp only [overlaid, bind_eq_ok_iff]
  constructor
  · rintro ⟨base, hbase, docsBase, hdocs, builder, hbuilder, urlRoot, hroot, fileSuffix, hfile,
      linkSuffix, hlink, showSummary, hsummary, stepDelay, hdelay, h⟩
    obtain rfl := Except.ok.inj h
    exact ⟨hbase, hdocs, hbuilder, hroot, hfile, hlink, hsummary, hdelay⟩
  · rintro ⟨hbase, hdocs, hbuilder, hroot, hfile, hlink, hsummary, hdelay⟩
    exact ⟨_, hbase, _, hdocs, _, hbuilder, _, hroot, _, hfile, _, hlink, _, hsummary, _, hdelay,
      rfl⟩

/-! ### Assignments -/

/-- The settings that a step leaves, unless it fails. -/
def outcome (result : Settings × Except Failure Unit) : Except Failure Settings :=
  result.2.map fun _ ↦ result.1

/-- An assignment reads its value and puts it into a field, of which `get` is what is there. -/
structure Assigns {α : Type} (assign : Assignment) (read : String → Except Failure α)
    (get : Settings → α) (change : α → Settings → Settings) : Prop where
  of_ok : ∀ {v a}, read v = .ok a → ∀ s, assign v s = (change a s, .ok ())
  of_error : ∀ {v failure}, read v = .error failure → ∀ s, (assign v s).2 = .error failure
  change_get : ∀ s, change (get s) s = s

section Assigns

variable {α : Type} {read : String → Except Failure α} {get : Settings → α}
  {change : α → Settings → Settings}

theorem assigns_reading (read : String → Except Failure α) (get : Settings → α)
    (h : ∀ s, change (get s) s = s) :
    Assigns (reading read change) read get change where
  of_ok hread s := by rw [reading, hread]
  of_error hread s := by rw [reading, hread]
  change_get := h

theorem assigns_always (get : Settings → String) {change : String → Settings → Settings}
    (h : ∀ s, change (get s) s = s) : Assigns (always change) .ok get change where
  of_ok hread s := by
    obtain rfl := Except.ok.inj hread
    rfl
  of_error hread := by cases hread
  change_get := h

theorem assigns_setBase :
    Assigns (fun v s ↦ s.setBase v) readBase Settings.base fun base s ↦ { s with base } where
  of_ok hread s := setBase_of_ok hread
  of_error hread s := by
    obtain ⟨base, hbase⟩ := setBase_of_error (s := s) hread
    rw [hbase]
  change_get _ := rfl

end Assigns

/-! ### Several assignments -/

section

variable {vars : Variables} {name v : String} {assign : Assignment} {s s' : Settings}

theorem applyAll_cons (name : String) (assign : Assignment) (rest : List (String × Assignment))
    (s : Settings) :
    applyAll vars ((name, assign) :: rest) s =
      match vars name with
      | none => applyAll vars rest s
      | some v =>
        match assign v s with
        | (s, .ok ()) => applyAll vars rest s
        | (s, .error failure) => (s, .error failure) :=
  rfl

theorem applyAll_cons_none (h : vars name = none) (rest : List (String × Assignment))
    (s : Settings) : applyAll vars ((name, assign) :: rest) s = applyAll vars rest s := by
  rw [applyAll_cons, h]

theorem applyAll_cons_ok (h : vars name = some v) (hassign : assign v s = (s', .ok ()))
    (rest : List (String × Assignment)) :
    applyAll vars ((name, assign) :: rest) s = applyAll vars rest s' := by
  simp only [applyAll_cons, h, hassign]

theorem applyAll_cons_error (h : vars name = some v) {failure : Failure}
    (hassign : (assign v s).2 = .error failure) (rest : List (String × Assignment)) :
    applyAll vars ((name, assign) :: rest) s = assign v s := by
  have hstep : assign v s = ((assign v s).1, .error failure) := Prod.ext rfl hassign
  rw [applyAll_cons, h]
  simp only
  rw [hstep]

/-- A variable that is not set is passed over, one that is accepted changes the settings for those
behind it, and one that is refused ends the assignments. -/
theorem applyAll_cons_cases (vars : Variables) (name : String) (assign : Assignment)
    (s : Settings) :
    (∀ rest, applyAll vars ((name, assign) :: rest) s = applyAll vars rest s) ∨
    (∃ v s', vars name = some v ∧ assign v s = (s', .ok ()) ∧
      ∀ rest, applyAll vars ((name, assign) :: rest) s = applyAll vars rest s') ∨
    (∃ v failure, vars name = some v ∧ (assign v s).2 = .error failure ∧
      ∀ rest, applyAll vars ((name, assign) :: rest) s = assign v s) := by
  cases hname : vars name with
  | none => exact .inl fun rest ↦ applyAll_cons_none hname rest s
  | some v =>
    cases hresult : (assign v s).2 with
    | ok done =>
      have hstep : assign v s = ((assign v s).1, .ok ()) := Prod.ext rfl hresult
      exact .inr (.inl ⟨v, _, rfl, hstep, applyAll_cons_ok hname hstep⟩)
    | error failure =>
      exact .inr (.inr ⟨v, failure, rfl, hresult, applyAll_cons_error hname hresult⟩)

/-- The first assignment gives its field, and the others go on from there. -/
theorem outcome_applyAll_cons {α : Type} {read : String → Except Failure α} {get : Settings → α}
    {change : α → Settings → Settings} (h : Assigns assign read get change)
    (rest : List (String × Assignment)) (s : Settings) :
    outcome (applyAll vars ((name, assign) :: rest) s) =
      given read (get s) (vars name) >>= fun a ↦ outcome (applyAll vars rest (change a s)) := by
  cases hname : vars name with
  | none =>
    rw [applyAll_cons_none hname]
    exact (congrArg (fun s ↦ outcome (applyAll vars rest s)) (h.change_get s)).symm
  | some v =>
    cases hread : read v with
    | ok a =>
      rw [applyAll_cons_ok hname (h.of_ok hread s), given, hread]
      rfl
    | error failure =>
      have hfailed := h.of_error hread s
      rw [applyAll_cons_error hname hfailed, given, hread, outcome, hfailed]
      rfl

end

/-- The assignments come to what each variable gives its field. -/
theorem outcome_applyVariables (s : Settings) (vars : Variables) :
    outcome (s.applyVariables vars) = s.overlaid vars := by
  refine (outcome_applyAll_cons assigns_setBase _ _).trans (bind_congr fun base ↦ ?_)
  refine (outcome_applyAll_cons (assigns_always docsBase fun _ ↦ rfl) _ _).trans
    (bind_congr fun docsBase ↦ ?_)
  refine (outcome_applyAll_cons (assigns_reading readBuilder (·.options.builder) fun _ ↦ rfl)
    _ _).trans (bind_congr fun builder ↦ ?_)
  refine (outcome_applyAll_cons (assigns_always (·.options.urlRoot) fun _ ↦ rfl) _ _).trans
    (bind_congr fun urlRoot ↦ ?_)
  refine (outcome_applyAll_cons (assigns_always (·.options.fileSuffix) fun _ ↦ rfl) _ _).trans
    (bind_congr fun fileSuffix ↦ ?_)
  refine (outcome_applyAll_cons (assigns_always (·.options.linkSuffix) fun _ ↦ rfl) _ _).trans
    (bind_congr fun linkSuffix ↦ ?_)
  refine (outcome_applyAll_cons (assigns_reading readSummary (·.options.showSummary) fun _ ↦ rfl)
    _ _).trans (bind_congr fun showSummary ↦ ?_)
  refine (outcome_applyAll_cons (assigns_reading readDelay stepDelay fun _ ↦ rfl) _ _).trans
    (bind_congr fun stepDelay ↦ ?_)
  rfl

/-! ### A variable that cannot be read -/

theorem applyAll_append (vars : Variables) (front back : List (String × Assignment))
    (s : Settings) :
    applyAll vars (front ++ back) s =
      match (applyAll vars front s).2 with
      | .ok () => applyAll vars back (applyAll vars front s).1
      | .error _ => applyAll vars front s := by
  induction front generalizing s with
  | nil => rfl
  | cons step front ih =>
    obtain ⟨name, assign⟩ := step
    rw [List.cons_append]
    obtain hrest | ⟨v, s', -, -, hrest⟩ | ⟨v, failure, -, hfailed, hrest⟩ :=
      applyAll_cons_cases vars name assign s
    · rw [hrest, hrest, ih]
    · rw [hrest, hrest, ih]
    · rw [hrest, hrest, hfailed]

/-- Of the variables, those in a list of names. -/
def among (names : List String) (vars : Variables) : Variables := fun name ↦
  if name ∈ names then vars name else none

theorem applyAll_congr {vars vars' : Variables} {l : List (String × Assignment)}
    (h : ∀ step ∈ l, vars' step.1 = vars step.1) (s : Settings) :
    applyAll vars' l s = applyAll vars l s := by
  induction l generalizing s with
  | nil => rfl
  | cons step l ih =>
    obtain ⟨name, assign⟩ := step
    rw [List.forall_mem_cons] at h
    simp only [applyAll_cons, h.1, ih h.2]

theorem applyAll_of_forall_none {vars : Variables} {l : List (String × Assignment)}
    (h : ∀ step ∈ l, vars step.1 = none) (s : Settings) : applyAll vars l s = (s, .ok ()) := by
  induction l with
  | nil => rfl
  | cons step l ih =>
    rw [List.forall_mem_cons] at h
    exact (applyAll_cons_none h.1 l s).trans (ih h.2)

/-- Variables in front alone are assigned as if there were no others. -/
theorem applyAll_among {front back : List (String × Assignment)}
    (hnodup : ((front ++ back).map Prod.fst).Nodup) (vars : Variables) (s : Settings) :
    applyAll (among (front.map Prod.fst) vars) (front ++ back) s = applyAll vars front s := by
  have hfront : applyAll (among (front.map Prod.fst) vars) front s = applyAll vars front s :=
    applyAll_congr (fun step hstep ↦ if_pos (List.mem_map_of_mem hstep)) s
  have hback : ∀ step ∈ back, among (front.map Prod.fst) vars step.1 = none := by
    intro step hstep
    rw [List.map_append, List.nodup_append] at hnodup
    exact if_neg fun hmem ↦ hnodup.2.2 _ hmem _ (List.mem_map_of_mem hstep) rfl
  rw [applyAll_append, hfront]
  split
  · next done hresult =>
    rw [applyAll_of_forall_none hback]
    exact Prod.ext rfl hresult.symm
  · rfl

/-- Assignments that fail do so at one of them, behind others that do not. -/
theorem applyAll_of_error {vars : Variables} {l : List (String × Assignment)} {s : Settings}
    {failure : Failure} (h : (applyAll vars l s).2 = .error failure) :
    ∃ front name assign back v, l = front ++ (name, assign) :: back ∧ vars name = some v ∧
      (applyAll vars front s).2 = .ok () ∧
      assign v (applyAll vars front s).1 = applyAll vars l s := by
  induction l generalizing s with
  | nil => cases h
  | cons step l ih =>
    obtain ⟨name, assign⟩ := step
    obtain hrest | ⟨v, s', -, -, hrest⟩ | ⟨v, failure', hname, -, hrest⟩ :=
      applyAll_cons_cases vars name assign s
    · rw [hrest] at h ⊢
      obtain ⟨front, name', assign', back, v', rfl, hname', hfront, hassign⟩ := ih h
      exact ⟨(name, assign) :: front, name', assign', back, v', rfl, hname',
        (hrest front).symm ▸ hfront, (hrest front).symm ▸ hassign⟩
    · rw [hrest] at h ⊢
      obtain ⟨front, name', assign', back, v', rfl, hname', hfront, hassign⟩ := ih h
      exact ⟨(name, assign) :: front, name', assign', back, v', rfl, hname',
        (hrest front).symm ▸ hfront, (hrest front).symm ▸ hassign⟩
    · exact ⟨[], name, assign, l, v, rfl, hname, rfl, (hrest l).symm⟩

/-- The names of the variables, in the order in which they are looked at. -/
def variableNames : List String :=
  assignments.map Prod.fst

theorem reading_of_error {α : Type} (read : String → Except Failure α)
    (change : α → Settings → Settings) {v : String} {s : Settings} {failure : Failure}
    (h : (reading read change v s).2 = .error failure) : (reading read change v s).1 = s := by
  rw [reading] at h ⊢
  cases hread : read v with
  | ok a =>
    rw [hread] at h
    cases h
  | error other => rfl

/-- An assignment that fails leaves the settings alone, but for the base if it is that of the base
and has a URL. -/
theorem assign_of_error {name : String} {assign : Assignment} (h : (name, assign) ∈ assignments)
    {v : String} {s : Settings} {failure : Failure}
    (hfailed : (assign v s).2 = .error failure) :
    (∃ base, (assign v s).1 = { s with base }) ∧
      (name ≠ "DOCSEARCH_API_BASE" ∨ (∃ fault, Url.parse v = .error fault) →
        (assign v s).1 = s) := by
  have hkept (h : (assign v s).1 = s) : (∃ base, (assign v s).1 = { s with base }) ∧
      (name ≠ "DOCSEARCH_API_BASE" ∨ (∃ fault, Url.parse v = .error fault) →
        (assign v s).1 = s) :=
    ⟨⟨s.base, h⟩, fun _ ↦ h⟩
  simp only [assignments, List.mem_cons, List.not_mem_nil, or_false, Prod.mk.injEq] at h
  obtain ⟨rfl, rfl⟩ | ⟨-, rfl⟩ | ⟨-, rfl⟩ | ⟨-, rfl⟩ | ⟨-, rfl⟩ | ⟨-, rfl⟩ | ⟨-, rfl⟩ | ⟨-, rfl⟩ :=
    h
  · have hfailed : (s.setBase v).2 = .error failure := hfailed
    refine ⟨?_, ?_⟩
    · cases hread : readBase v with
      | ok base =>
        rw [setBase_of_ok hread] at hfailed
        cases hfailed
      | error other =>
        obtain ⟨base, hbase⟩ := setBase_of_error (s := s) hread
        exact ⟨base, congrArg Prod.fst hbase⟩
    · rintro (hname | ⟨fault, hfault⟩)
      · exact absurd rfl hname
      · exact congrArg Prod.fst (setBase_of_fault hfault)
  · cases hfailed
  · exact hkept (reading_of_error _ _ hfailed)
  · cases hfailed
  · cases hfailed
  · cases hfailed
  · exact hkept (reading_of_error _ _ hfailed)
  · exact hkept (reading_of_error _ _ hfailed)

/-- When variables are refused, it is for the first of them that cannot be read. The settings are
then those with the variables in front of it laid over, but for the base if a URL for that is what
is refused. -/
theorem applyVariables_of_error {s : Settings} {vars : Variables} {failure : Failure}
    (h : (s.applyVariables vars).2 = .error failure) :
    ∃ front name back v s', variableNames = front ++ name :: back ∧ vars name = some v ∧
      s.overlaid (among front vars) = .ok s' ∧
      s.overlaid (among (front ++ [name]) vars) = .error failure ∧
      (∃ base, (s.applyVariables vars).1 = { s' with base }) ∧
      (name ≠ "DOCSEARCH_API_BASE" ∨ (∃ fault, Url.parse v = .error fault) →
        (s.applyVariables vars).1 = s') := by
  obtain ⟨front, name, assign, back, v, hsplit, hname, hfront, hassign⟩ := applyAll_of_error h
  -- no variable is looked at twice, so those in front are assigned as if there were no others
  have hnodup : (assignments.map Prod.fst).Nodup := by decide
  have hbefore : s.applyVariables (among (front.map Prod.fst) vars) = applyAll vars front s := by
    rw [applyVariables, hsplit]
    exact applyAll_among (hsplit ▸ hnodup) vars s
  have hthrough : s.applyVariables (among ((front ++ [(name, assign)]).map Prod.fst) vars) =
      applyAll vars (front ++ [(name, assign)]) s := by
    rw [List.append_cons] at hsplit
    rw [applyVariables, hsplit]
    exact applyAll_among (hsplit ▸ hnodup) vars s
  have hfailed : (assign v (applyAll vars front s).1).2 = .error failure := by
    rw [hassign]
    exact h
  refine ⟨front.map Prod.fst, name, back.map Prod.fst, v, (applyAll vars front s).1, ?_, hname,
    ?_, ?_, ?_⟩
  · rw [variableNames, hsplit, List.map_append, List.map_cons]
  · rw [← outcome_applyVariables, hbefore, outcome, hfront]
    rfl
  · rw [← outcome_applyVariables]
    rw [List.map_append] at hthrough
    change outcome (s.applyVariables (among (front.map Prod.fst ++ [(name, assign)].map Prod.fst)
      vars)) = _
    rw [hthrough, applyAll_append, hfront]
    simp only
    rw [applyAll_cons_error hname hfailed, outcome, hfailed]
    rfl
  · have hmem : (name, assign) ∈ assignments := by
      rw [hsplit]
      exact List.mem_append_right _ List.mem_cons_self
    have hstate := assign_of_error hmem hfailed
    rw [hassign] at hstate
    exact hstate

/-! ### What assignments keep -/

/-- What each assignment of a value that is set keeps, all of them do. -/
theorem applyAll_keeps {P : Settings → Prop} {vars : Variables} {l : List (String × Assignment)}
    (h : ∀ step ∈ l, ∀ v, vars step.1 = some v → ∀ s, P s → P (step.2 v s).1) {s : Settings}
    (hs : P s) : P (applyAll vars l s).1 := by
  induction l generalizing s with
  | nil => exact hs
  | cons step l ih =>
    obtain ⟨name, assign⟩ := step
    rw [List.forall_mem_cons] at h
    obtain hrest | ⟨v, s', hname, hstep, hrest⟩ | ⟨v, failure, hname, -, hrest⟩ :=
      applyAll_cons_cases vars name assign s
    · rw [hrest]
      exact ih h.2 hs
    · have hassigned : P (assign v s).1 := h.1 v hname s hs
      rw [hstep] at hassigned
      rw [hrest]
      exact ih h.2 hassigned
    · rw [hrest]
      exact h.1 v hname s hs

/-- Only the variable of the base touches the base. -/
theorem assign_base {name : String} {assign : Assignment} (h : (name, assign) ∈ assignments) :
    (name = "DOCSEARCH_API_BASE" ∧ assign = fun v s ↦ s.setBase v) ∨
      ∀ v s, (assign v s).1.base = s.base := by
  have hreading {α : Type} (read : String → Except Failure α) {change : α → Settings → Settings}
      (hchange : ∀ a s, (change a s).base = s.base) (v : String) (s : Settings) :
      (reading read change v s).1.base = s.base := by
    rw [reading]
    cases read v with
    | ok a => exact hchange a s
    | error failure => rfl
  simp only [assignments, List.mem_cons, List.not_mem_nil, or_false, Prod.mk.injEq] at h
  obtain h | ⟨-, rfl⟩ | ⟨-, rfl⟩ | ⟨-, rfl⟩ | ⟨-, rfl⟩ | ⟨-, rfl⟩ | ⟨-, rfl⟩ | ⟨-, rfl⟩ := h
  · exact .inl h
  · exact .inr fun _ _ ↦ rfl
  · exact .inr (hreading _ fun _ _ ↦ rfl)
  · exact .inr fun _ _ ↦ rfl
  · exact .inr fun _ _ ↦ rfl
  · exact .inr fun _ _ ↦ rfl
  · exact .inr (hreading _ fun _ _ ↦ rfl)
  · exact .inr (hreading _ fun _ _ ↦ rfl)

end SiteSearch.Settings
