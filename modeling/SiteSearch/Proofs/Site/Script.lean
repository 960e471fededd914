import SiteSearch.Proofs.Json.Reading
import SiteSearch.Proofs.Text.Trim
import SiteSearch.Site.Index

/-!
# Scripts with an index

An argument is read off a script just if the script is a call that sets an index (`Calls`,
`argument?_eq_some_iff`), and the index is that of this argument. An object with the lists of paths
and of titles is the index of their pairs, whatever other members it has and however it is written
(`ofJson_object`); so every index is read back from its script (`ofScript_script`).
-/

set_option autoImplicit false
set_option relaxedAutoImplicit false

namespace SiteSearch.Site.Index

open Text Json

/-! ### Calls -/

/-- A call that sets an index: nothing but white space stands before it, and nothing but white space
and one row of semicolons behind it. -/
def Calls (raw argument : String) : Prop :=
  ∃ front blank semicolons back : String,
    (∀ c ∈ front.toList, isBlank c = true) ∧ (∀ c ∈ blank.toList, isBlank c = true) ∧
    (∀ c ∈ semicolons.toList, c = ';') ∧ (∀ c ∈ back.toList, isBlank c = true) ∧
    raw = front ++ "Search.setIndex(" ++ argument ++ ")" ++ blank ++ semicolons ++ back

/-- White space and semicolons behind a closing bracket are taken off. -/
theorem trimBack_semicolons {blank semicolons back : List Char}
    (hblank : ∀ c ∈ blank, isBlank c = true) (hsemicolons : ∀ c ∈ semicolons, c = ';')
    (hback : ∀ c ∈ back, isBlank c = true) (s : List Char) :
    trimBack (dropEndWhile (· = ';') (trimBack (s ++ [')'] ++ blank ++ semicolons ++ back))) =
      s ++ [')'] := by
  have hbracket : dropEndWhile isBlank (s ++ [')']) = s ++ [')'] :=
    dropEndWhile_concat s (by decide)
  simp only [trimBack]
  rw [dropEndWhile_append _ hback]
  by_cases hnone : semicolons = []
  · -- all the white space goes at once
    rw [hnone, List.append_nil, dropEndWhile_append _ hblank, hbracket,
      dropEndWhile_concat s (by decide), hbracket]
  · have hkept : ∀ c ∈ (s ++ [')'] ++ blank ++ semicolons).getLast?, isBlank c = false := by
      rw [List.getLast?_append_of_ne_nil _ hnone]
      intro c hc
      rw [hsemicolons c (List.mem_of_getLast? hc)]
      decide
    have hsemi : ∀ c ∈ semicolons, decide (c = ';') = true := fun c hc ↦
      decide_eq_true (hsemicolons c hc)
    have hclosed : ∀ c ∈ (s ++ [')'] ++ blank).getLast?, decide (c = ';') = false := by
      rw [List.getLast?_append, List.getLast?_concat]
      intro c hc
      rw [decide_eq_false_iff_not]
      rintro rfl
      cases hlast : blank.getLast? with
      | none => rw [hlast] at hc; cases hc
      | some d =>
        rw [hlast] at hc
        cases hc
        exact absurd (hblank _ (List.mem_of_getLast? hlast)) (by decide)
    rw [dropEndWhile_eq_self hkept, dropEndWhile_append _ hsemi, dropEndWhile_eq_self hclosed,
      dropEndWhile_append _ hblank, hbracket]

theorem calls_iff {raw argument : String} :
    Calls raw argument ↔ ∃ front blank semicolons back : List Char,
      (∀ c ∈ front, isBlank c = true) ∧ (∀ c ∈ blank, isBlank c = true) ∧
      (∀ c ∈ semicolons, c = ';') ∧ (∀ c ∈ back, isBlank c = true) ∧
      raw.toList =
        front ++ (callOpening ++ argument.toList ++ [')'] ++ blank ++ semicolons ++ back) := by
  have hopening : "Search.setIndex(".toList = callOpening := rfl
  have hclosing : ")".toList = [')'] := by decide
  constructor
  · rintro ⟨front, blank, semicolons, back, hfront, hblank, hsemicolons, hback, rfl⟩
    refine ⟨front.toList, blank.toList, semicolons.toList, back.toList, hfront, hblank,
      hsemicolons, hback, ?_⟩
    simp only [String.toList_append, hopening, hclosing, List.append_assoc]
  · rintro ⟨front, blank, semicolons, back, hfront, hblank, hsemicolons, hback, hraw⟩
    refine ⟨.ofList front, .ofList blank, .ofList semicolons, .ofList back, ?_⟩
    simp only [String.toList_ofList]
    refine ⟨hfront, hblank, hsemicolons, hback, ?_⟩
    rw [← String.toList_inj, hraw]
    simp only [String.toList_append, String.toList_ofList, hopening, hclosing, List.append_assoc]

/-- The argument that is read off a script is that of the call that the script is. -/
theorem argument?_eq_some_iff {raw argument : String} :
    argument? raw = some argument ↔ Calls raw argument := by
  rw [calls_iff]
  constructor
  · intro h
    rw [argument?] at h
    dsimp only at h
    split at h
    · next hopening =>
      split at h
      · next hclosing =>
        obtain ⟨inside, hinside⟩ := List.getLast?_eq_some_iff.mp hclosing
        rw [hinside, List.dropLast_concat] at h
        obtain rfl := Option.some.inj h
        have hbody := List.prefix_iff_eq_append.mp (List.isPrefixOf_iff_prefix.mp hopening)
        rw [hinside] at hbody
        obtain ⟨front, back, hraw, hfront, hback⟩ := exists_trim raw.toList
        obtain ⟨semicolons, htrim, hsemicolons⟩ :=
          exists_dropEndWhile (· = ';') (trim raw.toList)
        obtain ⟨blank, hdrop, hblank⟩ :=
          exists_dropEndWhile isBlank (dropEndWhile (· = ';') (trim raw.toList))
        rw [← trimBack, ← hbody] at hdrop
        refine ⟨front, blank, semicolons, back, List.all_eq_true.mp hfront, hblank,
          fun c hc ↦ of_decide_eq_true (hsemicolons c hc), List.all_eq_true.mp hback, ?_⟩
        rw [hraw, htrim, hdrop]
        simp only [String.toList_ofList, List.append_assoc]
      · cases h
    · cases h
  · rintro ⟨front, blank, semicolons, back, hfront, hblank, hsemicolons, hback, hraw⟩
    have hcons : callOpening = 'S' :: "earch.setIndex(".toList := rfl
    have htrim : trimFront raw.toList =
        callOpening ++ argument.toList ++ [')'] ++ blank ++ semicolons ++ back := by
      rw [hraw, hcons]
      exact trimFront_append hfront (by decide) _
    have hbody := trimBack_semicolons hblank hsemicolons hback (callOpening ++ argument.toList)
    have hopening : callOpening.isPrefixOf (callOpening ++ argument.toList ++ [')']) = true := by
      rw [List.append_assoc]
      exact List.isPrefixOf_iff_prefix.mpr (List.prefix_append _ _)
    rw [argument?, trim, htrim]
    simp only [hbody, hopening, if_true]
    simp only [List.append_assoc, List.drop_left, List.getLast?_concat, List.dropLast_concat,
      if_true, String.ofList_toList]

/-! ### Objects -/

/-- Where a member of a name stands does not matter, as long as no other has the name. -/
theorem member?_of_perm {members others : List (String × Value)} {name : String} {v : Value}
    (h : members.Perm ((name, v) :: others)) (hothers : ∀ m ∈ others, m.1 ≠ name) :
    member? members name = some v := by
  have hnone : others.filter (fun m ↦ m.1 = name) = [] := by
    simpa [List.filter_eq_nil_iff] using hothers
  have honly : members.filter (fun m ↦ m.1 = name) = [(name, v)] := by
    have hfilter := h.filter fun m ↦ m.1 = name
    rw [List.filter_cons_of_pos (by simp), hnone] at hfilter
    exact List.perm_singleton.mp hfilter
  rw [member?, honly]

theorem ofArrays_entries (entries : List (String × String)) :
    ofArrays (entries.map Prod.fst) (entries.map Prod.snd) = .ok ⟨entries⟩ := by
  have hzip : (entries.map Prod.fst).zip (entries.map Prod.snd) = entries := by
    rw [List.zip_map']
    exact List.map_id _
  rw [ofArrays, if_pos (by simp), hzip]

/-- An object with the two lists is the index of their pairs, whatever other members it has. -/
theorem ofJson_object {entries : List (String × String)} {members others : List (String × List Char)}
    {object docnames titles : List Char} (hobject : SpellsObject members object)
    (hmembers : members.Perm (("docnames", docnames) :: ("titles", titles) :: others))
    (hdocnames : SpellsTexts (entries.map Prod.fst) docnames)
    (htitles : SpellsTexts (entries.map Prod.snd) titles)
    (hothers : ∀ m ∈ others, m.1 ≠ "docnames" ∧ m.1 ≠ "titles" ∧ IsValue m.2) :
    ofJson (.ofList object) = .ok ⟨entries⟩ := by
  obtain ⟨paths, hpaths, hpathTexts⟩ := hdocnames.exists_readsAs
  obtain ⟨names, hnames, hnameTexts⟩ := htitles.exists_readsAs
  have hvalues : ∀ m ∈ members, ∃ v, ReadsAs m.2 v := by
    intro m hm
    have hm := hmembers.mem_iff.mp hm
    simp only [List.mem_cons] at hm
    obtain rfl | rfl | hm := hm
    · exact ⟨_, hpaths⟩
    · exact ⟨_, hnames⟩
    · exact (hothers m hm).2.2.exists_readsAs
  have : Nonempty Value := ⟨.null⟩
  choose! value hvalue using hvalues
  have hfirst : value ("docnames", docnames) = .array paths :=
    (hvalue _ (hmembers.mem_iff.mpr (by simp))).unique hpaths
  have hsecond : value ("titles", titles) = .array names :=
    (hvalue _ (hmembers.mem_iff.mpr (by simp))).unique hnames
  obtain ⟨ms, hread, hms⟩ := hobject.exists_read? hvalue
  have hnamed := hmembers.map fun m ↦ (m.1, value m)
  simp only [List.map_cons, hfirst, hsecond] at hnamed
  have hdiffer : "docnames" ≠ "titles" := by decide
  have hdocnames :
      member? (members.map fun m ↦ (m.1, value m)) "docnames" = some (.array paths) := by
    refine member?_of_perm hnamed (List.forall_mem_cons.mpr ⟨hdiffer.symm, ?_⟩)
    exact List.forall_mem_map.mpr fun m hm ↦ (hothers m hm).1
  have htitles : member? (members.map fun m ↦ (m.1, value m)) "titles" = some (.array names) := by
    refine member?_of_perm (hnamed.trans (.swap _ _ _)) (List.forall_mem_cons.mpr ⟨hdiffer, ?_⟩)
    exact List.forall_mem_map.mpr fun m hm ↦ (hothers m hm).2.1
  have harrays : arrays? (.object ms) = some (entries.map Prod.fst, entries.map Prod.snd) := by
    simp only [arrays?]
    rw [hms]
    simp [hdocnames, htitles, texts?, hpathTexts, hnameTexts]
  rw [ofJson, hread, Option.bind_some, harrays]
  exact ofArrays_entries entries

/-! ### Scripts -/

theorem ofScript_of_calls {raw argument : String} (h : Calls raw argument) :
    ofScript raw = ofJson argument := by
  rw [← argument?_eq_some_iff] at h
  unfold ofScript
  rw [h]

theorem Calls.unique {raw argument other : String} (h : Calls raw argument)
    (hother : Calls raw other) : other = argument := by
  rw [← argument?_eq_some_iff] at h hother
  exact Option.some.inj (hother.symm.trans h)

theorem ofScript_of_not_calls {raw : String} (h : ¬ ∃ argument, Calls raw argument) :
    ofScript raw = .error .notACall := by
  have hnone : argument? raw = none := by
    rw [Option.eq_none_iff_forall_ne_some]
    intro argument hargument
    rw [argument?_eq_some_iff] at hargument
    exact h ⟨argument, hargument⟩
  unfold ofScript
  rw [hnone]

/-- A bare call with a semicolon behind it. -/
theorem calls_bare (argument : String) :
    Calls ("Search.setIndex(" ++ argument ++ ");") argument := by
  refine ⟨"", "", ";", "", by simp, by simp, by simp, by simp, ?_⟩
  rw [← String.toList_inj]
  simp

/-- A script is read as the JSON of the argument of the call that it is, which is only one, and any
other text is refused; and an index is read off a call of an object with its lists, whatever other
members the object has and however it is written. -/
theorem ofScript_reads_call :
    (∀ raw argument, Calls raw argument →
      ofScript raw = ofJson argument ∧ ∀ other, Calls raw other → other = argument) ∧
    (∀ raw, (¬ ∃ argument, Calls raw argument) → ofScript raw = .error .notACall) ∧
    ∀ (entries : List (String × String)) (members others : List (String × List Char))
      (object docnames titles : List Char), SpellsObject members object →
      members.Perm (("docnames", docnames) :: ("titles", titles) :: others) →
      SpellsTexts (entries.map Prod.fst) docnames → SpellsTexts (entries.map Prod.snd) titles →
      (∀ m ∈ others, m.1 ≠ "docnames" ∧ m.1 ≠ "titles" ∧ IsValue m.2) →
      ofScript ("Search.setIndex(" ++ .ofList object ++ ");") = .ok ⟨entries⟩ := by
  refine ⟨fun raw argument h ↦ ⟨ofScript_of_calls h, fun other ↦ h.unique⟩,
    fun raw ↦ ofScript_of_not_calls, ?_⟩
  intro entries members others object docnames titles hobject hmembers hdocnames htitles hothers
  rw [ofScript_of_calls (calls_bare (.ofList object))]
  exact ofJson_object hobject hmembers hdocnames htitles hothers

/-- What closes a call may stand in its argument as well. -/
theorem ofScript_reads_call_spaced :
    ofScript " Search.setIndex([[\"a)\"],[\";\"]]) ;;\n" = ofJson "[[\"a)\"],[\";\"]]" ∧
      ofScript "Search.setIndex[]" = .error .notACall ∧
      ofScript ("Search.setIndex(" ++ .ofList ("\x7b\"titles\": [\"\\u0041\",\"B\"],".toList ++
          "\"n\":[-1e3],\"docnames\":[\"a\",\"a\"]\x7d".toList) ++ ");") =
        .ok ⟨[("a", "A"), ("a", "B")]⟩ := by
  obtain ⟨hcall, hnoCall, hindex⟩ := ofScript_reads_call
  refine ⟨(hcall _ "[[\"a)\"],[\";\"]]" ?_).1, hnoCall _ ?_,
    hindex [("a", "A"), ("a", "B")]
      [("titles", "[\"\\u0041\",\"B\"]".toList), ("n", "[-1e3]".toList),
        ("docnames", quotedTexts ["a", "a"])]
      [("n", "[-1e3]".toList)] _ (quotedTexts ["a", "a"]) "[\"\\u0041\",\"B\"]".toList
      ?_ (by decide) (spellsTexts_quoted ["a", "a"]) ?_ ?_⟩
  · have hblank : ∀ c ∈ [' '], isBlank c = true := List.forall_mem_singleton.mpr (by decide)
    have hend : ∀ c ∈ ['\n'], isBlank c = true := List.forall_mem_singleton.mpr (by decide)
    rw [calls_iff]
    exact ⟨[' '], [' '], [';', ';'], ['\n'], hblank, hblank, by simp, hend, by decide⟩
  · rintro ⟨argument, h⟩
    have hnone : argument? "Search.setIndex[]" = none := by decide
    rw [← argument?_eq_some_iff, hnone] at h
    cases h
  · have hblank : IsSpaces [' '] := by simp [IsSpaces, isSpace]
    refine ⟨["\"titles\": [\"\\u0041\",\"B\"]".toList, "\"n\":[-1e3]".toList,
      "\"docnames\":[\"a\",\"a\"]".toList], _, [], [], ?_, listed_intercalate _, isSpaces_nil,
      isSpaces_nil, by decide⟩
    exact .cons ⟨_, spells_quoted _, [], [' '], isSpaces_nil, hblank, by decide⟩
      (.cons ⟨_, spells_quoted _, [], [], isSpaces_nil, isSpaces_nil, by decide⟩
        (.cons ⟨_, spells_quoted _, [], [], isSpaces_nil, isSpaces_nil, by decide⟩ .nil))
  · have hcode : Spells ['A'] ['\\', 'u', '0', '0', '4', '1'] :=
      .unit (by decide : hexUnit? '0' '0' '4' '1' = some 0x41) (by decide) .nil
    exact ⟨["\"\\u0041\"".toList, "\"B\"".toList], _,
      .cons ⟨_, hcode, by decide⟩ (.cons ⟨_, spells_quoted _, by decide⟩ .nil),
      listed_intercalate _, by decide⟩
  · have hdigit (c : Char) (hc : c.isDigit = true) : IsDigits [c] :=
      ⟨List.cons_ne_nil _ _, List.forall_mem_singleton.mpr hc⟩
    have hexponent : IsExponent ['e', '3'] :=
      @IsExponent.present 'e' [] ['3'] (.inl rfl) (.inl rfl) (hdigit '3' rfl)
    have hnumeral : Json.IsNumeral "-1e3".toList :=
      @Json.IsNumeral.mk ['-'] ['1'] [] ['e', '3'] (.inr rfl) (hdigit '1' rfl) (by decide) .absent
        hexponent
    have hvalue : IsValue "[-1e3]".toList :=
      .array (listed_intercalate ["-1e3".toList]) fun x hx ↦ List.mem_singleton.mp hx ▸
        .number hnumeral
    intro m hm
    rw [List.mem_singleton.mp hm]
    exact ⟨by decide, by decide, hvalue⟩

/-- The script of an index, which holds the terms of the site beside the two lists. -/
def script (i : Index) : String :=
  "Search.setIndex(" ++ .ofList (quotedObject
    [("docnames", quotedTexts i.docnames), ("terms", quotedObject []),
      ("titles", quotedTexts i.titles)]) ++ ");"

/-- Every index is read back from its script. -/
theorem ofScript_script (i : Index) : ofScript i.script = .ok i := by
  have hterms : IsValue (quotedObject []) :=
    .object (.empty isSpaces_nil) .nil (List.forall_mem_nil _) (List.forall_mem_nil _)
  have hothers : ∀ m ∈ [("terms", quotedObject [])],
      m.1 ≠ "docnames" ∧ m.1 ≠ "titles" ∧ IsValue m.2 := by
    intro m hm
    rw [List.mem_singleton.mp hm]
    exact ⟨by decide, by decide, hterms⟩
  have hobject := ofJson_object (spellsObject_quoted _) (.cons _ (.swap _ _ _))
    (spellsTexts_quoted i.docnames) (spellsTexts_quoted i.titles) hothers
  exact (ofScript_of_calls (calls_bare _)).trans hobject

end SiteSearch.Site.Index
