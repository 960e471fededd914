import SiteSearch.Proofs.Site.Script
import SiteSearch.Proofs.Web

/-!
# Titles in an index

An index is made from a list of paths and a list of titles, which are given, read off JSON or off a
script, or fetched (`Origin`). It holds pairs, so nothing may be lost when the two lists are put
together: however it is made, lists of different lengths are refused, and an index has all the paths
and titles of its lists (`Origin.make_of_gives`, `lists_of_ofArrays`). What is looked up in it is
then found in the two lists: a path at the first place where it stands, and with it the title at
that place (`Origin.make_looks_up`).
-/

set_option autoImplicit false
set_option relaxedAutoImplicit false

namespace SiteSearch.Site

namespace Index

variable {i : Index} {path title : String} {n : Nat}

/-! ### Looking up -/

theorem entries_eq (i : Index) : i.entries = i.docnames.zip i.titles := by
  rw [docnames, titles, List.zip_map', List.map_id']

theorem length_titles (i : Index) : i.titles.length = i.docnames.length := by
  rw [titles, docnames, List.length_map, List.length_map]

/-- A position is that of the first page with the path. -/
theorem position?_eq_some_iff :
    i.position? path = some n ↔
      i.docnames[n]? = some path ∧ ∀ m < n, i.docnames[m]? ≠ some path := by
  rw [position?, List.findIdx?_eq_some_iff_getElem]
  simp only [docnames, List.getElem?_map, decide_eq_true_eq, Option.map_eq_some_iff, ne_eq,
    List.getElem?_eq_some_iff]
  constructor
  · rintro ⟨hn, hpath, hbefore⟩
    refine ⟨⟨_, ⟨hn, rfl⟩, hpath⟩, ?_⟩
    rintro m hm ⟨e, ⟨_, rfl⟩, he⟩
    exact hbefore m hm he
  · rintro ⟨⟨e, ⟨hn, rfl⟩, hpath⟩, hbefore⟩
    exact ⟨hn, hpath, fun m hm he ↦ hbefore m hm ⟨_, ⟨Nat.lt_trans hm hn, rfl⟩, he⟩⟩

/-- A title is the one that stands at the position of its path. -/
theorem titleFor_eq (i : Index) (path : String) :
    i.titleFor path = (i.position? path).bind fun n ↦ i.titles[n]? := by
  rw [titleFor, position?, List.find?_eq_bind_findIdx?_getElem?, Option.map_bind]
  simp only [titles, List.getElem?_map]
  rfl

/-- At each position there is a title. -/
theorem exists_title_of_position? (h : i.position? path = some n) :
    ∃ title, i.titles[n]? = some title ∧ i.titleFor path = some title := by
  obtain ⟨hn, -⟩ := List.getElem?_eq_some_iff.mp (position?_eq_some_iff.mp h).1
  rw [← length_titles] at hn
  exact ⟨i.titles[n], List.getElem?_eq_getElem hn, by
    rw [titleFor_eq, h, Option.bind_some, List.getElem?_eq_getElem hn]⟩

/-- A title is that of the first page with the path. -/
theorem titleFor_eq_some_iff :
    i.titleFor path = some title ↔
      ∃ before after, i.entries = before ++ (path, title) :: after ∧ ∀ e ∈ before, e.1 ≠ path := by
  rw [titleFor, Option.map_eq_some_iff]
  simp only [List.find?_eq_some_iff_append, decide_eq_true_eq, Bool.not_eq_true',
    decide_eq_false_iff_not]
  constructor
  · rintro ⟨⟨_, _⟩, ⟨rfl, before, after, hsplit, hbefore⟩, rfl⟩
    exact ⟨before, after, hsplit, hbefore⟩
  · rintro ⟨before, after, hsplit, hbefore⟩
    exact ⟨(path, title), ⟨rfl, before, after, hsplit, hbefore⟩, rfl⟩

theorem titleFor_eq_none_iff : i.titleFor path = none ↔ path ∉ i.docnames := by
  simp only [titleFor, Option.map_eq_none_iff, List.find?_eq_none, decide_eq_true_eq, docnames,
    List.mem_map, not_exists, not_and]

/-! ### Making an index -/

/-- An index is made from lists with just the paths and the titles that it has. -/
theorem lists_of_ofArrays {docnames titles : List String} (h : ofArrays docnames titles = .ok i) :
    i.docnames = docnames ∧ i.titles = titles := by
  rw [ofArrays] at h
  split at h
  · next hlength =>
    obtain rfl := Except.ok.inj h
    exact ⟨List.map_fst_zip (Nat.le_of_eq hlength), List.map_snd_zip (Nat.le_of_eq hlength.symm)⟩
  · cases h

/-- The two lists that a JSON text holds. -/
def listsOfJson? (raw : String) : Option (List String × List String) :=
  (Json.read? raw).bind arrays?

/-- What an index is made from. -/
inductive Origin where
  /-- A list of paths and a list of titles. -/
  | lists (docnames titles : List String)
  /-- A JSON text. -/
  | json (raw : String)
  /-- A script. -/
  | script (raw : String)
  /-- The script of the site at a root. -/
  | site (root : Url)
  /-- Nothing. -/
  | nothing

/-- The index that is made, on a network. -/
def Origin.make (net : Network) : Origin → Except Failure Index
  | .lists docnames titles => (ofArrays docnames titles).mapError .index
  | .json raw => (ofJson raw).mapError .index
  | .script raw => (ofScript raw).mapError .index
  | .site root => ((fetch root : Flow Empty _).run net).result
  | .nothing => .ok empty

/-- The two lists that there are to make an index from. -/
def Origin.Gives (net : Network) (docnames titles : List String) : Origin → Prop
  | .lists paths names => paths = docnames ∧ names = titles
  | .json raw => listsOfJson? raw = some (docnames, titles)
  | .script raw => ∃ argument, Calls raw argument ∧ listsOfJson? argument = some (docnames, titles)
  | .site root => ∃ url raw argument, root.join scriptName = .ok url ∧
      Web.wholeText? (Web.reply net url) = some raw ∧ Calls raw argument ∧
      listsOfJson? argument = some (docnames, titles)
  | .nothing => docnames = [] ∧ titles = []

variable {net : Network} {o : Origin} {docnames titles : List String}

theorem ofJson_of_lists {raw : String} (h : listsOfJson? raw = some (docnames, titles)) :
    ofJson raw = ofArrays docnames titles := by
  rw [ofJson, ← listsOfJson?, h]

theorem result_fetch {root url : Url} (hjoin : root.join scriptName = .ok url) :
    ((fetch root : Flow Empty _).run net).result =
      (Web.textOf url (Web.reply net url)).bind fun raw ↦ (ofScript raw).mapError .index := by
  unfold fetch
  rw [hjoin]
  dsimp only
  rw [Flow.run_bind, Web.run_getText]
  cases Web.textOf url (Web.reply net url) with
  | error failure => rfl
  | ok raw => simp only [Flow.run_pure, Except.bind]

/-- All that an index is made from are its two lists. -/
theorem Origin.make_of_gives (h : o.Gives net docnames titles) :
    o.make net = (ofArrays docnames titles).mapError .index := by
  cases o with
  | lists paths names =>
    obtain ⟨rfl, rfl⟩ := h
    rfl
  | json raw => rw [make, ofJson_of_lists h]
  | script raw =>
    obtain ⟨argument, hcalls, hlists⟩ := h
    rw [make, ofScript_of_calls hcalls, ofJson_of_lists hlists]
  | site root =>
    obtain ⟨url, raw, argument, hjoin, htext, hcalls, hlists⟩ := h
    rw [make, result_fetch hjoin, Web.textOf_eq_ok_iff.mpr htext, Except.bind,
      ofScript_of_calls hcalls, ofJson_of_lists hlists]
  | nothing =>
    obtain ⟨rfl, rfl⟩ := h
    rfl

theorem exists_lists_of_ofJson {raw : String} (h : ofJson raw = .ok i) :
    ∃ docnames titles, listsOfJson? raw = some (docnames, titles) := by
  rw [ofJson, ← listsOfJson?] at h
  cases hlists : listsOfJson? raw with
  | none => rw [hlists] at h; cases h
  | some lists => exact ⟨lists.1, lists.2, rfl⟩

theorem exists_lists_of_ofScript {raw : String} (h : ofScript raw = .ok i) :
    ∃ docnames titles argument, Calls raw argument ∧
      listsOfJson? argument = some (docnames, titles) := by
  unfold ofScript at h
  cases hargument : argument? raw with
  | none => rw [hargument] at h; cases h
  | some argument =>
    rw [hargument] at h
    obtain ⟨docnames, titles, hlists⟩ := exists_lists_of_ofJson h
    rw [argument?_eq_some_iff] at hargument
    exact ⟨docnames, titles, argument, hargument, hlists⟩

theorem eq_ok_of_mapError {ε δ α : Type} {f : ε → δ} {x : Except ε α} {a : α}
    (h : x.mapError f = .ok a) : x = .ok a := by
  cases x with
  | error e => cases h
  | ok b => exact congrArg Except.ok (Except.ok.inj h)

/-- An index is made from two lists only. -/
theorem Origin.exists_gives (h : o.make net = .ok i) :
    ∃ docnames titles, o.Gives net docnames titles := by
  cases o with
  | lists paths names => exact ⟨paths, names, rfl, rfl⟩
  | json raw =>
    rw [make] at h
    exact exists_lists_of_ofJson (eq_ok_of_mapError h)
  | script raw =>
    rw [make] at h
    obtain ⟨docnames, titles, argument, hscript⟩ := exists_lists_of_ofScript (eq_ok_of_mapError h)
    exact ⟨docnames, titles, argument, hscript⟩
  | site root =>
    cases hjoin : root.join scriptName with
    | error fault =>
      rw [make] at h
      unfold fetch at h
      rw [hjoin] at h
      cases h
    | ok url =>
      rw [make, result_fetch hjoin] at h
      cases htext : Web.textOf url (Web.reply net url) with
      | error failure => rw [htext] at h; cases h
      | ok raw =>
        rw [htext, Except.bind] at h
        obtain ⟨docnames, titles, argument, hscript⟩ :=
          exists_lists_of_ofScript (eq_ok_of_mapError h)
        exact ⟨docnames, titles, url, raw, argument, hjoin, Web.textOf_eq_ok_iff.mp htext, hscript⟩
  | nothing => exact ⟨[], [], rfl, rfl⟩

/-- Lists of different lengths are refused, whatever they are given as, and lists of one length make
an index. Every index that is made is the one of such lists, and it has all their pairs. A path is
found where it stands first, and the title found for it is the one at that place, which is that of
the first pair with the path; none is found just if the path does not stand in the list. -/
theorem Origin.make_looks_up (net : Network) (o : Origin) :
    (∀ docnames titles, o.Gives net docnames titles → docnames.length ≠ titles.length →
      o.make net = .error (.index (.lengths docnames.length titles.length))) ∧
    (∀ docnames titles, o.Gives net docnames titles → docnames.length = titles.length →
      o.make net = .ok ⟨docnames.zip titles⟩) ∧
    ∀ i, o.make net = .ok i → ∃ docnames titles, o.Gives net docnames titles ∧
      docnames.length = titles.length ∧ i.docnames = docnames ∧ i.titles = titles ∧
      i.length = docnames.length ∧ i.entries = docnames.zip titles ∧ i.entries.length = i.length ∧
      ∀ path,
        (∀ n, i.position? path = some n ↔
          docnames[n]? = some path ∧ ∀ m < n, docnames[m]? ≠ some path) ∧
        (∀ n, i.position? path = some n → ∃ title, titles[n]? = some title ∧
          i.titleFor path = some title ∧ ∃ before after,
            i.entries = before ++ (path, title) :: after ∧ ∀ e ∈ before, e.1 ≠ path) ∧
        (i.titleFor path = none ↔ path ∉ docnames) := by
  refine ⟨fun docnames titles hgives hlength ↦ ?_, fun docnames titles hgives hlength ↦ ?_,
    fun i hi ↦ ?_⟩
  · rw [make_of_gives hgives, ofArrays, if_neg hlength]
    rfl
  · rw [make_of_gives hgives, ofArrays, if_pos hlength]
    rfl
  · obtain ⟨docnames, titles, hgives⟩ := exists_gives hi
    rw [make_of_gives hgives] at hi
    obtain ⟨rfl, rfl⟩ := lists_of_ofArrays (eq_ok_of_mapError hi)
    refine ⟨_, _, hgives, i.length_titles.symm, rfl, rfl, (List.length_map _).symm, i.entries_eq,
      rfl, fun path ↦ ⟨fun n ↦ position?_eq_some_iff, fun n hn ↦ ?_, titleFor_eq_none_iff⟩⟩
    obtain ⟨title, htitle, hfound⟩ := exists_title_of_position? hn
    exact ⟨title, htitle, hfound, titleFor_eq_some_iff.mp hfound⟩

/-- A site that lists a path twice, and a JSON text with a title too few. -/
theorem Origin.make_looks_up_twice :
    let raw := "Search.setIndex([[\"a\",\"b\",\"b\"],[\"A\",\"B\",\"C\"]]);"
    let net : Network := fun _ ↦ some ⟨200, [raw.toUTF8.toList], false⟩
    (∃ i, make net (.site ⟨"http", none, .segments [""], none, none⟩) = .ok i ∧
      i.position? "b" = some 1 ∧ i.titleFor "b" = some "B") ∧
    make net (.json "[[\"a\",\"b\"],[\"A\"]]") = .error (.index (.lengths 2 1)) := by
  intro raw net
  let root : Url := ⟨"http", none, .segments [""], none, none⟩
  obtain ⟨htwice, hlists⟩ :
      listsOfJson? "[[\"a\",\"b\",\"b\"],[\"A\",\"B\",\"C\"]]" =
          some (["a", "b", "b"], ["A", "B", "C"]) ∧
        listsOfJson? "[[\"a\",\"b\"],[\"A\"]]" = some (["a", "b"], ["A"]) := by
    decide +kernel
  have hcalls : Calls raw "[[\"a\",\"b\",\"b\"],[\"A\",\"B\",\"C\"]]" := by
    have hraw : raw =
        "Search.setIndex(" ++ "[[\"a\",\"b\",\"b\"],[\"A\",\"B\",\"C\"]]" ++ ");" := by
      decide
    rw [hraw]
    exact calls_bare _
  have hgives : (Origin.site root).Gives net ["a", "b", "b"] ["A", "B", "C"] :=
    ⟨_, raw, _, rfl, Web.wholeText?_toUTF8 raw, hcalls, htwice⟩
  have hmake : make net (.site root) = .ok ⟨[("a", "A"), ("b", "B"), ("b", "C")]⟩ :=
    (make_looks_up net _).2.1 _ _ hgives rfl
  refine ⟨⟨_, hmake, ?_⟩, (make_looks_up net (.json _)).1 _ _ hlists (by decide)⟩
  obtain ⟨docnames, titles, -, -, rfl, rfl, -, -, -, hpath⟩ := (make_looks_up net _).2.2 _ hmake
  obtain ⟨hposition, htitle, -⟩ := hpath "b"
  have hfirst := (hposition 1).mpr (by decide)
  obtain ⟨title, hat, hfound, -⟩ := htitle 1 hfirst
  obtain rfl := Option.some.inj hat
  exact ⟨hfirst, hfound⟩

end Index

end SiteSearch.Site
