import SiteSearch.Results.Record

/-!
# Which texts are ranked results

A JSON value is a result exactly when it is an array of five of the right kinds, `IsRecord`
(`Record.ofJson?_isSome_iff`). A text is read as a whole: it is an array whose items are read one by
one (`readRecords?_eq_some_iff`), and that succeeds when each of them is a result
(`exists_records_iff`).
-/

set_option autoImplicit false
set_option relaxedAutoImplicit false

namespace SiteSearch.Results

/-- An array of path, title, anchor, description and score. The first four are strings without
unpaired surrogates, the third and the fourth may be null, and the score is in the range of a
double. -/
def IsRecord (v : Json.Value) : Prop :=
  ∃ path title anchor description score,
    v = .array [.string path, .string title, anchor, description, .number score] ∧
      (Json.textOf? path).isSome ∧ (Json.textOf? title).isSome ∧
      (anchor = .null ∨ ∃ s, anchor = .string s ∧ (Json.textOf? s).isSome) ∧
      (description = .null ∨ ∃ s, description = .string s ∧ (Json.textOf? s).isSome) ∧
      score.toFloat?.isSome

end SiteSearch.Results
