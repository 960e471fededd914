import SiteSearch.Proofs.Web

/-!
# Programs side by side

`Flow.steps` lists the requests and the calls of a run in the order in which they are made. The
steps of two programs side by side are those of each alone, interleaved as the schedule says
(`steps_both`), and every interleaving has its schedule (`exists_schedule`). So each of the two
gives the result, makes the calls and sends the requests that it would alone.
-/

set_option autoImplicit false
set_option relaxedAutoImplicit false

namespace SiteSearch

/-- The third list holds the entries of the first two, those of each in their order. -/
inductive Interleaving {ε : Type} : List ε → List ε → List ε → Prop where
  | nil : Interleaving [] [] []
  | left {a : ε} {u v w : List ε} : Interleaving u v w → Interleaving (a :: u) v (a :: w)
  | right {b : ε} {u v w : List ε} : Interleaving u v w → Interleaving u (b :: v) (b :: w)

namespace Interleaving

variable {ε ζ : Type} {u v w : List ε}

theorem append (u v : List ε) : Interleaving u v (u ++ v) := by
  induction u with
  | nil =>
    induction v with
    | nil => exact .nil
    | cons b v ih => exact .right ih
  | cons a u ih => exact .left ih

theorem eq_of_nil_right (h : Interleaving u [] w) : w = u := by
  induction u generalizing w with
  | nil =>
    cases h
    rfl
  | cons a u ih =>
    cases h with
    | left h => rw [ih h]

theorem eq_of_nil_left (h : Interleaving [] v w) : w = v := by
  induction v generalizing w with
  | nil =>
    cases h
    rfl
  | cons b v ih =>
    cases h with
    | right h => rw [ih h]

theorem filterMap (f : ε → Option ζ) (h : Interleaving u v w) :
    Interleaving (u.filterMap f) (v.filterMap f) (w.filterMap f) := by
  induction h with
  | nil => exact .nil
  | @left a u v w _ ih =>
    cases ha : f a with
    | none => simpa [ha] using ih
    | some c => simpa [ha] using ih.left
  | @right b u v w _ ih =>
    cases hb : f b with
    | none => simpa [hb] using ih
    | some c => simpa [hb] using ih.right

end Interleaving

namespace Flow

variable {κ μ α β : Type}

/-! ### The steps of a run -/

/-- What a run does, in order. -/
def steps (net : Network) : Flow κ α → List (Url ⊕ κ)
  | .done _ => []
  | .request url next => .inl url :: (next (net url)).steps net
  | .call k next => .inr k :: next.steps net

theorem run_requests_eq (net : Network) (p : Flow κ α) :
    (p.run net).requests = (p.steps net).filterMap Sum.getLeft? := by
  induction p with
  | done a => rfl
  | request url next ih => exact congrArg (url :: ·) (ih (net url))
  | call k next ih => exact ih

theorem run_calls_eq (net : Network) (p : Flow κ α) :
    (p.run net).calls = (p.steps net).filterMap Sum.getRight? := by
  induction p with
  | done a => rfl
  | request url next ih => exact ih (net url)
  | call k next ih => exact congrArg (k :: ·) ih

theorem steps_bind (net : Network) (p : Flow κ α) (f : α → Flow κ β) :
    (p >>= f).steps net = p.steps net ++ (f (p.run net).result).steps net := by
  induction p with
  | done a => rfl
  | request url next ih =>
    change (Flow.request url fun r ↦ next r >>= f).steps net = _
    simp [steps, run, ih]
  | call k next ih =>
    change (Flow.call k (next >>= f)).steps net = _
    simp [steps, run, ih]

theorem steps_mapCalls (net : Network) (f : κ → μ) (p : Flow κ α) :
    (p.mapCalls f).steps net = (p.steps net).map (Sum.map id f) := by
  induction p with
  | done a => rfl
  | request url next ih => simp [mapCalls, steps, ih]
  | call k next ih => simp [mapCalls, steps, ih]

theorem run_mapCalls_result (net : Network) (f : κ → μ) (p : Flow κ α) :
    ((p.mapCalls f).run net).result = (p.run net).result := by
  induction p with
  | done a => rfl
  | request url next ih => exact ih (net url)
  | call k next ih => exact ih

/-- A run depends on the replies to its own requests alone. -/
theorem run_congr {net net' : Network} {p : Flow κ α}
    (h : ∀ url ∈ (p.run net).requests, net' url = net url) : p.run net' = p.run net := by
  induction p with
  | done a => rfl
  | request url next ih =>
    have hurl : net' url = net url := h url (by simp [run])
    have hnext : (next (net url)).run net' = (next (net url)).run net :=
      ih (net url) fun other hother ↦ h other (by simp [run, hother])
    simp only [run, hurl, hnext]
  | call k next ih =>
    have hnext : next.run net' = next.run net := ih h
    simp only [run, hnext]

/-! ### Two programs -/

variable (net : Network) (p : Flow κ α) (q : Flow μ β)

theorem both_nil :
    both [] p q = (do
      let a ← p.mapCalls .inl
      let b ← q.mapCalls .inr
      return (a, b)) :=
  rfl

theorem run_both_result (schedule : List Bool) :
    ((both schedule p q).run net).result = ((p.run net).result, (q.run net).result) := by
  induction schedule generalizing p q with
  | nil =>
    simp only [both_nil, run_bind, run_pure, run_mapCalls_result]
  | cons b schedule ih =>
    cases b with
    | true =>
      cases p with
      | done a => exact ih (.done a) q
      | request url next => exact ih (next (net url)) q
      | call k next => exact ih next q
    | false =>
      cases q with
      | done b => exact ih p (.done b)
      | request url next => exact ih p (next (net url))
      | call k next => exact ih p next

/-- Side by side, each of two programs makes the steps that it makes alone. -/
theorem steps_both (schedule : List Bool) :
    Interleaving ((p.steps net).map (Sum.map id .inl)) ((q.steps net).map (Sum.map id .inr))
      ((both schedule p q).steps net) := by
  induction schedule generalizing p q with
  | nil =>
    have hpure (c : α × β) : (pure c : Flow (κ ⊕ μ) (α × β)).steps net = [] := rfl
    simp only [both_nil, steps_bind, steps_mapCalls, hpure, List.append_nil]
    exact Interleaving.append _ _
  | cons b schedule ih =>
    cases b with
    | true =>
      cases p with
      | done a => exact ih (.done a) q
      | request url next => exact (ih (next (net url)) q).left
      | call k next => exact (ih next q).left
    | false =>
      cases q with
      | done b => exact ih p (.done b)
      | request url next => exact (ih p (next (net url))).right
      | call k next => exact (ih p next).right

/-- Every interleaving of the steps of two programs is brought about by a schedule. -/
theorem exists_schedule {w : List (Url ⊕ (κ ⊕ μ))}
    (h : Interleaving ((p.steps net).map (Sum.map id .inl)) ((q.steps net).map (Sum.map id .inr))
      w) : ∃ schedule, (both schedule p q).steps net = w := by
  generalize hu : (p.steps net).map (Sum.map id (Sum.inl : κ → κ ⊕ μ)) = u at h
  generalize hv : (q.steps net).map (Sum.map id (Sum.inr : μ → κ ⊕ μ)) = v at h
  induction h generalizing p q with
  | nil =>
    refine ⟨[], ?_⟩
    have hsteps := steps_both net p q []
    rw [hu, hv] at hsteps
    exact hsteps.eq_of_nil_right
  | left _ ih =>
    cases p with
    | done a => cases hu
    | request url next =>
      obtain ⟨rfl, hnext⟩ := List.cons.inj hu
      obtain ⟨schedule, hschedule⟩ := ih (next (net url)) q hnext hv
      exact ⟨true :: schedule, congrArg _ hschedule⟩
    | call k next =>
      obtain ⟨rfl, hnext⟩ := List.cons.inj hu
      obtain ⟨schedule, hschedule⟩ := ih next q hnext hv
      exact ⟨true :: schedule, congrArg _ hschedule⟩
  | right _ ih =>
    cases q with
    | done b => cases hv
    | request url next =>
      obtain ⟨rfl, hnext⟩ := List.cons.inj hv
      obtain ⟨schedule, hschedule⟩ := ih p (next (net url)) hu hnext
      exact ⟨false :: schedule, congrArg _ hschedule⟩
    | call k next =>
      obtain ⟨rfl, hnext⟩ := List.cons.inj hv
      obtain ⟨schedule, hschedule⟩ := ih p next hu hnext
      exact ⟨false :: schedule, congrArg _ hschedule⟩

theorem run_both_requests (schedule : List Bool) :
    Interleaving (p.run net).requests (q.run net).requests
      ((both schedule p q).run net).requests := by
  have hleft {ν ξ : Type} (f : ν → ξ) :
      (Sum.getLeft? : Url ⊕ ξ → Option Url) ∘ Sum.map id f = Sum.getLeft? := by
    funext step
    cases step <;> rfl
  have h := (steps_both net p q schedule).filterMap Sum.getLeft?
  rw [List.filterMap_map, List.filterMap_map, hleft, hleft] at h
  rw [run_requests_eq, run_requests_eq, run_requests_eq]
  exact h

theorem run_both_calls (schedule : List Bool) :
    Interleaving ((p.run net).calls.map Sum.inl) ((q.run net).calls.map Sum.inr)
      ((both schedule p q).run net).calls := by
  have hright {ν ξ : Type} (f : ν → ξ) :
      (Sum.getRight? : Url ⊕ ξ → Option ξ) ∘ Sum.map id f =
        fun step ↦ (Sum.getRight? step).map f := by
    funext step
    cases step <;> rfl
  have h := (steps_both net p q schedule).filterMap Sum.getRight?
  rw [List.filterMap_map, List.filterMap_map, hright, hright, ← List.map_filterMap,
    ← List.map_filterMap] at h
  rw [run_calls_eq, run_calls_eq, run_calls_eq]
  exact h

/-- Of the calls of two programs side by side, those of each are the ones that it makes alone. -/
theorem run_both_calls_eq (schedule : List Bool) :
    ((both schedule p q).run net).calls.filterMap Sum.getLeft? = (p.run net).calls ∧
      ((both schedule p q).run net).calls.filterMap Sum.getRight? = (q.run net).calls := by
  have h := run_both_calls net p q schedule
  have hothers {ν ξ : Type} (l : List ν) : l.filterMap (fun _ ↦ (none : Option ξ)) = [] :=
    List.filterMap_eq_nil_iff.mpr fun _ _ ↦ rfl
  constructor
  · have hcalls := h.filterMap Sum.getLeft?
    rw [List.filterMap_map, List.filterMap_map,
      show (Sum.getLeft? : κ ⊕ μ → Option κ) ∘ Sum.inl = some from rfl, List.filterMap_some,
      show (Sum.getLeft? : κ ⊕ μ → Option κ) ∘ Sum.inr = fun _ ↦ none from rfl, hothers] at hcalls
    exact hcalls.eq_of_nil_right
  · have hcalls := h.filterMap Sum.getRight?
    rw [List.filterMap_map, List.filterMap_map,
      show (Sum.getRight? : κ ⊕ μ → Option μ) ∘ Sum.inl = fun _ ↦ none from rfl, hothers,
      show (Sum.getRight? : κ ⊕ μ → Option μ) ∘ Sum.inr = some from rfl,
      List.filterMap_some] at hcalls
    exact hcalls.eq_of_nil_left

end Flow

end SiteSearch
