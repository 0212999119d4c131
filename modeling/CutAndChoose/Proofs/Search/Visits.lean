import Mathlib
import CutAndChoose.Proofs.Search.Outcome
import CutAndChoose.Proofs.Soundness.Words

/-!
# CutAndChoose.Proofs.Search.Visits

A search as a loop over the checked estimator: it visits the pairs of its grid in order and appends
each pair to the list of evaluations and, if it is accepted, to the list of accepted pairs.

* `InStep`: what the two lists have in common after some visits. One visit keeps it
  (`InStep.visit`), and so does the whole loop (`InStep.visitAll`).
* `InStep.ne_none`, `visitAll_eq_error`: the loop aborts only on a pair on which the estimator does,
  and passes no such pair.
* `search_eq_visitAll`: a search is this loop behind the check of its config.
-/

namespace CutAndChoose

/-- What a search has found after some visits. -/
structure Visited where
  evaluations : List Evaluation
  accepted : List Params

namespace Config

/-- One pair, with the estimator on words. -/
def visit (c : Config) (v : Visited) (p : Params) : Except Overflow Visited :=
  match checkedWorstError p.m p.tau c.parties with
  | none => .error ⟨p.m, p.tau⟩
  | some worst =>
    let accepted := worst.lt c.target
    .ok ⟨v.evaluations ++ [⟨p, worst, accepted⟩],
      if accepted then v.accepted ++ [p] else v.accepted⟩

/-- All pairs of a list, up to the first that aborts. -/
def visitAll (c : Config) : Visited → List Params → Except Overflow Visited
  | v, [] => .ok v
  | v, p :: rest =>
    match c.visit v p with
    | .error e => .error e
    | .ok v' => c.visitAll v' rest

end Config

/-- The evaluation of a pair holds its worst error and the decision on it. -/
structure Evaluation.IsOf (e : Evaluation) (c : Config) : Prop where
  worst : worstErrorOfWords e.params.m e.params.tau c.parties = .ok e.worstError
  decision : e.accepted = true ↔ e.worstError.lt c.target = true

/-- After visits to `ps` there is one evaluation for each of them, and the accepted pairs are those
whose evaluation says so. -/
structure InStep (c : Config) (ps : List Params) (v : Visited) : Prop where
  params : v.evaluations.map (·.params) = ps
  evaluations : ∀ e ∈ v.evaluations, e.IsOf c
  accepted : v.accepted = (v.evaluations.filter (·.accepted)).map (·.params)

section Visits

variable {c : Config} {ps rest : List Params} {p : Params} {v v' : Visited} {e : Overflow}

theorem inStep_nil (c : Config) : InStep c [] ⟨[], []⟩ :=
  ⟨rfl, by simp, rfl⟩

theorem InStep.visit (h : InStep c ps v) (hvisit : c.visit v p = .ok v') :
    InStep c (ps ++ [p]) v' := by
  unfold Config.visit at hvisit
  cases hworst : checkedWorstError p.m p.tau c.parties with
  | none =>
    rw [hworst] at hvisit
    cases hvisit
  | some worst =>
    rw [hworst] at hvisit
    cases hvisit
    refine ⟨?_, ?_, ?_⟩
    · simp [h.params]
    · intro e he
      rcases List.mem_append.1 he with he | he
      · exact h.evaluations e he
      · cases List.mem_singleton.1 he
        exact ⟨checkedWorstError_eq_some_iff.1 hworst, Iff.rfl⟩
    · cases hlt : worst.lt c.target with
      | true => simp [h.accepted]
      | false => simp [h.accepted]

/-- By induction on the pairs that are left. -/
theorem InStep.visitAll (h : InStep c ps v) (hvisits : c.visitAll v rest = .ok v') :
    InStep c (ps ++ rest) v' := by
  induction rest generalizing ps v with
  | nil =>
    cases hvisits
    rwa [List.append_nil]
  | cons p rest ih =>
    rw [Config.visitAll] at hvisits
    cases hvisit : c.visit v p with
    | error e =>
      rw [hvisit] at hvisits
      cases hvisits
    | ok next =>
      rw [hvisit] at hvisits
      have hnext := ih (h.visit hvisit) hvisits
      rwa [List.append_assoc, List.singleton_append] at hnext

/-- Where the loop has been, the estimator has not aborted. -/
theorem InStep.ne_none (h : InStep c ps v) (hp : p ∈ ps) :
    checkedWorstError p.m p.tau c.parties ≠ none := by
  rw [← h.params] at hp
  obtain ⟨e, he, rfl⟩ := List.mem_map.1 hp
  rw [checkedWorstError_eq_some_iff.2 (h.evaluations e he).worst]
  exact Option.some_ne_none _

theorem checkedWorstError_of_fits (p : Params) (n : UInt32) :
    checkedWorstError p.m p.tau n =
      if p.fits then some (worstError p.m.toNat p.tau.toNat n.toNat) else none := by
  rw [checkedWorstError_eq, worstErrorOfWords, Params.fits]
  by_cases h : PairFits p.m.toNat p.tau.toNat
  · simp [h, Except.toOption]
  · simp [h, Except.toOption]

theorem visit_of_fits (h : p.fits = true) : ∃ v', c.visit v p = .ok v' := by
  rw [Config.visit, checkedWorstError_of_fits, if_pos h]
  exact ⟨_, rfl⟩

theorem visit_of_not_fits (h : p.fits = false) : c.visit v p = .error ⟨p.m, p.tau⟩ := by
  rw [Config.visit, checkedWorstError_of_fits, h]
  rfl

/-- The loop stops at the first pair that does not fit, and at no other. -/
theorem visitAll_cases (c : Config) (v : Visited) (ps : List Params) :
    match ps.find? (!·.fits) with
    | some p => c.visitAll v ps = .error ⟨p.m, p.tau⟩
    | none => ∃ v', c.visitAll v ps = .ok v' := by
  induction ps generalizing v with
  | nil => exact ⟨v, rfl⟩
  | cons p rest ih =>
    rw [List.find?_cons, Config.visitAll]
    cases hfits : p.fits with
    | false => rw [visit_of_not_fits hfits]; rfl
    | true =>
      obtain ⟨next, hnext⟩ := @visit_of_fits c p v hfits
      rw [hnext]
      exact ih next

/-- The pair on which the loop stops is one on which the estimator aborts. -/
theorem visitAll_eq_error (h : c.visitAll v ps = .error e) :
    ∃ p ∈ ps, checkedWorstError p.m p.tau c.parties = none ∧ e = ⟨p.m, p.tau⟩ := by
  have hloop := visitAll_cases c v ps
  cases hfind : ps.find? (!·.fits) with
  | some p =>
    rw [hfind] at hloop
    rw [hloop] at h
    cases h
    have hfits := List.find?_some hfind
    rw [Bool.not_eq_true'] at hfits
    refine ⟨p, List.mem_of_find?_eq_some hfind, ?_, rfl⟩
    rw [checkedWorstError_of_fits, hfits]
    rfl
  | none =>
    rw [hfind] at hloop
    obtain ⟨v', hv⟩ := hloop
    rw [hv] at h
    cases h

theorem Evaluation.IsOf.eq {e : Evaluation} (h : e.IsOf c) : c.evaluate e.params = e := by
  have hworst := h.worst
  have hdecision := Bool.eq_iff_iff.2 h.decision
  unfold worstErrorOfWords at hworst
  split at hworst
  · rw [Except.ok.injEq] at hworst
    simp only [Config.evaluate, hworst, ← hdecision]
  · cases hworst

/-- The evaluations are determined by the pairs that were visited. -/
theorem InStep.evaluations_eq (h : InStep c ps v) : v.evaluations = ps.map c.evaluate := by
  have hself : v.evaluations.map (c.evaluate ∘ (·.params)) = v.evaluations.map id :=
    List.map_congr_left fun e he => (h.evaluations e he).eq
  rw [← h.params, List.map_map, hself, List.map_id]

/-- So is all that the loop returns. -/
theorem InStep.eq (h : InStep c ps v) :
    v = ⟨ps.map c.evaluate, ((ps.map c.evaluate).filter (·.accepted)).map (·.params)⟩ := by
  rw [← h.evaluations_eq, ← h.accepted]

end Visits

/-- A search is its loop over the grid, from two empty lists, with the best of the accepted pairs
selected at the end. -/
theorem search_eq_visitAll (c : Config) :
    search c =
      match c.check with
      | .error f => .error (.config f)
      | .ok () =>
        match c.visitAll ⟨[], []⟩ c.pairs with
        | .error e => .error (.overflow e)
        | .ok v => .ok ⟨c, v.evaluations, v.accepted, bestOf v.accepted⟩ := by
  unfold search
  cases c.check with
  | error f => rfl
  | ok u =>
    have hloop := visitAll_cases c ⟨[], []⟩ c.pairs
    cases hfind : c.pairs.find? (!·.fits) with
    | some p =>
      rw [hfind] at hloop
      rw [hloop]
    | none =>
      rw [hfind] at hloop
      obtain ⟨v, hv⟩ := hloop
      have hstep := ((inStep_nil c).visitAll hv).eq
      rw [hv, hstep]
      rfl

end CutAndChoose
