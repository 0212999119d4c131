import Mathlib
import CutAndChoose.Proofs.Search.Overflow

/-!
# CutAndChoose.Proofs.Search.Result

The result of a search, whichever it is: a refusal, an abort or an outcome.

* `Outcome.IsOf`: the outcome of a search on a config, by what is in it. The loop of a search leaves
  such an outcome behind (`InStep.outcome_of`), and there is only one (`Outcome.IsOf.eq`).
* `result_of_search`: when a search gives an outcome, and all that is in it.
-/

namespace CutAndChoose

/-- The outcome of a search on a config: one evaluation for each pair of the grid, in the order of
the grid, the accepted pairs in the same order, each once, and the best of these. -/
structure Outcome.IsOf (o : Outcome) (c : Config) : Prop where
  config : o.config = c
  grid : c.grid = .ok (o.evaluations.map (·.params))
  evaluations : ∀ e ∈ o.evaluations, e.IsOf c
  accepted : o.accepted = (o.evaluations.filter (·.accepted)).map (·.params)
  nodup : o.accepted.Nodup
  best : o.best = bestOf o.accepted

section Result

variable {c : Config} {o : Outcome} {v : Visited}

/-- The accepted pairs are pairs of the grid with some left out, so none stands there twice. -/
theorem InStep.nodup (h : InStep c c.pairs v) : v.accepted.Nodup := by
  have hsub : v.accepted.Sublist c.pairs := by
    rw [h.accepted, ← h.params]
    exact List.filter_sublist.map _
  exact c.pairs_nodup.sublist hsub

/-- What the loop leaves behind makes an outcome. -/
theorem InStep.outcome_of (hcheck : c.check = .ok ()) (h : InStep c c.pairs v) :
    Outcome.IsOf ⟨c, v.evaluations, v.accepted, bestOf v.accepted⟩ c where
  config := rfl
  grid := by rw [Config.grid_of_check hcheck, h.params]
  evaluations := h.evaluations
  accepted := h.accepted
  nodup := h.nodup
  best := rfl

/-- No two outcomes have these properties. -/
theorem Outcome.IsOf.eq (hcheck : c.check = .ok ()) (h : o.IsOf c) : o = c.outcome := by
  have hgrid := h.grid
  rw [Config.grid_of_check hcheck, Except.ok.injEq] at hgrid
  have hstep : InStep c c.pairs ⟨o.evaluations, o.accepted⟩ :=
    ⟨hgrid.symm, h.evaluations, h.accepted⟩
  have hlists := hstep.eq
  rw [Visited.mk.injEq] at hlists
  calc o = ⟨o.config, o.evaluations, o.accepted, o.best⟩ := rfl
    _ = c.outcome := by
      rw [h.best, h.config, hlists.1, hlists.2]
      rfl

theorem search_eq_refusal_iff {f : Config.Fault} :
    search c = .error (.config f) ↔ c.check = .error f := by
  rw [search_eq_visitAll]
  cases c.check with
  | error g => simp
  | ok u => cases c.visitAll ⟨[], []⟩ c.pairs <;> simp

theorem check_of_search (h : search c = .ok o) : c.check = .ok () :=
  Config.check_eq_ok_iff.2 (search_eq_ok_iff.1 h).1

/-- What a search returns was put together by its loop. -/
theorem Outcome.IsOf.of_search (h : search c = .ok o) : o.IsOf c := by
  have hcheck := check_of_search h
  rw [search_eq_visitAll, hcheck] at h
  cases hloop : c.visitAll ⟨[], []⟩ c.pairs with
  | error e =>
    simp only [hloop] at h
    cases h
  | ok v =>
    simp only [hloop] at h
    cases h
    exact ((inStep_nil c).visitAll hloop).outcome_of hcheck

theorem search_eq_some_outcome_iff : (∃ o, search c = .ok o) ↔
    c.check = .ok () ∧ c.corner.m.toNat + c.corner.tau.toNat < 2 ^ 32 := by
  constructor
  · intro ⟨o, ho⟩
    have hcheck := check_of_search ho
    obtain ⟨hchecked, -, rfl⟩ := search_eq_ok_iff.1 ho
    exact ⟨hcheck, (search_eq_outcome_iff hchecked).1 ho⟩
  · intro ⟨hcheck, hsum⟩
    exact ⟨c.outcome, (search_eq_outcome_iff (Config.check_eq_ok_iff.1 hcheck)).2 hsum⟩

theorem search_eq_abort_iff : (∃ e, search c = .error (.overflow e)) ↔
    c.check = .ok () ∧ 2 ^ 32 ≤ c.corner.m.toNat + c.corner.tau.toNat := by
  cases hcheck : c.check with
  | error f => simp [search_eq_refusal_iff.2 hcheck]
  | ok u =>
    have hchecked := Config.check_eq_ok_iff.1 hcheck
    constructor
    · intro ⟨e, he⟩
      refine ⟨rfl, not_lt.1 fun hsum => ?_⟩
      rw [(search_eq_outcome_iff hchecked).2 hsum] at he
      cases he
    · intro ⟨_, hsum⟩
      obtain ⟨p, -, -, hsearch⟩ := search_eq_overflow hchecked hsum
      exact ⟨_, hsearch⟩

end Result

/-- A search refuses what the check of its config refuses. On a checked config it aborts if the sum
of the largest `m` and the largest `tau` leaves the word, and otherwise gives the only outcome that
`IsOf` the config. -/
theorem result_of_search (c : Config) :
    (∀ f, search c = .error (.config f) ↔ c.check = .error f) ∧
    (∀ f, c.check = .error f →
      ∃ e, search c = .error e ∧ e.failure = f.failure ∧ e.failure.exitCode = 2) ∧
    ((∃ e, search c = .error (.overflow e)) ↔
      c.check = .ok () ∧ 2 ^ 32 ≤ c.corner.m.toNat + c.corner.tau.toNat) ∧
    ((∃ o, search c = .ok o) ↔
      c.check = .ok () ∧ c.corner.m.toNat + c.corner.tau.toNat < 2 ^ 32) ∧
    ∀ o, search c = .ok o → o.IsOf c ∧ ∀ o' : Outcome, o'.IsOf c → o' = o := by
  refine ⟨fun f => search_eq_refusal_iff, ?_, search_eq_abort_iff, search_eq_some_outcome_iff, ?_⟩
  · intro f hf
    exact ⟨_, search_eq_refusal_iff.2 hf, rfl, rfl⟩
  · intro o ho
    have hcheck := check_of_search ho
    refine ⟨.of_search ho, fun o' ho' => ?_⟩
    rw [ho'.eq hcheck, (Outcome.IsOf.of_search ho).eq hcheck]

/-- Two values of `m` and of `tau`, of which only the largest ones leave the word together. -/
def lastPairOverflows : Config :=
  ⟨2, .one, ⟨4294967293, 4294967295, 1⟩, ⟨1, 3, 1⟩⟩

/-- Three pairs of the grid are evaluated and the fourth aborts, so there is no outcome. -/
theorem lastPairOverflows_aborts :
    lastPairOverflows.check = .ok () ∧
      lastPairOverflows.grid = .ok
        [⟨4294967293, 1⟩, ⟨4294967293, 2⟩, ⟨4294967294, 1⟩, ⟨4294967294, 2⟩] ∧
      (∃ e, search lastPairOverflows = .error (.overflow e)) ∧
      ¬∃ o, search lastPairOverflows = .ok o := by
  have hcheck : lastPairOverflows.check = .ok () := by decide +kernel
  obtain ⟨-, -, habort, hgives, -⟩ := result_of_search lastPairOverflows
  refine ⟨hcheck, by decide +kernel, habort.2 ⟨hcheck, by decide +kernel⟩, fun h => ?_⟩
  exact absurd (hgives.1 h).2 (by decide +kernel)

end CutAndChoose
