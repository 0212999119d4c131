import Mathlib
import CutAndChoose.Proofs.Search.Acceptance

/-!
# CutAndChoose.Proofs.Search.Best

The scan for the best pair. Each entry is one comparison (`improve_eq`), so the scan ends on the
least pair among the sentinel and the entries (`bestOf_mem`, `not_before_bestOf`).

* `bestOf_minimum`: this determines the scan, whatever the order of the entries, with repeated
  entries too; a scan over two lists is the better of two scans.
* `best_of_search`: the sentinel `(10000, 10000)` takes part in the comparison and the check of a
  config does not bound `tau`. So a search reports a best accepted pair, or the sentinel when every
  accepted pair comes after it; `sentinel_reported` is such a search.
-/

namespace CutAndChoose

namespace Params

variable {p q r : Params}

theorem before_iff : p.Before q ↔
    p.tau.toNat < q.tau.toNat ∨ (p.tau.toNat = q.tau.toNat ∧ p.m.toNat < q.m.toNat) := by
  rw [Before, UInt32.lt_iff_toNat_lt, UInt32.lt_iff_toNat_lt, ← UInt32.toNat_inj]

theorem not_before_iff : ¬q.Before p ↔
    p.tau.toNat < q.tau.toNat ∨ (p.tau.toNat = q.tau.toNat ∧ p.m.toNat ≤ q.m.toNat) := by
  rw [before_iff]
  omega

theorem not_before_trans (h : ¬p.Before q) (h' : ¬q.Before r) : ¬p.Before r := by
  rw [not_before_iff] at *
  omega

theorem eq_of_not_before (h : ¬p.Before q) (h' : ¬q.Before p) : p = q := by
  rcases before_trichotomy p q with hpq | heq | hqp
  · exact absurd hpq h
  · exact heq
  · exact absurd hqp h'

/-- The second update of an entry never undoes or repeats the first. -/
theorem improve_eq (best p : Params) : best.improve p = if p.Before best then p else best := by
  unfold improve
  by_cases htau : p.tau < best.tau
  · have hbefore : p.Before best := .inl htau
    simp [htau, hbefore]
  · by_cases hm : p.m < best.m ∧ p.tau = best.tau
    · have hbefore : p.Before best := .inr hm.symm
      simp [hm, hbefore]
    · have hbefore : ¬p.Before best := fun h => h.elim htau fun h => hm h.symm
      simp only [if_neg htau, if_neg hm, if_neg hbefore]

theorem not_before_improve (best p : Params) :
    ¬best.Before (best.improve p) ∧ ¬p.Before (best.improve p) := by
  rw [improve_eq]
  by_cases h : p.Before best
  · rw [if_pos h]
    refine ⟨?_, not_before_self p⟩
    rw [before_iff] at h
    rw [not_before_iff]
    omega
  · rw [if_neg h]
    exact ⟨not_before_self best, h⟩

end Params

open Params

/-- The scan keeps one of the pairs it has seen, by induction on the pairs that are left. -/
theorem foldl_improve_mem (l : List Params) (best : Params) :
    l.foldl improve best ∈ best :: l := by
  induction l generalizing best with
  | nil => exact List.mem_cons_self
  | cons p l ih =>
    rw [List.foldl_cons]
    rcases List.mem_cons.1 (ih (best.improve p)) with hkept | hlater
    · rw [hkept, improve_eq]
      split
      · exact List.mem_cons_of_mem _ List.mem_cons_self
      · exact List.mem_cons_self
    · exact List.mem_cons_of_mem _ (List.mem_cons_of_mem _ hlater)

/-- No pair that the scan has seen is better than what it keeps. -/
theorem not_before_foldl_improve (l : List Params) (best : Params) :
    ∀ p ∈ best :: l, ¬p.Before (l.foldl improve best) := by
  induction l generalizing best with
  | nil =>
    intro p hp
    rw [List.mem_singleton.1 hp]
    exact not_before_self best
  | cons q l ih =>
    have hnext := ih (best.improve q) _ List.mem_cons_self
    intro p hp
    rw [List.foldl_cons]
    rcases List.mem_cons.1 hp with rfl | hp
    · exact not_before_trans (not_before_improve p q).1 hnext
    · rcases List.mem_cons.1 hp with rfl | hp
      · exact not_before_trans (not_before_improve best p).2 hnext
      · exact ih (best.improve q) p (List.mem_cons_of_mem _ hp)

section BestOf

variable {l : List Params} {p : Params}

theorem bestOf_mem (l : List Params) : bestOf l ∈ sentinel :: l := foldl_improve_mem l sentinel

theorem not_before_bestOf (hp : p ∈ sentinel :: l) : ¬p.Before (bestOf l) :=
  not_before_foldl_improve l sentinel p hp

/-- The pair is in the list, and it has the smallest `m` among those with the smallest `tau`. -/
def IsBest (b : Params) (l : List Params) : Prop :=
  b ∈ l ∧ ∀ p ∈ l, b.tau < p.tau ∨ (b.tau = p.tau ∧ b.m ≤ p.m)

theorem isBest_iff {b : Params} : IsBest b l ↔ b ∈ l ∧ ∀ p ∈ l, ¬p.Before b := by
  unfold IsBest
  simp only [not_before_iff, UInt32.lt_iff_toNat_lt, UInt32.le_iff_toNat_le, ← UInt32.toNat_inj]

/-- The scan finds the best pair exactly when the sentinel does not come before all pairs. -/
theorem isBest_bestOf_iff : IsBest (bestOf l) l ↔ ∃ p ∈ l, ¬sentinel.Before p := by
  rw [isBest_iff]
  constructor
  · rintro ⟨hmem, -⟩
    exact ⟨bestOf l, hmem, not_before_bestOf List.mem_cons_self⟩
  · rintro ⟨p, hp, hsentinel⟩
    refine ⟨?_, fun q hq => not_before_bestOf (List.mem_cons_of_mem _ hq)⟩
    -- Where the scan keeps the sentinel, `p` is neither better nor worse, so it is the sentinel.
    rcases List.mem_cons.1 (bestOf_mem l) with hkept | hmem
    · have hle := @not_before_bestOf l p (List.mem_cons_of_mem _ hp)
      rw [hkept] at hle ⊢
      rwa [eq_of_not_before hsentinel hle]
    · exact hmem

theorem bestOf_eq_sentinel (h : ∀ p ∈ l, sentinel.Before p) : bestOf l = sentinel := by
  rcases List.mem_cons.1 (bestOf_mem l) with hkept | hmem
  · exact hkept
  · exact absurd (h _ hmem) (not_before_bestOf List.mem_cons_self)

end BestOf

/-! ## The scan as a minimum -/

/-- The better of two pairs; the first unless the second is strictly better. -/
def Params.better (p q : Params) : Params := if q.Before p then q else p

section Minimum

variable {l l' : List Params} {b b' : Params}

theorem IsBest.unique (h : IsBest b l) (h' : IsBest b' l) : b = b' := by
  rw [isBest_iff] at h h'
  exact eq_of_not_before (h'.2 b h.1) (h.2 b' h'.1)

theorem eq_bestOf_iff : b = bestOf l ↔ IsBest b (sentinel :: l) := by
  have hbest : IsBest (bestOf l) (sentinel :: l) :=
    isBest_iff.2 ⟨bestOf_mem l, fun _ hp => not_before_bestOf hp⟩
  constructor
  · rintro rfl
    exact hbest
  · intro h
    exact h.unique hbest

theorem bestOf_eq_foldl (l : List Params) : bestOf l = l.foldl better sentinel := by
  have hstep : improve = better := by
    funext best p
    exact improve_eq best p
  rw [bestOf, hstep]

/-- Neither the order of the pairs counts nor how often one occurs. -/
theorem bestOf_congr (h : ∀ p, p ∈ l' ↔ p ∈ l) : bestOf l' = bestOf l := by
  have hbest := eq_bestOf_iff.1 (rfl : bestOf l' = bestOf l')
  rw [eq_bestOf_iff]
  simpa only [IsBest, List.mem_cons, h] using hbest

theorem better_mem (p q : Params) : p.better q = p ∨ p.better q = q := by
  unfold better
  split
  · exact .inr rfl
  · exact .inl rfl

theorem bestOf_append (l l' : List Params) :
    bestOf (l ++ l') = (bestOf l).better (bestOf l') := by
  symm
  rw [eq_bestOf_iff, isBest_iff]
  constructor
  · rcases better_mem (bestOf l) (bestOf l') with heq | heq
    · rw [heq]
      exact List.cons_subset_cons _ (List.subset_append_left l l') (bestOf_mem l)
    · rw [heq]
      exact List.cons_subset_cons _ (List.subset_append_right l l') (bestOf_mem l')
  · intro p hp
    obtain ⟨hl, hl'⟩ := not_before_improve (bestOf l) (bestOf l')
    rw [improve_eq] at hl hl'
    rw [← List.cons_append, List.mem_append] at hp
    rcases hp with hp | hp
    · exact not_before_trans (not_before_bestOf hp) hl
    · exact not_before_trans (not_before_bestOf (List.mem_cons_of_mem _ hp)) hl'

end Minimum

/-- The scan with its two updates per entry is the minimum of the sentinel and all entries, and a
scan with one comparison per entry. So the order of the entries and repeated entries do not count,
and two scans combine into the one over both lists. -/
theorem bestOf_minimum (l : List Params) :
    (∀ b, b = bestOf l ↔ IsBest b (sentinel :: l)) ∧
      bestOf l = l.foldl better sentinel ∧
      (∀ l', l'.Perm l → bestOf l' = bestOf l) ∧
      (∀ l', (∀ p, p ∈ l' ↔ p ∈ l) → bestOf l' = bestOf l) ∧
      ∀ l', bestOf (l ++ l') = (bestOf l).better (bestOf l') := by
  refine ⟨fun _ => eq_bestOf_iff, bestOf_eq_foldl l, ?_, fun _ => bestOf_congr, bestOf_append l⟩
  intro l' hperm
  exact bestOf_congr fun p => hperm.mem_iff

/-- An equal `tau` with a smaller `m` wins, wherever it stands. -/
example : bestOf [⟨200, 16⟩, ⟨64, 24⟩, ⟨96, 16⟩, ⟨120, 16⟩] = ⟨96, 16⟩ := by decide

/-! ## The best pair of a search -/

/-- Without accepted pairs a search reports the sentinel. With some, it reports the best of them
exactly when one of them does not come after the sentinel, and the sentinel otherwise. -/
theorem best_of_search {c : Config} {o : Outcome} (h : search c = .ok o) :
    (o.accepted = [] → o.best = sentinel) ∧
      (IsBest o.best o.accepted ↔ ∃ p ∈ o.accepted, ¬sentinel.Before p) ∧
      ((∀ p ∈ o.accepted, sentinel.Before p) → o.best = sentinel) := by
  obtain ⟨-, -, rfl⟩ := search_eq_ok_iff.1 h
  have hbest : c.outcome.best = bestOf c.outcome.accepted := rfl
  rw [hbest]
  refine ⟨?_, isBest_bestOf_iff, bestOf_eq_sentinel⟩
  intro hnone
  rw [hnone]
  rfl

/-- One pair, with more repetitions than the sentinel. -/
def beyondSentinel : Config := ⟨2, .one, ⟨10001, 10002, 1⟩, ⟨10001, 10002, 1⟩⟩

/-- The pair is accepted, and yet the search reports the sentinel. -/
theorem sentinel_reported :
    ∃ o, search beyondSentinel = .ok o ∧ ⟨10001, 10001⟩ ∈ o.accepted ∧ o.best = sentinel ∧
      ¬IsBest o.best o.accepted := by
  have hsearch : search beyondSentinel = .ok beyondSentinel.outcome :=
    search_eq_ok_iff.2 ⟨Config.check_eq_ok_iff.1 (by decide +kernel), by decide +kernel, rfl⟩
  have haccepted : ⟨10001, 10001⟩ ∈ beyondSentinel.outcome.accepted := by
    refine mem_accepted.2 ⟨by decide +kernel, ?_⟩
    simp only [beyondSentinel]
    exact worstError_lt_one (by decide) (by decide) (by decide)
  have hpairs : ∀ p ∈ beyondSentinel.pairs, sentinel.Before p := by decide +kernel
  have hafter : ∀ p ∈ beyondSentinel.outcome.accepted, sentinel.Before p :=
    fun p hp => hpairs p (mem_accepted.1 hp).1
  obtain ⟨-, hiff, hsentinel⟩ := best_of_search hsearch
  refine ⟨_, hsearch, haccepted, hsentinel hafter, ?_⟩
  rw [hiff]
  rintro ⟨p, hp, hbefore⟩
  exact hbefore (hafter p hp)

end CutAndChoose
