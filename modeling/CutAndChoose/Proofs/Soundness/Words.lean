import Mathlib
import CutAndChoose.Soundness.Term
import CutAndChoose.Proofs.Soundness.Term

/-!
# CutAndChoose.Proofs.Soundness.Words

The estimator one 32-bit operation at a time. Sums and differences of words abort when the exact
result leaves the word, and every function runs its operations in order.

* `checkedBinomial_eq`: a binomial coefficient never aborts.
* `binomial_exact`: it is the exact one, and so is every value of its loop.
* `checkedTerm_eq`, `checkedWorstError_eq`: a term and the worst error abort exactly on the
  parameters that `TermFits` and `PairFits` exclude, and otherwise agree with `termOfWords` and
  `worstErrorOfWords`.
-/

namespace CutAndChoose

/-! ## Checked operations -/

def checkedAdd (a b : UInt32) : Option UInt32 :=
  if a.toNat + b.toNat < UInt32.size then some (a + b) else none

def checkedSub (a b : UInt32) : Option UInt32 := if b ≤ a then some (a - b) else none

section Checked

variable {a b c : UInt32}

theorem checkedAdd_eq_some_iff : checkedAdd a b = some c ↔ a.toNat + b.toNat = c.toNat := by
  unfold checkedAdd
  split
  · rename_i h
    rw [Option.some.injEq, ← UInt32.toNat_inj, UInt32.toNat_add, Nat.mod_eq_of_lt h]
  · rename_i h
    have hc := c.toNat_lt_size
    simp only [reduceCtorEq, false_iff]
    omega

theorem checkedAdd_eq_none_iff : checkedAdd a b = none ↔ UInt32.size ≤ a.toNat + b.toNat := by
  unfold checkedAdd
  split
  · rename_i h
    simp only [reduceCtorEq, false_iff]
    omega
  · rename_i h
    simp only [true_iff]
    omega

theorem checkedSub_eq_some_iff : checkedSub a b = some c ↔ c.toNat + b.toNat = a.toNat := by
  unfold checkedSub
  split
  · rename_i h
    have hle := UInt32.le_iff_toNat_le.1 h
    rw [Option.some.injEq, ← UInt32.toNat_inj, UInt32.toNat_sub_of_le _ _ h]
    omega
  · rename_i h
    rw [UInt32.le_iff_toNat_le] at h
    simp only [reduceCtorEq, false_iff]
    omega

theorem checkedSub_eq_none_iff : checkedSub a b = none ↔ a.toNat < b.toNat := by
  unfold checkedSub
  simp only [ite_eq_right_iff, reduceCtorEq, imp_false, UInt32.not_le, UInt32.lt_iff_toNat_lt]

theorem toNat_min : (min a b).toNat = min a.toNat b.toNat := by
  have hmin : min a b = if a ≤ b then a else b := rfl
  rw [hmin]
  split
  · rename_i h
    exact (min_eq_left (UInt32.le_iff_toNat_le.1 h)).symm
  · rename_i h
    rw [UInt32.le_iff_toNat_le, not_le] at h
    exact (min_eq_right h.le).symm

theorem checkedAdd_of_lt (h : a.toNat + b.toNat < UInt32.size) :
    ∃ c, checkedAdd a b = some c ∧ a.toNat + b.toNat = c.toNat := by
  cases hc : checkedAdd a b with
  | none => exact absurd h (not_lt.2 (checkedAdd_eq_none_iff.1 hc))
  | some c => exact ⟨c, rfl, checkedAdd_eq_some_iff.1 hc⟩

theorem checkedSub_of_le (h : b.toNat ≤ a.toNat) :
    ∃ c, checkedSub a b = some c ∧ c.toNat + b.toNat = a.toNat := by
  cases hc : checkedSub a b with
  | none => exact absurd h (not_le.2 (checkedSub_eq_none_iff.1 hc))
  | some c => exact ⟨c, rfl, checkedSub_eq_some_iff.1 hc⟩

end Checked

/-! ## Binomial coefficients -/

/-- The first `i` steps of the product for `C(n, k)`; step `i` multiplies by `n - k + i`. -/
def checkedRising (n k : UInt32) : ℕ → Option ℕ
  | 0 => some 1
  | i + 1 => do
    let acc ← checkedRising n k i
    let base ← checkedSub n k
    let factor ← checkedAdd base (UInt32.ofNat (i + 1))
    return acc * factor.toNat / (i + 1)

def checkedBinomial (n r : UInt32) : Option ℕ :=
  if n < r then some 0
  else do
    let rest ← checkedSub n r
    checkedRising n (min r rest) (min r rest).toNat

/-- No factor exceeds `n`, so the loop runs through; by induction on the steps. -/
theorem checkedRising_eq {n k : UInt32} (hk : k.toNat ≤ n.toNat) {i : ℕ} (hi : i ≤ k.toNat) :
    checkedRising n k i = some (risingBinomial (n.toNat - k.toNat) i) := by
  induction i with
  | zero => rfl
  | succ i ih =>
    have hn := n.toNat_lt_size
    have hstep : (UInt32.ofNat (i + 1)).toNat = i + 1 := UInt32.toNat_ofNat_of_lt' (by omega)
    obtain ⟨base, hbase, hvalue⟩ := checkedSub_of_le hk
    obtain ⟨factor, hfactor, hsum⟩ := @checkedAdd_of_lt base (UInt32.ofNat (i + 1)) (by omega)
    have hexact : factor.toNat = n.toNat - k.toNat + (i + 1) := by omega
    simp only [checkedRising, ih (by omega), hbase, hfactor, hexact, Option.bind_eq_bind,
      Option.bind_some]
    rfl

theorem checkedBinomial_eq (n r : UInt32) :
    checkedBinomial n r = some (binomial n.toNat r.toNat) := by
  unfold checkedBinomial binomial
  by_cases h : n < r
  · rw [if_pos h, if_pos (UInt32.lt_iff_toNat_lt.1 h)]
  · have hle : r.toNat ≤ n.toNat := UInt32.le_iff_toNat_le.1 (UInt32.not_lt.1 h)
    obtain ⟨rest, hrest, hvalue⟩ := checkedSub_of_le hle
    have hmin : (min r rest).toNat = min r.toNat (n.toNat - r.toNat) := by
      rw [toNat_min]
      omega
    rw [if_neg h, if_neg (by omega), hrest, Option.bind_eq_bind, Option.bind_some,
      checkedRising_eq (by omega) le_rfl, hmin]

/-- On words the coefficient is computed without an abort and is the exact one. After step `i` the
loop holds a coefficient too, so no step divides with a remainder. -/
theorem binomial_exact (n r : UInt32) :
    checkedBinomial n r = some (binomial n.toNat r.toNat) ∧
      binomial n.toNat r.toNat = n.toNat.choose r.toNat ∧
      (n < r → binomial n.toNat r.toNat = 0) ∧
      (r ≤ n →
        binomial n.toNat r.toNat * (r.toNat.factorial * (n.toNat - r.toNat).factorial) =
          n.toNat.factorial ∧
        binomial n.toNat r.toNat = binomial n.toNat (n - r).toNat ∧
        let steps := min r.toNat (n.toNat - r.toNat)
        let base := n.toNat - steps
        binomial n.toNat r.toNat = risingBinomial base steps ∧
        ∀ i, risingBinomial base i = (base + i).choose i ∧
          i + 1 ∣ risingBinomial base i * (base + (i + 1)) ∧
          risingBinomial base (i + 1) = risingBinomial base i * (base + (i + 1)) / (i + 1)) := by
  refine ⟨checkedBinomial_eq n r, binomial_eq_choose _ _, ?_, ?_⟩
  · intro h
    rw [binomial_eq_choose, Nat.choose_eq_zero_of_lt (UInt32.lt_iff_toNat_lt.1 h)]
  · intro h
    have hle : r.toNat ≤ n.toNat := UInt32.le_iff_toNat_le.1 h
    refine ⟨?_, ?_, ?_⟩
    · rw [binomial_eq_choose, ← mul_assoc]
      exact Nat.choose_mul_factorial_mul_factorial hle
    · rw [UInt32.toNat_sub_of_le _ _ h, binomial_symm hle]
    · intro steps base
      constructor
      · rw [binomial, if_neg (not_lt.2 hle)]
      · intro i
        exact ⟨risingBinomial_eq_choose _ i, dvd_risingBinomial_mul _ i, rfl⟩

/-! ## Terms -/

/-- A term from its two coefficients and its power. -/
def termOf (survivors all guesses : ℕ) : Option Binary64 :=
  let guesses := Binary64.ofNat guesses
  match ratio survivors all with
  | none => none
  | some d =>
    if guesses.isFinite then
      let p := d / guesses
      if p.isFinite then some p else none
    else none

theorem term_eq_termOf (m tau n rho : ℕ) :
    term m tau n rho =
      termOf (binomial rho (m - tau)) (binomial m (m - tau)) (n ^ (rho + tau - m)) := rfl

def checkedTerm (m tau n rho : UInt32) : Option (Option Binary64) := do
  let opened ← checkedSub m tau
  let survivors ← checkedBinomial rho opened
  let all ← checkedBinomial m opened
  let sum ← checkedAdd rho tau
  let exponent ← checkedSub sum m
  return termOf survivors all (n.toNat ^ exponent.toNat)

theorem checkedTerm_eq (m tau n rho : UInt32) :
    checkedTerm m tau n rho = (termOfWords m tau n rho).toOption := by
  unfold checkedTerm termOfWords
  by_cases hfits : TermFits m.toNat tau.toNat rho.toNat
  · obtain ⟨hle, hlow, hhigh⟩ := hfits
    obtain ⟨opened, hopened, hvalue⟩ := checkedSub_of_le hle
    obtain ⟨sum, hsum, hsumValue⟩ := checkedAdd_of_lt hhigh
    obtain ⟨exponent, hexponent, hexponentValue⟩ := @checkedSub_of_le sum m (by omega)
    have hopenedNat : opened.toNat = m.toNat - tau.toNat := by omega
    have hexponentNat : exponent.toNat = rho.toNat + tau.toNat - m.toNat := by omega
    rw [if_pos ⟨hle, hlow, hhigh⟩, hopened, hsum]
    simp only [Option.bind_eq_bind, Option.bind_some, checkedBinomial_eq, hexponent, hopenedNat,
      hexponentNat, ← term_eq_termOf]
    rfl
  · rw [if_neg hfits]
    cases hopened : checkedSub m tau with
    | none => rfl
    | some opened =>
      cases hsum : checkedAdd rho tau with
      | none => simp only [Option.bind_eq_bind, Option.bind_some, checkedBinomial_eq]; rfl
      | some sum =>
        rw [checkedSub_eq_some_iff] at hopened
        rw [checkedAdd_eq_some_iff] at hsum
        have hsize := sum.toNat_lt_size
        -- The difference and the sum are words, so what does not fit is `rho + tau - m`.
        have hexponent : checkedSub sum m = none := by
          rw [checkedSub_eq_none_iff]
          by_contra hle
          exact hfits ⟨by omega, by omega, by omega⟩
        simp only [Option.bind_eq_bind, Option.bind_some, checkedBinomial_eq, hexponent]
        rfl

/-! ## The worst error -/

/-- The scan over a list of attacks, one checked term after the other. -/
def checkedScan (m tau n : UInt32) (attacks : List ℕ) : Option Binary64 :=
  attacks.foldlM
    (fun worst rho => do
      let p ← checkedTerm m tau n (UInt32.ofNat rho)
      return worst.larger (p.getD .zero)) .zero

def checkedWorstError (m tau n : UInt32) : Option Binary64 := do
  let opened ← checkedSub m tau
  let first ← checkedAdd opened 1
  checkedScan m tau n (List.range' first.toNat (m.toNat + 1 - first.toNat))

theorem foldlM_eq_some {α β : Type} {f : β → α → Option β} {g : β → α → β} {l : List α}
    (h : ∀ b, ∀ a ∈ l, f b a = some (g b a)) (b : β) : l.foldlM f b = some (l.foldl g b) := by
  induction l generalizing b with
  | nil => rfl
  | cons a l ih =>
    rw [List.foldlM_cons, h b a List.mem_cons_self, List.foldl_cons]
    exact ih (fun b c hc => h b c (List.mem_cons_of_mem _ hc)) (g b a)

theorem foldlM_eq_none {α β : Type} {f : β → α → Option β} {l : List α} {a : α} (ha : a ∈ l)
    (h : ∀ b, f b a = none) (b : β) : l.foldlM f b = none := by
  induction l generalizing b with
  | nil => cases ha
  | cons c l ih =>
    rw [List.foldlM_cons]
    rcases List.mem_cons.1 ha with rfl | ha
    · rw [h b]
      rfl
    · cases f b c with
      | none => rfl
      | some b' => exact ih ha b'

/-- On an attack of the pair, the sum `rho + tau` is the only operation that can abort. -/
theorem checkedTerm_of_attack {m tau n : UInt32} {rho : ℕ} (hle : tau.toNat ≤ m.toNat)
    (hrho : rho ∈ attacks m.toNat tau.toNat) :
    checkedTerm m tau n (UInt32.ofNat rho) =
      if rho + tau.toNat < UInt32.size then some (term m.toNat tau.toNat n.toNat rho)
      else none := by
  have hm := m.toNat_lt_size
  rw [mem_attacks, firstAttack] at hrho
  have hword : (UInt32.ofNat rho).toNat = rho := UInt32.toNat_ofNat_of_lt' (by omega)
  have hfits : TermFits m.toNat tau.toNat rho ↔ rho + tau.toNat < UInt32.size := by
    unfold TermFits
    omega
  rw [checkedTerm_eq, termOfWords, hword]
  by_cases hsum : rho + tau.toNat < UInt32.size
  · rw [if_pos (hfits.2 hsum), if_pos hsum]
    rfl
  · rw [if_neg (mt hfits.1 hsum), if_neg hsum]
    rfl

/-- A scan aborts exactly when one of its attacks does, and then the last one, `m`, does. -/
theorem checkedScan_attacks {m tau n : UInt32} (hle : tau.toNat ≤ m.toNat) :
    checkedScan m tau n (attacks m.toNat tau.toNat) =
      if tau.toNat = 0 ∨ m.toNat + tau.toNat < UInt32.size then
        some (worstError m.toNat tau.toNat n.toNat)
      else none := by
  have hlast : tau.toNat ≠ 0 → m.toNat ∈ attacks m.toNat tau.toNat := by
    intro htau
    rw [mem_attacks, firstAttack]
    omega
  unfold checkedScan
  by_cases hsum : tau.toNat = 0 ∨ m.toNat + tau.toNat < UInt32.size
  · rw [if_pos hsum]
    refine foldlM_eq_some ?_ _
    intro worst rho hrho
    have hrange := mem_attacks.1 hrho
    unfold firstAttack at hrange
    rw [checkedTerm_of_attack hle hrho, if_pos (by omega)]
    rfl
  · rw [not_or] at hsum
    rw [if_neg (not_or.2 hsum)]
    refine foldlM_eq_none (hlast hsum.1) ?_ _
    intro worst
    rw [checkedTerm_of_attack hle (hlast hsum.1), if_neg hsum.2]
    rfl

theorem checkedWorstError_eq (m tau n : UInt32) :
    checkedWorstError m tau n = (worstErrorOfWords m tau n).toOption := by
  have hone : (1 : UInt32).toNat = 1 := rfl
  have hm := m.toNat_lt_size
  unfold checkedWorstError worstErrorOfWords
  cases hopened : checkedSub m tau with
  | none =>
    rw [checkedSub_eq_none_iff] at hopened
    have hfits : ¬PairFits m.toNat tau.toNat := fun h => absurd h.1 (not_le.2 hopened)
    rw [if_neg hfits]
    rfl
  | some opened =>
    rw [checkedSub_eq_some_iff] at hopened
    rw [Option.bind_eq_bind, Option.bind_some]
    cases hfirst : checkedAdd opened 1 with
    | none =>
      rw [checkedAdd_eq_none_iff, hone] at hfirst
      have hfits : ¬PairFits m.toNat tau.toNat := by
        rw [PairFits, firstAttack]
        omega
      rw [if_neg hfits]
      rfl
    | some first =>
      rw [checkedAdd_eq_some_iff, hone] at hfirst
      have hle : tau.toNat ≤ m.toNat := by omega
      have hattack : first.toNat = firstAttack m.toNat tau.toNat := by
        unfold firstAttack
        omega
      have hsize := first.toNat_lt_size
      have hfits : PairFits m.toNat tau.toNat ↔
          tau.toNat = 0 ∨ m.toNat + tau.toNat < UInt32.size := by
        rw [PairFits, ← hattack]
        omega
      rw [Option.bind_some, hattack, ← attacks, checkedScan_attacks hle]
      by_cases hsum : tau.toNat = 0 ∨ m.toNat + tau.toNat < UInt32.size
      · rw [if_pos hsum, if_pos (hfits.2 hsum)]
        rfl
      · rw [if_neg hsum, if_neg (mt hfits.1 hsum)]
        rfl

theorem checkedWorstError_eq_some_iff {m tau n : UInt32} {x : Binary64} :
    checkedWorstError m tau n = some x ↔ worstErrorOfWords m tau n = .ok x := by
  rw [checkedWorstError_eq]
  cases worstErrorOfWords m tau n with
  | error e => simp [Except.toOption]
  | ok y => simp [Except.toOption]

end CutAndChoose
