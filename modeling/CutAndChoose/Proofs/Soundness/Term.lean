import Mathlib
import CutAndChoose.Soundness.Term
import CutAndChoose.Proofs.Soundness.Binomial
import CutAndChoose.Proofs.Soundness.ExactRatio

/-!
# CutAndChoose.Proofs.Soundness.Term

Escape probabilities in binary64 against those of exact arithmetic.

* `exactTerm`, `IsExactError`: the exact escape probability of an attack, and the largest of a pair.
* `term_spec`: a term is near the exact one, or it is not representable. The latter happens for one
  reason only: the power of the number of parties overflows (`term_eq_none_iff`).
* `worstError_spec`: the worst error is the largest term, or zero.
-/

namespace CutAndChoose

open Magnitude (unit unit_pos)

/-- The escape probability of the attack `rho` in exact arithmetic. -/
def exactTerm (m tau n rho : ℕ) : ℚ :=
  rho.choose (m - tau) / (m.choose (m - tau) * n ^ (rho + tau - m))

/-! ## One term -/

section Term

variable {m tau n rho : ℕ}

theorem exactTerm_nonneg : 0 ≤ exactTerm m tau n rho := by
  unfold exactTerm
  positivity

/-- The binomial coefficients form a probability. -/
theorem exactTerm_le (hrho : rho ≤ m) : exactTerm m tau n rho ≤ 1 / n ^ (rho + tau - m) := by
  have hchoose : (rho.choose (m - tau) : ℚ) / m.choose (m - tau) ≤ 1 := by
    refine div_le_one_of_le₀ ?_ (Nat.cast_nonneg _)
    exact_mod_cast Nat.choose_le_choose (m - tau) hrho
  rw [exactTerm, ← div_div]
  exact div_le_div_of_nonneg_right hchoose (by positivity)

/-- The attack that prepares every execution honestly is left with guessing. -/
theorem exactTerm_self : exactTerm m tau n m = 1 / n ^ tau := by
  have hchoose : (m.choose (m - tau) : ℚ) ≠ 0 :=
    Nat.cast_ne_zero.2 (Nat.choose_pos (Nat.sub_le _ _)).ne'
  rw [exactTerm, Nat.add_sub_cancel_left, ← div_div, div_self hchoose]

theorem exists_ratio_choose (tau : ℕ) (hrho : rho ≤ m) :
    ∃ d, ratio (rho.choose (m - tau)) (m.choose (m - tau)) = some (.finite false d) ∧
      d.value ≤ 1 :=
  ratio_le_one (Nat.choose_pos (Nat.sub_le m tau)).ne' (Nat.choose_le_choose (m - tau) hrho)

theorem term_eq {d : Binary64}
    (hd : ratio (rho.choose (m - tau)) (m.choose (m - tau)) = some d) :
    term m tau n rho =
      if (Binary64.ofNat (n ^ (rho + tau - m))).isFinite then
        if (d / Binary64.ofNat (n ^ (rho + tau - m))).isFinite then
          some (d / Binary64.ofNat (n ^ (rho + tau - m)))
        else none
      else none := by
  unfold term
  rw [binomial_eq_choose, binomial_eq_choose, hd]

/-- The numerator over the power, rounded; it is at most the numerator, so it does not overflow. -/
theorem term_of_finite {d g : Magnitude} (hn : n ≠ 0)
    (hd : ratio (rho.choose (m - tau)) (m.choose (m - tau)) = some (.finite false d))
    (hg : Binary64.ofNat (n ^ (rho + tau - m)) = .finite false g) :
    ∃ p, term m tau n rho = some (.finite false p) ∧
      Binary64.nearest (d.value / g.value) = .finite false p ∧ p.value ≤ d.value := by
  have hg1 := (Binary64.near_ofNat (pow_ne_zero _ hn) hg).2
  have hgunits : g.units ≠ 0 := (Magnitude.value_pos_iff.1 (lt_of_lt_of_le one_pos hg1)).ne'
  obtain ⟨p, hp, hpd⟩ := Binary64.nearest_le (div_nonneg d.value_nonneg g.value_nonneg)
    (div_le_self d.value_nonneg hg1)
  refine ⟨p, ?_, hp, hpd⟩
  rw [term_eq hd, hg, Binary64.finite_div d hgunits, hp]
  rfl

theorem term_of_infinite {d : Magnitude}
    (hd : ratio (rho.choose (m - tau)) (m.choose (m - tau)) = some (.finite false d))
    (hg : Binary64.ofNat (n ^ (rho + tau - m)) = .infinite false) : term m tau n rho = none := by
  rw [term_eq hd, hg]
  rfl

/-- A term that is given has a power that does not overflow. -/
theorem quotient_of_term {d p : Magnitude} (hn : n ≠ 0)
    (hd : ratio (rho.choose (m - tau)) (m.choose (m - tau)) = some (.finite false d))
    (hterm : term m tau n rho = some (.finite false p)) :
    ∃ g, Binary64.ofNat (n ^ (rho + tau - m)) = .finite false g ∧
      Binary64.nearest (d.value / g.value) = .finite false p ∧ p.value ≤ d.value := by
  rcases Binary64.nearest_cases (n ^ (rho + tau - m) : ℕ) with ⟨g, hg⟩ | ⟨hinf, -⟩
  · rw [← Binary64.ofNat_eq_nearest] at hg
    obtain ⟨q, hq, hnearest, hqd⟩ := term_of_finite hn hd hg
    rw [hterm] at hq
    cases hq
    exact ⟨g, hg, hnearest, hqd⟩
  · rw [← Binary64.ofNat_eq_nearest] at hinf
    rw [term_of_infinite hd hinf] at hterm
    cases hterm

/-- With every execution prepared honestly only the power is left, whatever the size of `m`. -/
theorem term_self_eq (m tau n : ℕ) :
    term m tau n m =
      if (Binary64.ofNat (n ^ tau)).isFinite then
        if (Binary64.one / Binary64.ofNat (n ^ tau)).isFinite then
          some (Binary64.one / Binary64.ofNat (n ^ tau))
        else none
      else none := by
  have hchoose : m.choose (m - tau) ≠ 0 := (Nat.choose_pos (Nat.sub_le _ _)).ne'
  rw [term_eq (ratio_self hchoose), Nat.add_sub_cancel_left]

/-- A term is near the exact one, unless the power of the number of parties overflows. -/
theorem term_spec (hn : n ≠ 0) (hrho : rho ≤ m) :
    (∃ p, term m tau n rho = some (.finite false p) ∧
      Near 7 (2 * unit) (exactTerm m tau n rho) p.value) ∨
    (term m tau n rho = none ∧ Binary64.overflow ≤ n ^ (rho + tau - m)) := by
  have hchoose : m.choose (m - tau) ≠ 0 := (Nat.choose_pos (Nat.sub_le _ _)).ne'
  obtain ⟨d, hd, hdnear⟩ := ratio_of_le hchoose (Nat.choose_le_choose (m - tau) hrho)
  have hpow : n ^ (rho + tau - m) ≠ 0 := pow_ne_zero _ hn
  rcases Binary64.nearest_cases (n ^ (rho + tau - m) : ℕ) with ⟨g, hg⟩ | ⟨hinf, -⟩
  · left
    rw [← Binary64.ofNat_eq_nearest] at hg
    obtain ⟨hgnear, hg1⟩ := Binary64.near_ofNat hpow hg
    obtain ⟨p, hterm, hp, -⟩ := term_of_finite hn hd hg
    refine ⟨p, hterm, ?_⟩
    have hx : (0 : ℚ) ≤ rho.choose (m - tau) / m.choose (m - tau) := by positivity
    have hc : (1 : ℚ) ≤ (n ^ (rho + tau - m) : ℕ) := by
      exact_mod_cast Nat.pos_of_ne_zero hpow
    have hchain := (hdnear.div unit_pos.le hx d.value_nonneg hc hg1 hgnear).trans unit_pos.le
      (by linarith [unit_pos])
      (Binary64.near_nearest (div_nonneg d.value_nonneg g.value_nonneg) hp)
    rw [div_div, Nat.cast_pow] at hchain
    exact hchain.weaken exactTerm_nonneg p.value_nonneg le_rfl (by linarith [unit_pos])
  · right
    rw [← Binary64.ofNat_eq_nearest] at hinf
    refine ⟨term_of_infinite hd hinf, ?_⟩
    by_contra hlt
    rw [not_le] at hlt
    obtain ⟨g, hg⟩ := Binary64.nearest_finite (by positivity) hlt
    rw [← Nat.cast_pow, ← Binary64.ofNat_eq_nearest, hinf] at hg
    cases hg

theorem near_of_term_eq_some {x : Binary64} (hn : n ≠ 0) (hrho : rho ≤ m)
    (h : term m tau n rho = some x) :
    ∃ p, x = .finite false p ∧ Near 7 (2 * unit) (exactTerm m tau n rho) p.value := by
  rcases @term_spec m tau n rho hn hrho with ⟨p, hp, hnear⟩ | ⟨hnone, -⟩
  · rw [h] at hp
    cases hp
    exact ⟨p, rfl, hnear⟩
  · rw [h] at hnone
    cases hnone

theorem term_eq_none_iff (hn : n ≠ 0) (hrho : rho ≤ m) :
    term m tau n rho = none ↔ Binary64.overflow ≤ n ^ (rho + tau - m) := by
  constructor
  · intro h
    rcases @term_spec m tau n rho hn hrho with ⟨p, hp, -⟩ | ⟨-, hpow⟩
    · rw [h] at hp
      cases hp
    · exact hpow
  · intro hpow
    obtain ⟨d, hd, -⟩ := exists_ratio_choose tau hrho
    refine term_of_infinite hd ?_
    rw [Binary64.ofNat_eq_nearest, Nat.cast_pow]
    exact Binary64.nearest_eq_infinite_of_overflow_le hpow

end Term

/-! ## The largest term -/

theorem mem_attacks {m tau rho : ℕ} :
    rho ∈ attacks m tau ↔ firstAttack m tau ≤ rho ∧ rho ≤ m := by
  unfold attacks
  rw [List.mem_range'_1]
  unfold firstAttack
  omega

/-- The exact soundness error of a pair: the largest term over all attacks. -/
def IsExactError (m tau n : ℕ) (E : ℚ) : Prop :=
  IsGreatest (exactTerm m tau n '' Set.Icc (m - tau + 1) m) E

theorem exists_exactError {m tau : ℕ} (n : ℕ) (htau : 1 ≤ tau) (hle : tau ≤ m) :
    ∃ rho ∈ attacks m tau, IsExactError m tau n (exactTerm m tau n rho) := by
  have hne : (Set.Icc (m - tau + 1) m).Nonempty := Set.nonempty_Icc.2 (by omega)
  obtain ⟨rho, hrho, hmax⟩ :=
    Set.exists_max_image _ (exactTerm m tau n) (Set.finite_Icc (m - tau + 1) m) hne
  refine ⟨rho, mem_attacks.2 hrho, Set.mem_image_of_mem _ hrho, ?_⟩
  rintro _ ⟨sigma, hsigma, rfl⟩
  exact hmax sigma hsigma

theorem IsExactError.le_of_forall {m tau n : ℕ} {E b : ℚ} (h : IsExactError m tau n E)
    (hb : ∀ rho ∈ attacks m tau, exactTerm m tau n rho ≤ b) : E ≤ b := by
  obtain ⟨rho, hrho, rfl⟩ := h.1
  exact hb rho (mem_attacks.2 hrho)

theorem IsExactError.term_le {m tau n rho : ℕ} {E : ℚ} (h : IsExactError m tau n E)
    (hrho : rho ∈ attacks m tau) : exactTerm m tau n rho ≤ E :=
  h.2 (Set.mem_image_of_mem _ (mem_attacks.1 hrho))

namespace Binary64

/-- A scan for the largest value, by induction on the values that are left. -/
theorem foldl_larger_spec (f : ℕ → Binary64) (l : List ℕ)
    (hf : ∀ r ∈ l, ∃ a, f r = finite false a) (w : Magnitude) :
    ∃ b, l.foldl (fun worst r => worst.larger (f r)) (finite false w) = finite false b ∧
      w.value ≤ b.value ∧ (∀ r ∈ l, (f r).value ≤ b.value) ∧
      (b = w ∨ ∃ r ∈ l, f r = finite false b) := by
  induction l generalizing w with
  | nil => exact ⟨w, rfl, le_rfl, by simp, .inl rfl⟩
  | cons r l ih =>
    obtain ⟨a, ha⟩ := hf r List.mem_cons_self
    have hl : ∀ r ∈ l, ∃ a, f r = finite false a := fun r hr => hf r (List.mem_cons_of_mem _ hr)
    rw [List.foldl_cons, ha, larger]
    by_cases hlt : (finite false w).lt (finite false a)
    · obtain ⟨b, hb, hab, hall, hfrom⟩ := ih hl a
      rw [if_pos hlt]
      rw [finite_lt_iff] at hlt
      refine ⟨b, hb, hlt.le.trans hab, ?_, .inr ?_⟩
      · intro s hs
        rcases List.mem_cons.1 hs with rfl | hs
        · rw [ha]
          exact hab
        · exact hall s hs
      · rcases hfrom with rfl | ⟨s, hs, hsb⟩
        · exact ⟨r, List.mem_cons_self, ha⟩
        · exact ⟨s, List.mem_cons_of_mem _ hs, hsb⟩
    · obtain ⟨b, hb, hwb, hall, hfrom⟩ := ih hl w
      rw [if_neg hlt]
      rw [finite_lt_iff, not_lt] at hlt
      refine ⟨b, hb, hwb, ?_, ?_⟩
      · intro s hs
        rcases List.mem_cons.1 hs with rfl | hs
        · rw [ha]
          exact hlt.trans hwb
        · exact hall s hs
      · rcases hfrom with rfl | ⟨s, hs, hsb⟩
        · exact .inl rfl
        · exact .inr ⟨s, List.mem_cons_of_mem _ hs, hsb⟩

end Binary64

/-- What a term counts as in the scan. -/
theorem getD_term_eq_finite {m tau n rho : ℕ} (hn : n ≠ 0) (hrho : rho ≤ m) :
    ∃ a, (term m tau n rho).getD .zero = .finite false a := by
  rcases @term_spec m tau n rho hn hrho with ⟨p, hp, -⟩ | ⟨hnone, -⟩
  · exact ⟨p, by rw [hp]; rfl⟩
  · exact ⟨.zero, by rw [hnone]; rfl⟩

theorem worstError_spec {m tau n : ℕ} (hn : n ≠ 0) :
    ∃ b, worstError m tau n = .finite false b ∧
      (∀ rho ∈ attacks m tau, ((term m tau n rho).getD .zero).value ≤ b.value) ∧
      (b = .zero ∨ ∃ rho ∈ attacks m tau, term m tau n rho = some (.finite false b)) := by
  have hterm : ∀ rho ∈ attacks m tau, ∃ a, (term m tau n rho).getD .zero = .finite false a :=
    fun rho hrho => getD_term_eq_finite hn (mem_attacks.1 hrho).2
  obtain ⟨b, hb, -, hall, hfrom⟩ := Binary64.foldl_larger_spec _ _ hterm .zero
  refine ⟨b, hb, hall, ?_⟩
  rcases hfrom with rfl | ⟨rho, hrho, hbrho⟩
  · exact .inl rfl
  · cases hterm' : term m tau n rho with
    | none =>
      rw [hterm'] at hbrho
      cases hbrho
      exact .inl rfl
    | some p =>
      rw [hterm'] at hbrho
      exact .inr ⟨rho, hrho, by rw [hterm']; exact congrArg some hbrho⟩

end CutAndChoose
