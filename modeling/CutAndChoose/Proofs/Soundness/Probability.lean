import Mathlib
import CutAndChoose.Proofs.Soundness.Term

/-!
# CutAndChoose.Proofs.Soundness.Probability

Terms and worst errors are probabilities, for all 32-bit parameters whose sums fit.

* `termOfWords_range`: a term is not representable exactly when the power of the number of parties
  reaches the overflow threshold. Every other term lies between zero and the binary64 number nearest
  to `1 / n`, since every attack has to guess at least once.
* `worstErrorOfWords_maximum`: the worst error is the largest of the terms, over all attacks, which
  guess from once to `tau` times.
-/

namespace CutAndChoose

/-! ## One term -/

section Term

variable {m tau n rho : ℕ}

/-- The inverse of the number of parties, rounded. -/
theorem exists_nearest_inverse (hn : n ≠ 0) :
    ∃ q, Binary64.nearest (1 / n) = .finite false q ∧ q.value ≤ 1 ∧
      (2 ≤ n → q.value ≤ 1 / 2) := by
  have hpos : (0 : ℚ) ≤ 1 / n := by positivity
  obtain ⟨u, -, hu⟩ := Binary64.one_eq
  have hone : 1 / (n : ℚ) ≤ u.value := by
    rw [hu, one_div]
    exact Nat.cast_inv_le_one n
  obtain ⟨q, hq, hqu⟩ := Binary64.nearest_le hpos hone
  refine ⟨q, hq, hu ▸ hqu, ?_⟩
  intro htwo
  obtain ⟨h, -, hh⟩ := @Binary64.twoPow_finite (-1) (by decide) (by decide)
  have hhalf : h.value = 1 / 2 := by rw [hh, zpow_neg_one, one_div]
  have hle : 1 / (n : ℚ) ≤ h.value := by
    rw [hhalf]
    exact one_div_le_one_div_of_le two_pos (by exact_mod_cast htwo)
  rw [← hhalf]
  exact Binary64.value_le_of_nearest hpos hle hq (Binary64.nearest_value h)

/-- A power with an exponent from one on is at least the number of parties, also when it is
rounded. -/
theorem le_value_ofNat_pow {k : ℕ} {g : Magnitude} (hsmall : n ≤ 2 ^ Magnitude.precision)
    (hk : k ≠ 0) (hg : Binary64.ofNat (n ^ k) = .finite false g) : (n : ℚ) ≤ g.value := by
  obtain ⟨a, -, ha⟩ := Binary64.ofNat_of_le hsmall
  rw [Binary64.ofNat_eq_nearest] at hg
  rw [← ha]
  refine Binary64.le_of_nearest ?_ hg
  rw [ha]
  exact_mod_cast Nat.le_self_pow hk n

/-- The coefficients form a probability, and what is left to guess has probability `1 / n` at the
most. -/
theorem term_le_nearest_inverse {p q : Magnitude} (hn : n ≠ 0)
    (hsmall : n ≤ 2 ^ Magnitude.precision) (hrho : rho ≤ m) (hguess : m < rho + tau)
    (hq : Binary64.nearest (1 / n) = .finite false q)
    (hterm : term m tau n rho = some (.finite false p)) : p.value ≤ q.value := by
  obtain ⟨d, hd, hd1⟩ := exists_ratio_choose tau hrho
  obtain ⟨g, hg, hnearest, -⟩ := quotient_of_term hn hd hterm
  have hng := le_value_ofNat_pow hsmall (Nat.sub_ne_zero_of_lt hguess) hg
  have hquot : d.value / g.value ≤ 1 / n :=
    div_le_div₀ zero_le_one hd1 (Nat.cast_pos.2 (Nat.pos_of_ne_zero hn)) hng
  exact Binary64.value_le_of_nearest (div_nonneg d.value_nonneg g.value_nonneg) hquot hnearest hq

end Term

/-! ## Terms of words -/

section Words

variable {m tau n rho : UInt32}

theorem mem_attacks_words (hle : tau ≤ m) :
    rho.toNat ∈ attacks m.toNat tau.toNat ↔ m - tau < rho ∧ rho ≤ m := by
  rw [mem_attacks, firstAttack, Nat.succ_le_iff, UInt32.lt_iff_toNat_lt, UInt32.le_iff_toNat_le,
    UInt32.toNat_sub_of_le _ _ hle]

theorem termOfWords_of_attack (hle : tau ≤ m) (hlow : m - tau < rho) (hhigh : rho ≤ m)
    (hsum : rho.toNat + tau.toNat < 2 ^ 32) :
    termOfWords m tau n rho = .ok (term m.toNat tau.toNat n.toNat rho.toNat) := by
  have hattack := mem_attacks.1 ((mem_attacks_words hle).2 ⟨hlow, hhigh⟩)
  unfold firstAttack at hattack
  exact if_pos ⟨UInt32.le_iff_toNat_le.1 hle, by omega, hsum⟩

theorem parties_le (n : UInt32) : n.toNat ≤ 2 ^ Magnitude.precision :=
  n.toNat_lt_size.le.trans (by decide)

theorem parties_ne_zero (hn : 1 ≤ n) : n.toNat ≠ 0 :=
  (Nat.lt_of_succ_le (UInt32.le_iff_toNat_le.1 hn)).ne'

/-- A term fails only where the power of the number of parties overflows. Otherwise it is a
probability, and at most `1 / n`, rounded. -/
theorem termOfWords_range (hle : tau ≤ m) (hlow : m - tau < rho) (hhigh : rho ≤ m) (hn : 1 ≤ n)
    (hsum : rho.toNat + tau.toNat < 2 ^ 32) :
    ∃ x, termOfWords m tau n rho = .ok x ∧
      (x = none ↔ (2 ^ 1024 - 2 ^ 970 : ℚ) ≤ n.toNat ^ (rho.toNat + tau.toNat - m.toNat)) ∧
      (x ≠ none → ∃ p q, x = some (.finite false p) ∧
        Binary64.nearest (1 / n.toNat) = .finite false q ∧ 0 ≤ p.value ∧ p.value ≤ q.value ∧
        p.value ≤ 1 ∧ (2 ≤ n → p.value ≤ 1 / 2)) := by
  have hattack := mem_attacks.1 ((mem_attacks_words hle).2 ⟨hlow, hhigh⟩)
  have hguess : m.toNat < rho.toNat + tau.toNat := by
    have hattack' := hattack.1
    unfold firstAttack at hattack'
    omega
  have hn0 := parties_ne_zero hn
  refine ⟨_, termOfWords_of_attack hle hlow hhigh hsum, term_eq_none_iff hn0 hattack.2, ?_⟩
  intro hsome
  rcases term_spec hn0 hattack.2 with ⟨p, hp, -⟩ | ⟨hnone, -⟩
  · obtain ⟨q, hq, hq1, hqhalf⟩ := exists_nearest_inverse hn0
    have hpq := term_le_nearest_inverse hn0 (parties_le n) hattack.2 hguess hq hp
    refine ⟨p, q, hp, hq, p.value_nonneg, hpq, hpq.trans hq1, ?_⟩
    intro htwo
    exact hpq.trans (hqhalf (UInt32.le_iff_toNat_le.1 htwo))
  · exact absurd hnone hsome

/-- All of 200 executions are used. With 1024 parties the power is `2^2000`, with 16 it fits. -/
theorem termOfWords_range_allUsed :
    (200 : UInt32) ≤ 200 ∧ (200 - 200 : UInt32) < 200 ∧ (1 : UInt32) ≤ 1024 ∧ (1 : UInt32) ≤ 16 ∧
      200 + 200 < 2 ^ 32 ∧ termOfWords 200 200 1024 200 = .ok none ∧
      ∃ p q, termOfWords 200 200 16 200 = .ok (some (.finite false p)) ∧
        Binary64.nearest (1 / 16) = .finite false q ∧ p.value ≤ q.value ∧ p.value ≤ 1 / 2 := by
  have hle : (200 : UInt32) ≤ 200 := by decide
  have hlow : (200 - 200 : UInt32) < 200 := by decide
  have hn : (1 : UInt32) ≤ 1024 := by decide
  have hn' : (1 : UInt32) ≤ 16 := by decide
  have hsum : 200 + 200 < 2 ^ 32 := by decide
  have hparties : ((1024 : UInt32).toNat : ℚ) = 2 ^ 10 := by
    have hnat : (1024 : UInt32).toNat = 2 ^ 10 := rfl
    rw [hnat]
    norm_num
  have hlarge : (2 ^ 1024 - 2 ^ 970 : ℚ) ≤ (1024 : UInt32).toNat ^ 200 := by
    rw [hparties, ← pow_mul]
    refine (sub_le_self _ (pow_pos two_pos _).le).trans ?_
    exact pow_le_pow_right₀ one_le_two (by decide)
  have hparties' : ((16 : UInt32).toNat : ℚ) = 2 ^ 4 := by
    have hnat : (16 : UInt32).toNat = 2 ^ 4 := rfl
    rw [hnat]
    norm_num
  have hsmall : ((16 : UInt32).toNat : ℚ) ^ 200 < 2 ^ 1024 - 2 ^ 970 := by
    rw [hparties', ← pow_mul, lt_sub_iff_add_lt]
    calc (2 : ℚ) ^ (4 * 200) + 2 ^ 970 < 2 ^ 970 + 2 ^ 970 :=
          add_lt_add_left (pow_lt_pow_right₀ one_lt_two (by decide)) _
      _ = 2 ^ 971 := by rw [← mul_two, ← pow_succ]
      _ ≤ 2 ^ 1024 := pow_le_pow_right₀ one_le_two (by decide)
  obtain ⟨x, hx, hnone, -⟩ := termOfWords_range hle hlow hle hn hsum
  obtain ⟨y, hy, hnone', hrange⟩ := termOfWords_range hle hlow hle hn' hsum
  obtain ⟨p, q, hp, hq, -, hpq, -, hhalf⟩ := hrange (mt hnone'.1 (not_le.2 hsmall))
  rw [hnone.2 hlarge] at hx
  rw [hp] at hy
  exact ⟨hle, hlow, hn, hn', hsum, hx, p, q, hy, hq, hpq, hhalf (by decide)⟩

end Words

/-! ## The worst error of words -/

section WorstError

variable {m tau n : ℕ}

/-- The numbers of guesses, in the order of the scan. -/
theorem guesses_attacks (hle : tau ≤ m) :
    (attacks m tau).map (fun rho => rho + tau - m) = List.range' 1 tau := by
  unfold attacks firstAttack
  refine List.ext_getElem ?_ ?_
  · simp only [List.length_map, List.length_range']
    omega
  · intro i h h'
    simp only [List.getElem_map, List.getElem_range']
    omega

/-- Where no term is positive, the worst error is still that of an attack, since there is one. -/
theorem worstError_attained (hn : n ≠ 0) (htau : 1 ≤ tau) (hle : tau ≤ m) :
    ∃ b, worstError m tau n = .finite false b ∧
      (∀ rho ∈ attacks m tau, ∃ p, (term m tau n rho).getD .zero = .finite false p ∧
        p.value ≤ b.value) ∧
      ∃ rho ∈ attacks m tau, (term m tau n rho).getD .zero = .finite false b := by
  obtain ⟨b, hb, hall, hfrom⟩ := @worstError_spec m tau n hn
  have hbound : ∀ rho ∈ attacks m tau, ∃ p, (term m tau n rho).getD .zero = .finite false p ∧
      p.value ≤ b.value := by
    intro rho hrho
    obtain ⟨p, hp⟩ := @getD_term_eq_finite m tau n rho hn (mem_attacks.1 hrho).2
    have hle := hall rho hrho
    rw [hp] at hle
    exact ⟨p, hp, hle⟩
  refine ⟨b, hb, hbound, ?_⟩
  rcases hfrom with rfl | ⟨rho, hrho, hterm⟩
  · have hlast : m ∈ attacks m tau := by
      rw [mem_attacks, firstAttack]
      omega
    obtain ⟨p, hp, hpb⟩ := hbound m hlast
    have hunits : p.units = Magnitude.zero.units := Nat.le_zero.1 (Magnitude.value_le_iff.1 hpb)
    rw [Magnitude.eq_of_units_eq hunits] at hp
    exact ⟨m, hlast, hp⟩
  · exact ⟨rho, hrho, by rw [hterm]; rfl⟩

end WorstError

/-- The worst error of a pair is a probability: no term exceeds it, and an attack reaches it. -/
theorem worstErrorOfWords_maximum {m tau n : UInt32} (htau : 1 ≤ tau) (hle : tau ≤ m)
    (hn : 1 ≤ n) (hsum : m.toNat + tau.toNat < 2 ^ 32) :
    ∃ b, worstErrorOfWords m tau n = .ok (.finite false b) ∧ 0 ≤ b.value ∧
      (∀ rho, m - tau < rho → rho ≤ m → ∃ x p, termOfWords m tau n rho = .ok x ∧
        x.getD .zero = .finite false p ∧ p.value ≤ b.value) ∧
      (∃ rho x, m - tau < rho ∧ rho ≤ m ∧ termOfWords m tau n rho = .ok x ∧
        x.getD .zero = .finite false b) ∧
      (attacks m.toNat tau.toNat).map (fun rho => rho + tau.toNat - m.toNat) =
        List.range' 1 tau.toNat := by
  have htau' := UInt32.le_iff_toNat_le.1 htau
  have hle' := UInt32.le_iff_toNat_le.1 hle
  have hm := m.toNat_lt_size
  have hone : (1 : UInt32).toNat = 1 := rfl
  rw [hone] at htau'
  have hfits : PairFits m.toNat tau.toNat := by
    refine ⟨hle', ?_, .inr hsum⟩
    unfold firstAttack
    omega
  obtain ⟨b, hb, hall, rho, hrho, hterm⟩ := worstError_attained (parties_ne_zero hn) htau' hle'
  have hword : (UInt32.ofNat rho).toNat = rho :=
    UInt32.toNat_ofNat_of_lt' ((mem_attacks.1 hrho).2.trans_lt hm)
  have hterm_eq : ∀ rho : UInt32, m - tau < rho → rho ≤ m →
      termOfWords m tau n rho = .ok (term m.toNat tau.toNat n.toNat rho.toNat) := by
    intro rho hlow hhigh
    have hrho' := UInt32.le_iff_toNat_le.1 hhigh
    exact termOfWords_of_attack hle hlow hhigh (by omega)
  refine ⟨b, ?_, b.value_nonneg, ?_, ?_, guesses_attacks hle'⟩
  · rw [worstErrorOfWords, if_pos hfits, hb]
  · intro rho hlow hhigh
    obtain ⟨p, hp, hpb⟩ := hall _ ((mem_attacks_words hle).2 ⟨hlow, hhigh⟩)
    exact ⟨_, p, hterm_eq rho hlow hhigh, hp, hpb⟩
  · rw [← hword] at hrho hterm
    obtain ⟨hlow, hhigh⟩ := (mem_attacks_words hle).1 hrho
    exact ⟨_, _, hlow, hhigh, hterm_eq _ hlow hhigh, hterm⟩

/-- From 103 guesses among 1024 parties on the terms are not representable, and count as zero. -/
theorem worstErrorOfWords_maximum_allUsed :
    (1 : UInt32) ≤ 200 ∧ (200 : UInt32) ≤ 200 ∧ (1 : UInt32) ≤ 1024 ∧ 200 + 200 < 2 ^ 32 ∧
      ∃ b, worstErrorOfWords 200 200 1024 = .ok (.finite false b) ∧ 0 ≤ b.value ∧
        (∀ rho : UInt32, 200 - 200 < rho → rho ≤ 200 →
          ∃ x p, termOfWords 200 200 1024 rho = .ok x ∧
            x.getD .zero = .finite false p ∧ p.value ≤ b.value) ∧
        (∃ (rho : UInt32) (x : Option Binary64), 200 - 200 < rho ∧ rho ≤ 200 ∧
          termOfWords 200 200 1024 rho = .ok x ∧ x.getD .zero = .finite false b) ∧
        (attacks 200 200).map (fun rho => rho + 200 - 200) = List.range' 1 200 := by
  have htau : (1 : UInt32) ≤ 200 := by decide
  have hle : (200 : UInt32) ≤ 200 := by decide
  have hn : (1 : UInt32) ≤ 1024 := by decide
  have hsum : 200 + 200 < 2 ^ 32 := by decide
  exact ⟨htau, hle, hn, hsum, worstErrorOfWords_maximum htau hle hn hsum⟩

end CutAndChoose
