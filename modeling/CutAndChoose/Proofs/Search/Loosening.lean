import Mathlib
import CutAndChoose.Proofs.Search.Best

/-!
# CutAndChoose.Proofs.Search.Loosening

Two searches of one grid, the second with at least as many parties and at least as large a target.

* `term_le_of_parties_le`: more parties make no term larger. The power of the number of parties
  grows, its rounding keeps the order, and a term that stops being representable drops to zero.
* `worstError_le_of_parties_le`: so no worst error grows.
* `search_loosened`: the second search accepts what the first one accepts, and its best pair is at
  least as good.
-/

namespace CutAndChoose

namespace Binary64

/-- Numeric comparison; `nan` is neither below nor above anything, itself included. -/
def le (x y : Binary64) : Bool :=
  match x.position, y.position with
  | some i, some j => decide (i ≤ j)
  | _, _ => false

theorem finite_le_iff {a b : Magnitude} :
    (finite false a).le (finite false b) = true ↔ a.value ≤ b.value := by
  rw [Magnitude.value_le_iff]
  simp [le, position]

end Binary64

/-! ## More parties -/

section Parties

variable {m tau n n' rho : ℕ}

/-- Where the power of the larger number is finite, that of the smaller one is, and is smaller. -/
theorem ofNat_pow_le {g' : Magnitude} (k : ℕ) (h : n ≤ n')
    (hg' : Binary64.ofNat (n' ^ k) = .finite false g') :
    ∃ g, Binary64.ofNat (n ^ k) = .finite false g ∧ g.value ≤ g'.value := by
  rw [Binary64.ofNat_eq_nearest] at hg' ⊢
  refine Binary64.nearest_mono (Nat.cast_nonneg _) ?_ hg'
  exact_mod_cast Nat.pow_le_pow_left h k

/-- A term that is representable for more parties is so for fewer, and is no smaller there. -/
theorem term_le_of_parties_le {p' : Magnitude} (hn : n ≠ 0) (h : n ≤ n') (hrho : rho ≤ m)
    (hterm : term m tau n' rho = some (.finite false p')) :
    ∃ p, term m tau n rho = some (.finite false p) ∧ p'.value ≤ p.value := by
  have hn' : n' ≠ 0 := by omega
  obtain ⟨d, hd, -⟩ := exists_ratio_choose tau hrho
  obtain ⟨g', hg', hnearest', -⟩ := quotient_of_term hn' hd hterm
  obtain ⟨g, hg, hle⟩ := ofNat_pow_le (rho + tau - m) h hg'
  have hg1 := (Binary64.near_ofNat (pow_ne_zero _ hn) hg).2
  obtain ⟨p, hp, hnearest, -⟩ := term_of_finite hn hd hg
  have hquot : d.value / g'.value ≤ d.value / g.value :=
    div_le_div_of_nonneg_left d.value_nonneg (lt_of_lt_of_le one_pos hg1) hle
  exact ⟨p, hp, Binary64.value_le_of_nearest (div_nonneg d.value_nonneg g'.value_nonneg) hquot
    hnearest' hnearest⟩

theorem worstError_le_of_parties_le (hn : n ≠ 0) (h : n ≤ n') :
    ∃ b b', worstError m tau n = .finite false b ∧ worstError m tau n' = .finite false b' ∧
      b'.value ≤ b.value := by
  have hn' : n' ≠ 0 := by omega
  obtain ⟨b, hb, hall, -⟩ := @worstError_spec m tau n hn
  obtain ⟨b', hb', -, hfrom⟩ := @worstError_spec m tau n' hn'
  refine ⟨b, b', hb, hb', ?_⟩
  rcases hfrom with rfl | ⟨rho, hrho, hterm⟩
  · exact Binary64.value_zero.trans_le b.value_nonneg
  · obtain ⟨p, hp, hle⟩ := term_le_of_parties_le hn h (mem_attacks.1 hrho).2 hterm
    have hpb := hall rho hrho
    rw [hp] at hpb
    exact hle.trans hpb

end Parties

/-! ## A looser search -/

/-- The same grid, with at least as many parties and at least as large a target. -/
structure Config.Looser (c c' : Config) : Prop where
  mSweep : c'.mSweep = c.mSweep
  tauSweep : c'.tauSweep = c.tauSweep
  parties : c.parties ≤ c'.parties
  target : c.target.le c'.target = true

section Looser

variable {c c' : Config}

theorem Config.Looser.pairs_eq (h : c.Looser c') : c'.pairs = c.pairs := by
  simp [Config.pairs, h.mSweep, h.tauSweep]

theorem Config.Looser.evaluate_le (h : c.Looser c') (hc : c.Checked) (p : Params) :
    (c'.evaluate p).worstError.le (c.evaluate p).worstError = true := by
  have hparties := UInt32.le_iff_toNat_le.1 h.parties
  obtain ⟨b, b', hb, hb', hle⟩ :=
    @worstError_le_of_parties_le p.m.toNat p.tau.toNat _ _ hc.parties_ne_zero hparties
  simp only [Config.evaluate, hb, hb']
  exact Binary64.finite_le_iff.2 hle

theorem Config.Looser.accepted_of_accepted (h : c.Looser c') (hc : c.Checked) (hc' : c'.Checked)
    {p : Params} (hp : (c.evaluate p).accepted = true) : (c'.evaluate p).accepted = true := by
  have hparties := UInt32.le_iff_toNat_le.1 h.parties
  have htarget := h.target
  obtain ⟨t, ht, -⟩ := hc.target
  obtain ⟨t', ht', -⟩ := hc'.target
  obtain ⟨b, b', hb, hb', hle⟩ :=
    @worstError_le_of_parties_le p.m.toNat p.tau.toNat _ _ hc.parties_ne_zero hparties
  simp only [Config.evaluate, hb, hb', ht, ht', Binary64.finite_lt_iff] at hp ⊢
  rw [ht, ht', Binary64.finite_le_iff] at htarget
  exact hle.trans_lt (hp.trans_le htarget)

theorem accepted_eq_filter (c : Config) :
    c.outcome.accepted = c.pairs.filter fun p => (c.evaluate p).accepted := by
  simp only [Config.outcome, List.filter_map, List.map_map]
  exact List.map_id _

theorem Config.Looser.accepted_sublist (h : c.Looser c') (hc : c.Checked) (hc' : c'.Checked) :
    c.outcome.accepted.Sublist c'.outcome.accepted := by
  rw [accepted_eq_filter, accepted_eq_filter, h.pairs_eq]
  refine List.monotone_filter_right _ ?_
  intro p hp
  exact h.accepted_of_accepted hc hc' hp

/-- The sentinel takes part in both scans, so more pairs never make the result worse. -/
theorem bestOf_le_of_subset {l l' : List Params} (h : l ⊆ l') :
    bestOf l' = bestOf l ∨ (bestOf l').Before (bestOf l) := by
  have hmem : bestOf l ∈ Params.sentinel :: l' := List.cons_subset_cons _ h (bestOf_mem l)
  rcases Params.before_trichotomy (bestOf l') (bestOf l) with hlt | heq | hgt
  · exact .inr hlt
  · exact .inl heq
  · exact absurd hgt (not_before_bestOf hmem)

end Looser

theorem search_loosened {c c' : Config} (hcheck : c.check = .ok ()) (hcheck' : c'.check = .ok ())
    (h : c.Looser c') (hsum : ∀ p ∈ c.pairs, p.m.toNat + p.tau.toNat < 2 ^ 32) :
    ∃ o o', search c = .ok o ∧ search c' = .ok o' ∧
      List.Forall₂ (fun e e' => e'.params = e.params ∧ e'.worstError.le e.worstError = true)
        o.evaluations o'.evaluations ∧
      o.accepted.Sublist o'.accepted ∧ (o'.best = o.best ∨ o'.best.Before o.best) := by
  have hc := Config.check_eq_ok_iff.1 hcheck
  have hc' := Config.check_eq_ok_iff.1 hcheck'
  have hsub := h.accepted_sublist hc hc'
  have hsum' : ∀ p ∈ c'.pairs, p.m.toNat + p.tau.toNat < 2 ^ 32 := h.pairs_eq ▸ hsum
  refine ⟨c.outcome, c'.outcome, search_eq_ok_iff.2 ⟨hc, hsum, rfl⟩,
    search_eq_ok_iff.2 ⟨hc', hsum', rfl⟩, ?_, hsub, bestOf_le_of_subset hsub.subset⟩
  simp only [Config.outcome, h.pairs_eq, List.forall₂_map_left_iff, List.forall₂_map_right_iff,
    List.forall₂_same]
  intro p _
  exact ⟨rfl, h.evaluate_le hc p⟩

/-- The default search with four times the parties and the target `2^-20`. -/
def looserDefault : Config := { Config.default with parties := 64, target := targetError 20 }

theorem search_loosened_default :
    Config.default.check = .ok () ∧ looserDefault.check = .ok () ∧
      Config.default.Looser looserDefault ∧
      (∀ p ∈ Config.default.pairs, p.m.toNat + p.tau.toNat < 2 ^ 32) ∧
      ∃ o o', search Config.default = .ok o ∧ search looserDefault = .ok o' ∧
        List.Forall₂ (fun e e' => e'.params = e.params ∧ e'.worstError.le e.worstError = true)
          o.evaluations o'.evaluations ∧
        o.accepted.Sublist o'.accepted ∧ (o'.best = o.best ∨ o'.best.Before o.best) := by
  have hcheck : Config.default.check = .ok () := by decide +kernel
  have hcheck' : looserDefault.check = .ok () := by decide +kernel
  have hlooser : Config.default.Looser looserDefault := by
    refine ⟨rfl, rfl, ?_, ?_⟩
    · decide
    · decide +kernel
  have hsum : ∀ p ∈ Config.default.pairs, p.m.toNat + p.tau.toNat < 2 ^ 32 := by decide +kernel
  exact ⟨hcheck, hcheck', hlooser, hsum, search_loosened hcheck hcheck' hlooser hsum⟩

end CutAndChoose
