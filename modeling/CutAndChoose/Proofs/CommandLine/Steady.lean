import Mathlib
import CutAndChoose.Proofs.CommandLine.Grammar

/-!
# CutAndChoose.Proofs.CommandLine.Steady

Two readings of the same arguments side by side, the slots of the one being a map of those of the
other.

* `Opt.Keeps`: what an option does with slots, it does with mapped slots too.
* `State.Steady`: what is pending keeps the map, and a state that awaits a value lacks one.
* `readArgument_map`: a step of the reading goes along with the map.
* `readArguments_settled`: what is pending may as well take effect before the next argument, and if
  the arguments are accepted, it does (`settle_of_readArguments`).
-/

namespace CutAndChoose.CommandLine

/-! ## Reading along with a map of the slots -/

section Map

variable {σ : Type} {g : Grammar σ} {f : σ → σ} {s s' t : State σ} {o : Opt σ} {arg : String}
  {args : List String} {value : Option String}

/-- What the option does with slots, it does with mapped slots too. -/
def Opt.Keeps (o : Opt σ) (f : σ → σ) : Prop :=
  ∀ slots slots' value, o.apply slots value = .ok slots' → o.apply (f slots) value = .ok (f slots')

def State.map (f : σ → σ) (s : State σ) : State σ := { s with slots := f s.slots }

structure State.Steady (s : State σ) (f : σ → σ) : Prop where
  keeps : ∀ o value, s.pending = some (o, value) → o.Keeps f
  awaits : s.awaitsValue = true → ∃ o, s.Lacks o

theorem steady_of_settled (hpending : s.pending = none) (hawaits : s.awaitsValue = false) :
    s.Steady f where
  keeps o value h := by
    rw [hpending] at h
    cases h
  awaits h := by
    rw [hawaits] at h
    cases h

theorem State.Steady.awaits_eq_false (h : s.Steady f) (hsettle : s.settle = .ok t) :
    s.awaitsValue = false := by
  cases hawaits : s.awaitsValue with
  | false => rfl
  | true =>
    obtain ⟨o, ho⟩ := h.awaits hawaits
    exact absurd hsettle ho.settle_ne_ok

theorem awaitsValue_of_settle (h : s.settle = .ok t) : t.awaitsValue = s.awaitsValue := by
  unfold State.settle at h
  split at h
  · cases h
    rfl
  · rw [bind_eq_ok_iff] at h
    obtain ⟨_, -, h⟩ := h
    cases h
    rfl

theorem settle_map (hs : s.Steady f) (h : s.settle = .ok t) :
    (s.map f).settle = .ok (t.map f) := by
  unfold State.settle at h ⊢
  cases hpending : s.pending with
  | none =>
    rw [hpending] at h
    cases h
    have hmap : (s.map f).pending = none := hpending
    rw [hmap]
  | some begun =>
    obtain ⟨o, value⟩ := begun
    rw [hpending] at h
    dsimp only at h
    rw [bind_eq_ok_iff] at h
    obtain ⟨slots, happly, h⟩ := h
    cases h
    have hmap : (s.map f).pending = some (o, value) := hpending
    have happly' : o.apply (s.map f).slots value = .ok (f slots) :=
      hs.keeps o value hpending _ _ _ happly
    rw [hmap]
    dsimp only
    rw [happly']
    rfl

/-- An option is begun, or it takes effect at once. -/
theorem option_map (hs : s.Steady f) (ho : o.Keeps f) (h : s.option o value = .ok s') :
    (s.map f).option o value = .ok (s'.map f) ∧ s'.Steady f := by
  unfold State.option at h ⊢
  split
  · rename_i hbegin
    rw [if_pos hbegin, State.begin, bind_eq_ok_iff] at h
    obtain ⟨t, hsettle, h⟩ := h
    cases h
    have htakes : o.takesValue = true := by
      rw [Bool.and_eq_true] at hbegin
      exact hbegin.1
    refine ⟨?_, ?_, ?_⟩
    · rw [State.begin, settle_map hs hsettle]
      rfl
    · intro p v hp
      cases hp
      exact ho
    · intro _
      exact ⟨o, rfl, htakes⟩
  · rename_i hbegin
    rw [if_neg hbegin, bind_eq_ok_iff] at h
    obtain ⟨t, hsettle, h⟩ := h
    rw [bind_eq_ok_iff] at h
    obtain ⟨slots, happly, h⟩ := h
    cases h
    have happly' : o.apply (t.map f).slots value = .ok (f slots) := ho _ _ _ happly
    refine ⟨?_, steady_of_settled (pending_of_settle hsettle : t.pending = none) rfl⟩
    rw [settle_map hs hsettle, ok_bind, happly']
    rfl

theorem longOption_map {name : String}
    (hg : ∀ o, g.options.find? (·.long == name) = some o → o.Keeps f) (hs : s.Steady f)
    (h : g.longOption s name value = .ok s') :
    g.longOption (s.map f) name value = .ok (s'.map f) ∧ s'.Steady f := by
  unfold Grammar.longOption at h ⊢
  cases hfind : g.options.find? (·.long == name) with
  | none =>
    rw [hfind] at h
    cases h
  | some o =>
    rw [hfind] at h
    dsimp only at h ⊢
    split at h
    · cases h
    · rename_i hneeded
      rw [if_neg hneeded]
      exact option_map hs (hg o hfind) h

theorem shortOptions_map {letters : List Char}
    (hg : ∀ c o, g.options.find? (·.short == some c) = some o → o.Keeps f) (hs : s.Steady f)
    (h : g.shortOptions s letters = .ok s') :
    g.shortOptions (s.map f) letters = .ok (s'.map f) ∧ s'.Steady f := by
  induction letters generalizing s with
  | nil =>
    cases h
    exact ⟨rfl, hs⟩
  | cons c rest ih =>
    unfold Grammar.shortOptions at h ⊢
    cases hfind : g.options.find? (·.short == some c) with
    | none =>
      rw [hfind] at h
      cases h
    | some o =>
      rw [hfind] at h
      dsimp only at h ⊢
      split at h
      · rename_i htakes
        rw [if_pos htakes]
        exact option_map hs (hg c o hfind) h
      · rename_i htakes
        rw [bind_eq_ok_iff] at h
        obtain ⟨t, ht, h⟩ := h
        obtain ⟨hmap, hsteady⟩ := option_map hs (hg c o hfind) ht
        rw [if_neg htakes, hmap, ok_bind]
        exact ih hsteady h

theorem readArgument_map (hoperand : g.operand = none)
    (hlong : ∀ name value, longForm? arg.toList = some (name, value) →
      ∀ o, g.options.find? (·.long == String.ofList name) = some o → o.Keeps f)
    (hshort : ∀ c o, g.options.find? (·.short == some c) = some o → o.Keeps f)
    (hs : s.Steady f) (h : g.readArgument s arg = .ok s') :
    g.readArgument (s.map f) arg = .ok (s'.map f) ∧ s'.Steady f := by
  unfold Grammar.readArgument at h ⊢
  cases hform : longForm? arg.toList with
  | some form =>
    obtain ⟨name, value⟩ := form
    rw [hform] at h
    exact longOption_map (hlong name value hform) hs h
  | none =>
    rw [hform] at h
    dsimp only at h ⊢
    cases hletters : shortForm? arg.toList with
    | some letters =>
      rw [hletters] at h
      exact shortOptions_map hshort hs h
    | none =>
      rw [hletters] at h
      dsimp only at h ⊢
      cases hpending : s.pending with
      | none =>
        rw [hpending] at h
        exact absurd h (readOperand_ne_ok hoperand)
      | some begun =>
        obtain ⟨o, value⟩ := begun
        rw [hpending] at h
        dsimp only at h
        split at h
        · rename_i hawaits
          cases h
          have hmap : (s.map f).pending = some (o, value) := hpending
          have hawaits' : (s.map f).awaitsValue = true := hawaits
          rw [hmap]
          dsimp only
          rw [if_pos hawaits']
          refine ⟨rfl, ?_, ?_⟩
          · intro p v hp
            cases hp
            exact hs.keeps o value hpending
          · intro hfalse
            cases hfalse
        · exact absurd h (readOperand_ne_ok hoperand)

end Map

/-! ## What is pending takes effect -/

section Settled

variable {σ : Type} {g : Grammar σ} {s s' t : State σ} {o : Opt σ} {arg : String}
  {args : List String} {value : Option String}

theorem option_settled (h : s.settle = .ok t) : s.option o value = t.option o value := by
  have ht := settle_of_pending (pending_of_settle h)
  unfold State.option State.begin
  rw [h, ht]

theorem readArgument_settled (hoperand : g.operand = none) (hawaits : s.awaitsValue = false)
    (h : s.settle = .ok t) : g.readArgument s arg = g.readArgument t arg := by
  have hrefuse : ∀ u : State σ, g.readOperand u arg = .error .unknownArgument := by
    intro u
    rw [Grammar.readOperand, hoperand]
  unfold Grammar.readArgument
  cases longForm? arg.toList with
  | some form =>
    simp only [Grammar.longOption, option_settled h]
  | none =>
    dsimp only
    cases hletters : shortForm? arg.toList with
    | some letters =>
      obtain ⟨c, rest, rfl⟩ := shortForm?_eq_some hletters
      simp only [Grammar.shortOptions, option_settled h]
    | none =>
      rw [hawaits, pending_of_settle h]
      cases s.pending with
      | none => simp only [hrefuse]
      | some begun => simp [hrefuse]

/-- While nothing waits for its value, what is pending takes effect before anything else. -/
theorem readArguments_settled (hoperand : g.operand = none) (hawaits : s.awaitsValue = false)
    (h : s.settle = .ok t) : g.readArguments s args = g.readArguments t args := by
  have ht := settle_of_pending (pending_of_settle h)
  cases args with
  | nil => rw [Grammar.readArguments, Grammar.readArguments, h, ht]
  | cons arg rest =>
    rw [Grammar.readArguments, Grammar.readArguments, readArgument_settled hoperand hawaits h]
    split
    · cases rest with
      | nil =>
        rw [List.foldlM_nil, List.foldlM_nil]
        show s.settle = t.settle
        rw [h, ht]
      | cons operand rest => simp only [List.foldlM_cons, Grammar.readOperand, hoperand]
    · rfl

theorem readArguments_map_settled {f : σ → σ} (hoperand : g.operand = none) (hs : s.Steady f)
    (h : s.settle = .ok t) : g.readArguments (s.map f) args = g.readArguments (t.map f) args := by
  have hawaits : (s.map f).awaitsValue = false := hs.awaits_eq_false h
  exact readArguments_settled hoperand hawaits (settle_map hs h)

theorem settle_of_option (h : s.option o value = .ok s') : ∃ t, s.settle = .ok t := by
  unfold State.option State.begin at h
  split at h
  · rw [bind_eq_ok_iff] at h
    obtain ⟨t, hsettle, -⟩ := h
    exact ⟨t, hsettle⟩
  · rw [bind_eq_ok_iff] at h
    obtain ⟨t, hsettle, -⟩ := h
    exact ⟨t, hsettle⟩

/-- An argument is only accepted if what is pending takes effect, unless it is the value of that. -/
theorem settle_of_readArgument (hoperand : g.operand = none) (hawaits : s.awaitsValue = false)
    (h : g.readArgument s arg = .ok s') : ∃ t, s.settle = .ok t := by
  unfold Grammar.readArgument at h
  split at h
  · unfold Grammar.longOption at h
    split at h
    · cases h
    · split at h
      · cases h
      · exact settle_of_option h
  · split at h
    · rename_i letters hletters
      obtain ⟨c, rest, rfl⟩ := shortForm?_eq_some hletters
      unfold Grammar.shortOptions at h
      split at h
      · cases h
      · split at h
        · exact settle_of_option h
        · rw [bind_eq_ok_iff] at h
          obtain ⟨_, hoption, -⟩ := h
          exact settle_of_option hoption
    · split at h
      · rw [if_neg (by simp [hawaits])] at h
        exact absurd h (readOperand_ne_ok hoperand)
      · exact absurd h (readOperand_ne_ok hoperand)

theorem settle_of_readArguments (hoperand : g.operand = none) (hawaits : s.awaitsValue = false)
    (h : g.readArguments s args = .ok s') : ∃ t, s.settle = .ok t := by
  cases args with
  | nil => exact ⟨s', h⟩
  | cons arg rest =>
    rw [Grammar.readArguments] at h
    split at h
    · cases rest with
      | nil =>
        rw [List.foldlM_nil] at h
        exact ⟨s', h⟩
      | cons operand rest =>
        simp only [List.foldlM_cons, Grammar.readOperand, hoperand] at h
        cases h
    · rw [bind_eq_ok_iff] at h
      obtain ⟨t, ht, -⟩ := h
      exact settle_of_readArgument hoperand hawaits ht

end Settled

end CutAndChoose.CommandLine
