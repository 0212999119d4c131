import Mathlib
import CutAndChoose.CommandLine.Command
import CutAndChoose.Proofs.Except

/-!
# CutAndChoose.Proofs.CommandLine.Grammar

What the last arguments of an accepted command line do.

* `readArguments_append`: arguments are read one after the other, each from the state that those
  before it leave.
* `readArgument_value`: behind an option that waits for its value, an argument is that value or the
  command line is refused.
-/

namespace CutAndChoose.CommandLine

variable {σ : Type} {g : Grammar σ} {s s' : State σ} {o : Opt σ} {arg : String}
  {args rest : List String} {value : Option String}

/-! ## An option without its value -/

/-- The option that was begun last still has no value. -/
def State.Lacks (s : State σ) (o : Opt σ) : Prop :=
  s.pending = some (o, none) ∧ o.takesValue = true

theorem State.Lacks.settle_ne_ok (h : s.Lacks o) : s.settle ≠ .ok s' := by
  intro hok
  rw [State.settle, h.1] at hok
  simp only [Opt.apply, h.2] at hok
  cases hok

theorem State.Lacks.option_ne_ok (h : s.Lacks o) {p : Opt σ} : s.option p value ≠ .ok s' := by
  intro hok
  unfold State.option at hok
  split at hok
  · rw [State.begin, bind_eq_ok_iff] at hok
    obtain ⟨_, hsettle, -⟩ := hok
    exact h.settle_ne_ok hsettle
  · rw [bind_eq_ok_iff] at hok
    obtain ⟨_, hsettle, -⟩ := hok
    exact h.settle_ne_ok hsettle

theorem State.Lacks.longOption_ne_ok (h : s.Lacks o) {name : String} :
    g.longOption s name value ≠ .ok s' := by
  intro hok
  unfold Grammar.longOption at hok
  split at hok
  · cases hok
  · split at hok
    · cases hok
    · exact h.option_ne_ok hok

theorem State.Lacks.shortOptions_ne_ok (h : s.Lacks o) {c : Char} {letters : List Char} :
    g.shortOptions s (c :: letters) ≠ .ok s' := by
  intro hok
  unfold Grammar.shortOptions at hok
  split at hok
  · cases hok
  · split at hok
    · exact h.option_ne_ok hok
    · rw [bind_eq_ok_iff] at hok
      obtain ⟨_, hoption, -⟩ := hok
      exact h.option_ne_ok hoption

theorem shortForm?_eq_some {text letters : List Char} (h : shortForm? text = some letters) :
    ∃ c rest, letters = c :: rest := by
  unfold shortForm? at h
  split at h
  · split at h
    · cases h
    · cases h
      exact ⟨_, _, rfl⟩
  · cases h

/-- What follows an option that waits for its value is that value. -/
theorem readArgument_value (h : s.Lacks o) (hawaits : s.awaitsValue = true)
    (hok : g.readArgument s arg = .ok s') :
    s' = { s with pending := some (o, some arg), awaitsValue := false } := by
  unfold Grammar.readArgument at hok
  split at hok
  · exact absurd hok h.longOption_ne_ok
  · split at hok
    · rename_i letters hletters
      obtain ⟨c, rest, rfl⟩ := shortForm?_eq_some hletters
      exact absurd hok h.shortOptions_ne_ok
    · rw [h.1] at hok
      dsimp only at hok
      rw [if_pos hawaits] at hok
      cases hok
      rfl

/-! ## One argument after the other -/

theorem readOperand_ne_ok (hoperand : g.operand = none) : g.readOperand s arg ≠ .ok s' := by
  rw [Grammar.readOperand, hoperand]
  intro hok
  cases hok

theorem foldlM_readOperand_ne_ok (hoperand : g.operand = none) (hargs : args ≠ []) :
    args.foldlM g.readOperand s ≠ .ok s' := by
  cases args with
  | nil => exact absurd rfl hargs
  | cons arg args =>
    intro hok
    rw [List.foldlM_cons, bind_eq_ok_iff] at hok
    obtain ⟨_, hread, -⟩ := hok
    exact readOperand_ne_ok hoperand hread

/-- Behind `--` there are operands only. -/
theorem readArguments_end_ne_ok (hoperand : g.operand = none) (hrest : rest ≠ []) :
    g.readArguments s ("--" :: rest) ≠ .ok s' := by
  intro h
  rw [Grammar.readArguments, if_pos rfl, bind_eq_ok_iff] at h
  obtain ⟨_, hfold, -⟩ := h
  exact foldlM_readOperand_ne_ok hoperand hrest hfold

theorem readArguments_cons (harg : arg ≠ "--") :
    g.readArguments s (arg :: rest) = .ok s' ↔
      ∃ t, g.readArgument s arg = .ok t ∧ g.readArguments t rest = .ok s' := by
  rw [Grammar.readArguments, if_neg harg, bind_eq_ok_iff]

/-- Without operands the arguments in front leave a state in which the others are read. -/
theorem readArguments_append (hoperand : g.operand = none) (hrest : rest ≠ [])
    (h : g.readArguments s (args ++ rest) = .ok s') :
    ∃ t, g.readArguments t rest = .ok s' := by
  induction args generalizing s with
  | nil => exact ⟨s, h⟩
  | cons arg args ih =>
    by_cases harg : arg = "--"
    · subst harg
      exact absurd h (readArguments_end_ne_ok hoperand (by simp [hrest]))
    · rw [List.cons_append, readArguments_cons harg] at h
      obtain ⟨t, -, ht⟩ := h
      exact ih ht

theorem read_eq_ok {slots slots' : σ} (h : g.read slots args = .ok slots') :
    ∃ t, g.readArguments ⟨slots, none, false, false⟩ args = .ok t ∧ t.slots = slots' := by
  unfold Grammar.read at h
  cases hargs : g.readArguments ⟨slots, none, false, false⟩ args with
  | error r =>
    rw [hargs] at h
    cases h
  | ok t =>
    rw [hargs] at h
    cases h
    exact ⟨t, rfl, rfl⟩

/-! ## What takes effect -/

theorem pending_of_settle (h : s.settle = .ok s') : s'.pending = none := by
  unfold State.settle at h
  split at h
  · rename_i hpending
    cases h
    exact hpending
  · rw [bind_eq_ok_iff] at h
    obtain ⟨_, -, h⟩ := h
    cases h
    rfl

theorem settle_of_pending (hpending : s.pending = none) : s.settle = .ok s := by
  rw [State.settle, hpending]

/-- A value that takes effect has been put into its slot. -/
theorem slot_apply {α : Type} {long text : String} {short : Option Char} {get : σ → Option α}
    {put : σ → α → σ} {value : String → Except Refusal α} {slots slots' : σ}
    (h : (Opt.slot long short get put value).apply slots (some text) = .ok slots') :
    ∃ a, value text = .ok a ∧ slots' = put slots a := by
  rw [Opt.apply, if_neg (by simp)] at h
  split at h
  · cases h
  · change (value text >>= _) = _ at h
    rw [bind_eq_ok_iff] at h
    obtain ⟨a, ha, h⟩ := h
    cases h
    exact ⟨a, ha, rfl⟩

theorem eq_of_pathValue {text path : String} (h : pathValue text = .ok path) : path = text := by
  unfold pathValue at h
  split at h
  · cases h
  · cases h
    rfl

/-- A path as the value of what is pending. -/
theorem settle_path {long text : String} {short : Option Char} {get : σ → Option String}
    {put : σ → String → σ}
    (hpending : s.pending = some (.slot long short get put pathValue, some text))
    (h : s.settle = .ok s') : s'.slots = put s.slots text := by
  rw [State.settle, hpending, bind_eq_ok_iff] at h
  obtain ⟨slots, happly, h⟩ := h
  cases h
  obtain ⟨path, hpath, rfl⟩ := slot_apply happly
  rw [eq_of_pathValue hpath]

/-! ## Options that stop the reading -/

theorem stop_option_ne_ok {long : String} {short : Char} {refusal : Refusal} :
    s.option (.stop long short refusal) value ≠ .ok s' := by
  intro h
  rw [State.option, if_neg (by simp [Opt.stop]), bind_eq_ok_iff] at h
  obtain ⟨t, -, h⟩ := h
  rw [bind_eq_ok_iff] at h
  obtain ⟨slots, happly, -⟩ := h
  simp [Opt.apply, Opt.stop] at happly

/-- All options of the grammar stop the reading. -/
def Grammar.OnlyStops (g : Grammar σ) : Prop :=
  ∀ o ∈ g.options, ∃ long short refusal, o = .stop long short refusal

namespace Grammar.OnlyStops

theorem option_ne_ok (hg : g.OnlyStops) {p : Opt σ → Bool} (hfind : g.options.find? p = some o) :
    s.option o value ≠ .ok s' := by
  obtain ⟨long, short, refusal, rfl⟩ := hg o (List.mem_of_find?_eq_some hfind)
  exact stop_option_ne_ok

theorem longOption_ne_ok (hg : g.OnlyStops) {name : String} :
    g.longOption s name value ≠ .ok s' := by
  intro h
  unfold Grammar.longOption at h
  split at h
  · cases h
  · rename_i o hfind
    split at h
    · cases h
    · exact hg.option_ne_ok hfind h

theorem shortOptions_ne_ok (hg : g.OnlyStops) {c : Char} {letters : List Char} :
    g.shortOptions s (c :: letters) ≠ .ok s' := by
  intro h
  unfold Grammar.shortOptions at h
  split at h
  · cases h
  · rename_i o hfind
    split at h
    · exact hg.option_ne_ok hfind h
    · rw [bind_eq_ok_iff] at h
      obtain ⟨_, hoption, -⟩ := h
      exact hg.option_ne_ok hfind hoption

/-- An argument that is accepted is the operand. -/
theorem readArgument (hg : g.OnlyStops) (hpending : s.pending = none)
    (h : g.readArgument s arg = .ok s') : g.readOperand s arg = .ok s' := by
  unfold Grammar.readArgument at h
  split at h
  · exact absurd h hg.longOption_ne_ok
  · split at h
    · rename_i letters hletters
      obtain ⟨c, rest, rfl⟩ := shortForm?_eq_some hletters
      exact absurd h hg.shortOptions_ne_ok
    · rwa [hpending] at h

end Grammar.OnlyStops

end CutAndChoose.CommandLine
