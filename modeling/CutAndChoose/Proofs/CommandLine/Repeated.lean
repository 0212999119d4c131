import Mathlib
import CutAndChoose.Proofs.CommandLine.Export
import CutAndChoose.Proofs.CommandLine.Setting

/-!
# CutAndChoose.Proofs.CommandLine.Repeated

No option of a search is given twice, whatever else stands among the arguments.

* `Grammar.Keeps`: a property of slots that every option keeps. A step of the reading keeps it
  (`State.Has.readArgument`).
* `keeps_filled`: a slot that is filled stays filled.
* `readArguments_repeated`: by induction on the arguments, two settings of one option are refused.
* `not_search_of_repeated`: so no command line with two of them is a search.
-/

namespace CutAndChoose.CommandLine

/-! ## What every option keeps -/

/-- An option that takes effect on slots with the property leaves slots with the property. -/
def Grammar.Keeps {σ : Type} (g : Grammar σ) (P : σ → Prop) : Prop :=
  ∀ o ∈ g.options, ∀ slots slots' value, P slots → o.apply slots value = .ok slots' → P slots'

/-- The slots have the property, and what is pending is an option of the grammar. -/
structure State.Has {σ : Type} (s : State σ) (g : Grammar σ) (P : σ → Prop) : Prop where
  slots : P s.slots
  pending : ∀ o value, s.pending = some (o, value) → o ∈ g.options

section Keeps

variable {σ : Type} {g : Grammar σ} {P : σ → Prop} {s s' t : State σ} {o : Opt σ} {arg : String}
  {value : Option String}

theorem State.Has.settle (hg : g.Keeps P) (hs : s.Has g P) (h : s.settle = .ok t) : t.Has g P := by
  unfold State.settle at h
  split at h
  · cases h
    exact hs
  · rename_i o value hpending
    rw [bind_eq_ok_iff] at h
    obtain ⟨slots, happly, h⟩ := h
    cases h
    refine ⟨hg o (hs.pending o value hpending) _ _ _ hs.slots happly, ?_⟩
    intro p v hp
    cases hp

theorem State.Has.option (hg : g.Keeps P) (ho : o ∈ g.options) (hs : s.Has g P)
    (h : s.option o value = .ok s') : s'.Has g P := by
  unfold State.option at h
  split at h
  · rw [State.begin, bind_eq_ok_iff] at h
    obtain ⟨t, hsettle, h⟩ := h
    cases h
    refine ⟨(hs.settle hg hsettle).slots, ?_⟩
    intro p v hp
    cases hp
    exact ho
  · rw [bind_eq_ok_iff] at h
    obtain ⟨t, hsettle, h⟩ := h
    rw [bind_eq_ok_iff] at h
    obtain ⟨slots, happly, h⟩ := h
    cases h
    have ht := hs.settle hg hsettle
    exact ⟨hg o ho _ _ _ ht.slots happly, ht.pending⟩

theorem State.Has.longOption {name : String} (hg : g.Keeps P) (hs : s.Has g P)
    (h : g.longOption s name value = .ok s') : s'.Has g P := by
  unfold Grammar.longOption at h
  split at h
  · cases h
  · rename_i o hfind
    split at h
    · cases h
    · exact hs.option hg (List.mem_of_find?_eq_some hfind) h

theorem State.Has.shortOptions {letters : List Char} (hg : g.Keeps P) (hs : s.Has g P)
    (h : g.shortOptions s letters = .ok s') : s'.Has g P := by
  induction letters generalizing s with
  | nil =>
    cases h
    exact hs
  | cons c rest ih =>
    unfold Grammar.shortOptions at h
    split at h
    · cases h
    · rename_i o hfind
      have ho := List.mem_of_find?_eq_some hfind
      split at h
      · exact hs.option hg ho h
      · rw [bind_eq_ok_iff] at h
        obtain ⟨t, hoption, h⟩ := h
        exact ih (hs.option hg ho hoption) h

theorem State.Has.readArgument (hoperand : g.operand = none) (hg : g.Keeps P) (hs : s.Has g P)
    (h : g.readArgument s arg = .ok s') : s'.Has g P := by
  unfold Grammar.readArgument at h
  split at h
  · exact hs.longOption hg h
  · split at h
    · exact hs.shortOptions hg h
    · split at h
      · rename_i o old hpending
        split at h
        · cases h
          refine ⟨hs.slots, ?_⟩
          intro p v hp
          cases hp
          exact hs.pending o old hpending
        · exact absurd h (readOperand_ne_ok hoperand)
      · exact absurd h (readOperand_ne_ok hoperand)

end Keeps

/-! ## Filled slots -/

def SearchSlots.Filled (k : SearchOption) (slots : SearchSlots) : Prop :=
  (slots.held k).isSome = true

section Filled

variable {slots slots' : SearchSlots} {s s' : State SearchSlots} {o : Opt SearchSlots}
  {x y : Setting} {k : SearchOption} {args : List String}

theorem exists_put_of_slot {α : Type} {long : String} {short : Option Char}
    {get : SearchSlots → Option α} {put : SearchSlots → α → SearchSlots}
    {read : String → Except Refusal α} {value : Option String} (setting : α → Setting)
    (hput : ∀ slots a, (setting a).put slots = put slots a)
    (h : (Opt.slot long short get put read).apply slots value = .ok slots') :
    ∃ x : Setting, slots' = x.put slots := by
  cases value with
  | none => cases h
  | some text =>
    obtain ⟨a, -, rfl⟩ := slot_apply h
    exact ⟨setting a, (hput slots a).symm⟩

/-- What an option of a search does to the slots is what a setting does. -/
theorem exists_put_of_apply {value : Option String} (ho : o ∈ searchGrammar.options)
    (h : o.apply slots value = .ok slots') : ∃ x : Setting, slots' = x.put slots := by
  simp only [searchGrammar, List.mem_cons, List.not_mem_nil, or_false] at ho
  rcases ho with rfl | rfl | rfl | rfl | rfl | rfl | rfl | rfl | rfl | rfl | rfl
  · exact exists_put_of_slot .parties (fun _ _ => rfl) h
  · exact exists_put_of_slot .securityBits (fun _ _ => rfl) h
  · exact exists_put_of_slot .mStart (fun _ _ => rfl) h
  · exact exists_put_of_slot .mEnd (fun _ _ => rfl) h
  · exact exists_put_of_slot .mStep (fun _ _ => rfl) h
  · exact exists_put_of_slot .tauStart (fun _ _ => rfl) h
  · exact exists_put_of_slot .tauEnd (fun _ _ => rfl) h
  · exact exists_put_of_slot .tauStep (fun _ _ => rfl) h
  · unfold Opt.apply at h
    split at h
    · cases h
    · split at h
      · cases h
      · cases h
        exact ⟨.verbose, rfl⟩
  · exact exists_put_of_slot .exportJson (fun _ _ => rfl) h
  · simp [helpOption, Opt.apply, Opt.stop] at h

/-- No option empties a slot. -/
theorem keeps_filled (k : SearchOption) : searchGrammar.Keeps (SearchSlots.Filled k) := by
  intro o ho slots slots' value hfilled h
  obtain ⟨x, rfl⟩ := exists_put_of_apply ho h
  unfold SearchSlots.Filled
  rw [held_put]
  by_cases hk : k = x.option
  · rw [hk, Function.update_self]
    rfl
  · rw [Function.update_of_ne hk]
    exact hfilled

/-- A setting that is accepted fills its slot. -/
theorem filled_of_readArgument (hx : x ≠ .exportJson "") (hs : s.Has searchGrammar fun _ => True)
    (h : searchGrammar.readArgument s x.text = .ok s') :
    s'.Has searchGrammar (SearchSlots.Filled x.option) := by
  have hkeeps : searchGrammar.Keeps fun _ => True := fun _ _ _ _ _ _ _ => trivial
  refine ⟨?_, (hs.readArgument rfl hkeeps h).pending⟩
  rw [readArgument_setting hx, bind_eq_ok_iff] at h
  obtain ⟨t, -, h⟩ := h
  unfold Setting.enter at h
  split at h
  · cases h
  · cases h
    show ((x.put t.slots).held x.option).isSome = true
    rw [held_put, Function.update_self]
    rfl

theorem readArgument_ne_ok_of_filled (hx : x ≠ .exportJson "")
    (hs : s.Has searchGrammar (SearchSlots.Filled x.option)) :
    searchGrammar.readArgument s x.text ≠ .ok s' := by
  intro h
  rw [readArgument_setting hx, bind_eq_ok_iff] at h
  obtain ⟨t, hsettle, h⟩ := h
  have hfilled : (t.slots.held x.option).isSome = true :=
    (hs.settle (keeps_filled x.option) hsettle).slots
  rw [Setting.enter, if_pos hfilled] at h
  cases h

end Filled

/-! ## All arguments -/

section Arguments

variable {s s' : State SearchSlots} {x y : Setting} {args : List String}

theorem readArguments_ne_ok_of_filled (hx : x ≠ .exportJson "") (hmem : x.text ∈ args)
    (hs : s.Has searchGrammar (SearchSlots.Filled x.option)) :
    searchGrammar.readArguments s args ≠ .ok s' := by
  induction args generalizing s with
  | nil => cases hmem
  | cons arg rest ih =>
    intro h
    by_cases hend : arg = "--"
    · subst hend
      have hrest : x.text ∈ rest :=
        (List.mem_cons.1 hmem).resolve_left (text_ne x List.mem_cons_self)
      exact readArguments_end_ne_ok rfl (List.ne_nil_of_mem hrest) h
    · rw [readArguments_cons hend] at h
      obtain ⟨t, hread, h⟩ := h
      rcases List.mem_cons.1 hmem with rfl | hmem
      · exact readArgument_ne_ok_of_filled hx hs hread
      · exact ih hmem (hs.readArgument rfl (keeps_filled x.option) hread) h

/-- By induction on the arguments: up to the first of the two settings nothing is known of the
slots, and from there on its slot is filled. -/
theorem readArguments_ne_ok_of_repeated (hx : x ≠ .exportJson "") (hy : y ≠ .exportJson "")
    (hoption : x.option = y.option) (hsub : [x.text, y.text].Sublist args)
    (hs : s.Has searchGrammar fun _ => True) : searchGrammar.readArguments s args ≠ .ok s' := by
  induction args generalizing s with
  | nil => cases hsub
  | cons arg rest ih =>
    intro h
    by_cases hend : arg = "--"
    · subst hend
      have hrest : x.text ∈ rest :=
        (List.mem_cons.1 (hsub.mem List.mem_cons_self)).resolve_left (text_ne x List.mem_cons_self)
      exact readArguments_end_ne_ok rfl (List.ne_nil_of_mem hrest) h
    · rw [readArguments_cons hend] at h
      obtain ⟨t, hread, h⟩ := h
      rcases List.sublist_cons_iff.1 hsub with hsub | ⟨_, hlist, hsub⟩
      · exact ih hsub (hs.readArgument rfl (fun _ _ _ _ _ _ _ => trivial) hread) h
      · cases hlist
        have hfilled := filled_of_readArgument hx hs hread
        rw [hoption] at hfilled
        exact readArguments_ne_ok_of_filled hy (List.singleton_sublist.1 hsub) hfilled h

/-- A command line with two settings of one option is no search, whatever else it says. -/
theorem not_search_of_repeated (hx : x ≠ .exportJson "") (hy : y ≠ .exportJson "")
    (hoption : x.option = y.option) (hsub : [x.text, y.text].Sublist args) (o : SearchOptions) :
    Command.read (withDefaultCommand args) ≠ .ok (.search o) := by
  intro h
  obtain ⟨rest, slots, hargs, hread, -⟩ := read_eq_search h
  obtain ⟨s, hs, -⟩ := read_eq_ok hread
  have hrest : [x.text, y.text].Sublist rest := by
    rcases eq_of_withDefaultCommand hargs with rfl | rfl
    · exact hsub
    · rcases List.sublist_cons_iff.1 hsub with hsub | ⟨_, hlist, -⟩
      · exact hsub
      · exact absurd (startsWith_text x) (by simp [(List.cons.inj hlist).1])
  have hnothing : State.Has ⟨SearchSlots.none, none, false, false⟩ searchGrammar fun _ => True :=
    ⟨trivial, fun _ _ h => by cases h⟩
  exact readArguments_ne_ok_of_repeated hx hy hoption hrest hnothing hs

end Arguments

end CutAndChoose.CommandLine
