import Mathlib
import CutAndChoose.Proofs.CommandLine.Grammar

/-!
# CutAndChoose.Proofs.CommandLine.Command

Command lines that mean one command, if they are accepted at all.

* `read_search_saving`: a search whose last arguments ask for the listing and for a file.
* `read_show`: a single operand behind `show`.
-/

namespace CutAndChoose.CommandLine

/-- A command that is named stays first. -/
theorem withDefaultCommand_named {name : String} (h : name.startsWith "-" = false)
    (args : List String) : withDefaultCommand (name :: args) = name :: args := by
  rw [withDefaultCommand, h, if_neg (by simp)]

/-! ## A verbose search that saves its outcome -/

def verboseOption : Opt SearchSlots :=
  ⟨"verbose", some 'v', false, (·.verbose), fun s _ => .ok { s with verbose := true }⟩

def exportOption : Opt SearchSlots :=
  .slot "export-json" none (·.exportJson) (fun s a => { s with exportJson := some a }) pathValue

section Search

variable {s s' : State SearchSlots} {path : String}

theorem readArgument_verbose (h : searchGrammar.readArgument s "--verbose" = .ok s') :
    s'.slots.verbose = true ∧ s'.pending = none := by
  change s.option verboseOption none = _ at h
  rw [State.option, if_neg (by decide), bind_eq_ok_iff] at h
  obtain ⟨t, hsettle, h⟩ := h
  rw [bind_eq_ok_iff] at h
  obtain ⟨slots, happly, h⟩ := h
  cases h
  refine ⟨?_, (pending_of_settle hsettle : t.pending = none)⟩
  rw [Opt.apply, if_neg (by decide)] at happly
  split at happly
  · cases happly
  · cases happly
    rfl

theorem readArgument_export (hpending : s.pending = none)
    (h : searchGrammar.readArgument s "--export-json" = .ok s') :
    s' = { s with pending := some (exportOption, none), awaitsValue := true } := by
  change s.option exportOption none = _ at h
  rw [State.option, if_pos (by decide), State.begin, settle_of_pending hpending] at h
  cases h
  rfl

theorem readArguments_saving
    (h : searchGrammar.readArguments s ["--verbose", "--export-json", path] = .ok s') :
    s'.slots.verbose = true ∧ s'.slots.exportJson = some path := by
  rw [readArguments_cons (by decide)] at h
  obtain ⟨t, ht, h⟩ := h
  obtain ⟨hverbose, hpending⟩ := readArgument_verbose ht
  rw [readArguments_cons (by decide)] at h
  obtain ⟨u, hu, h⟩ := h
  have hu := readArgument_export hpending hu
  have hlacks : u.Lacks exportOption := by
    rw [hu]
    exact ⟨rfl, rfl⟩
  -- As the path, `--` would end the options and leave the last one without its value.
  by_cases hpath : path = "--"
  · subst hpath
    exact absurd h hlacks.settle_ne_ok
  · rw [readArguments_cons hpath] at h
    obtain ⟨v, hv, h⟩ := h
    have hv := readArgument_value hlacks (by rw [hu]) hv
    have hslots := settle_path (by rw [hv]; rfl) h
    rw [hslots, hv, hu]
    exact ⟨hverbose, rfl⟩

/-- The last arguments of a search that is accepted make it a verbose one that saves its outcome. -/
theorem read_search_saving {options : List String} {command : Command}
    (h : Command.read ("search" :: (options ++ ["--verbose", "--export-json", path])) =
      .ok command) :
    ∃ o, command = .search o ∧ o.verbose = true ∧ o.exportJson = some path := by
  change (searchGrammar.read .none (options ++ ["--verbose", "--export-json", path]) >>= _) = _ at h
  rw [bind_eq_ok_iff] at h
  obtain ⟨slots, hread, h⟩ := h
  cases h
  obtain ⟨s, hargs, rfl⟩ := read_eq_ok hread
  obtain ⟨t, ht⟩ := readArguments_append rfl (by simp) hargs
  obtain ⟨hverbose, hexport⟩ := readArguments_saving ht
  exact ⟨_, rfl, hverbose, hexport⟩

end Search

/-! ## Showing a file -/

section Show

variable {s s' : State (Option String)} {path : String}

theorem showGrammar_onlyStops : showGrammar.OnlyStops := by
  intro o ho
  exact ⟨"help", 'h', .helpAsked, List.mem_singleton.1 ho⟩

theorem readArguments_show
    (h : showGrammar.readArguments ⟨none, none, false, false⟩ [path] = .ok s') :
    s'.slots = none ∨ s'.slots = some path := by
  by_cases hpath : path = "--"
  · subst hpath
    cases h
    exact .inl rfl
  · rw [readArguments_cons hpath] at h
    obtain ⟨t, ht, h⟩ := h
    have ht := showGrammar_onlyStops.readArgument rfl ht
    cases ht
    exact .inr (settle_path rfl h)

/-- A single operand that is accepted is the path. -/
theorem read_show {command : Command} (h : Command.read ["show", path] = .ok command) :
    command = .show path := by
  change (showGrammar.read none [path] >>= _) = _ at h
  rw [bind_eq_ok_iff] at h
  obtain ⟨slots, hread, h⟩ := h
  obtain ⟨s, hargs, rfl⟩ := read_eq_ok hread
  rcases readArguments_show hargs with hslots | hslots
  · rw [hslots] at h
    cases h
  · rw [hslots] at h
    cases h
    rfl

end Show

end CutAndChoose.CommandLine
