import Mathlib
import CutAndChoose.Proofs.CommandLine.Command
import CutAndChoose.Proofs.CommandLine.Steady

/-!
# CutAndChoose.Proofs.CommandLine.Export

The same search without `--export-json`. An accepted command line is read once more without this
option, step by step beside the first reading, with the slot of the path emptied.

* `withoutExport`: the arguments without the option and its path.
* `keeps_unexported`: all other options do not look at the path.
* `readArguments_dropExport`: the two readings, by induction on the arguments.
* `read_withoutExport`: what is left of an accepted search is the same search with nothing to export.
-/

namespace CutAndChoose.CommandLine

/-! ## Without the path -/

/-- `path` says whether the next argument is the path of the option in front of it. -/
def dropExport (path : Bool) : List String → List String
  | [] => []
  | arg :: rest =>
    if path then dropExport false rest
    else if arg = "--export-json" then dropExport true rest
    else if arg.startsWith "--export-json=" then dropExport false rest
    else arg :: dropExport false rest

/-- The arguments without `--export-json` and its path. -/
def withoutExport (args : List String) : List String := dropExport false args

def SearchSlots.unexported (s : SearchSlots) : SearchSlots := { s with exportJson := .none }

section Export

variable {s s' t u : State SearchSlots} {arg : String} {args : List String}

theorem slot_keeps {σ α : Type} {long : String} {short : Option Char} {get : σ → Option α}
    {put : σ → α → σ} {read : String → Except Refusal α} {f : σ → σ}
    (hget : ∀ slots, get (f slots) = get slots)
    (hput : ∀ slots a, put (f slots) a = f (put slots a)) :
    (Opt.slot long short get put read).Keeps f := by
  intro slots slots' value h
  unfold Opt.apply at h ⊢
  split at h
  · cases h
  · rename_i hvalue
    split at h
    · cases h
    · rename_i hgiven
      have hgiven' : ¬(get (f slots)).isSome = true := by
        rw [hget]
        exact hgiven
      change (read (value.getD "") >>= _) = _ at h
      rw [bind_eq_ok_iff] at h
      obtain ⟨a, ha, h⟩ := h
      cases h
      rw [if_neg hvalue, ← hput]
      change (if (get (f slots)).isSome = true then _ else read (value.getD "") >>= _) = _
      rw [if_neg hgiven', ha]
      rfl

/-- Options other than the one for the path do not look at the path. -/
theorem keeps_unexported {o : Opt SearchSlots} (h : o ∈ searchGrammar.options)
    (hlong : o.long ≠ "export-json") : o.Keeps SearchSlots.unexported := by
  simp only [searchGrammar, List.mem_cons, List.not_mem_nil, or_false] at h
  rcases h with rfl | rfl | rfl | rfl | rfl | rfl | rfl | rfl | rfl | rfl | rfl
  any_goals exact slot_keeps (fun _ => rfl) (fun _ _ => rfl)
  · intro slots slots' value h
    unfold Opt.apply at h ⊢
    split at h
    · cases h
    · split at h
      · cases h
      · rename_i hvalue hgiven
        cases h
        rw [if_neg hvalue]
        exact if_neg hgiven
  · exact absurd rfl hlong
  · intro slots slots' value h
    simp [helpOption, Opt.apply, Opt.stop] at h

theorem longForm?_export {name : List Char} {value : Option (List Char)}
    (h : longForm? arg.toList = some (name, value)) (hname : String.ofList name = "export-json") :
    arg = "--export-json" ∨ arg.startsWith "--export-json=" = true := by
  have hname : name = "export-json".toList := by rw [← hname, String.toList_ofList]
  unfold longForm? at h
  split at h
  · rename_i rest harg
    have hrest := @List.takeWhile_append_dropWhile _ (· != '=') rest
    split at h
    · rename_i hdrop
      cases h
      left
      rw [← String.toList_inj, harg, hname]
      rfl
    · rename_i c tail hdrop
      cases h
      have hc : c = '=' := by
        have hhead := List.head?_dropWhile_not (· != '=') rest
        rw [hdrop] at hhead
        simpa using hhead
      right
      rw [hname, hdrop, hc] at hrest
      rw [String.startsWith_string_iff, harg, ← hrest]
      exact ⟨tail, rfl⟩
  · cases h

theorem longForm?_attached {path : List Char}
    (h : arg.toList = "--export-json=".toList ++ path) :
    longForm? arg.toList = some ("export-json".toList, some path) := by
  rw [h]
  rfl

/-- The option waits for its path. -/
def State.AwaitsPath (s t : State SearchSlots) : Prop :=
  s = { t with pending := some (exportOption, none), awaitsValue := true } ∧
    t.pending = none ∧ t.awaitsValue = false

theorem readArgument_export_of_steady (hs : s.Steady SearchSlots.unexported)
    (h : searchGrammar.readArgument s "--export-json" = .ok s') :
    ∃ t, s.settle = .ok t ∧ s'.AwaitsPath t := by
  change s.option exportOption none = _ at h
  rw [State.option, if_pos (by decide), State.begin, bind_eq_ok_iff] at h
  obtain ⟨t, hsettle, h⟩ := h
  cases h
  refine ⟨t, hsettle, rfl, pending_of_settle hsettle, ?_⟩
  rw [awaitsValue_of_settle hsettle, hs.awaits_eq_false hsettle]

/-- A path that is attached takes effect at once, and only the path. -/
theorem readArgument_attached {path : List Char}
    (harg : arg.toList = "--export-json=".toList ++ path) (hs : s.Steady SearchSlots.unexported)
    (h : searchGrammar.readArgument s arg = .ok s') :
    ∃ t, s.settle = .ok t ∧ s'.map SearchSlots.unexported = t.map SearchSlots.unexported ∧
      s'.Steady SearchSlots.unexported := by
  unfold Grammar.readArgument at h
  rw [longForm?_attached harg] at h
  change s.option exportOption (some (String.ofList path)) = _ at h
  rw [State.option, if_neg (by simp), bind_eq_ok_iff] at h
  obtain ⟨t, hsettle, h⟩ := h
  rw [bind_eq_ok_iff] at h
  obtain ⟨slots, happly, h⟩ := h
  cases h
  have hawaits : t.awaitsValue = false := by
    rw [awaitsValue_of_settle hsettle, hs.awaits_eq_false hsettle]
  obtain ⟨a, -, rfl⟩ := slot_apply happly
  refine ⟨t, hsettle, ?_, steady_of_settled (pending_of_settle hsettle : t.pending = none) rfl⟩
  unfold State.map
  rw [hawaits]
  rfl

/-- All other arguments are read in the same way when there is no path. -/
theorem readArgument_unexported (hname : arg ≠ "--export-json")
    (hattached : ¬arg.startsWith "--export-json=" = true) (hs : s.Steady SearchSlots.unexported)
    (h : searchGrammar.readArgument s arg = .ok s') :
    searchGrammar.readArgument (s.map SearchSlots.unexported) arg =
        .ok (s'.map SearchSlots.unexported) ∧
      s'.Steady SearchSlots.unexported := by
  refine readArgument_map rfl ?_ ?_ hs h
  · intro name value hform o hfind
    refine keeps_unexported (List.mem_of_find?_eq_some hfind) ?_
    intro hlong
    have hfound : o.long = String.ofList name := by simpa using List.find?_some hfind
    rcases longForm?_export hform (hfound.symm.trans hlong) with hexport | hexport
    · exact hname hexport
    · exact hattached hexport
  · intro c o hfind
    have hmem := List.mem_of_find?_eq_some hfind
    have hfound : o.short = some c := by simpa using List.find?_some hfind
    have hunnamed : ∀ p ∈ searchGrammar.options, p.long = "export-json" → p.short = none := by
      simp [searchGrammar, Opt.slot, helpOption, Opt.stop]
    refine keeps_unexported hmem fun hlong => ?_
    rw [hunnamed o hmem hlong] at hfound
    cases hfound

theorem State.AwaitsPath.lacks (h : s.AwaitsPath t) : s.Lacks exportOption := by
  rw [h.1]
  exact ⟨rfl, rfl⟩

/-- What the argument behind the option does: only the path changes. -/
theorem State.AwaitsPath.readArgument (h : s.AwaitsPath t)
    (hread : searchGrammar.readArgument s arg = .ok s')
    (hrest : searchGrammar.readArguments s' args = .ok u) :
    ∃ v, searchGrammar.readArguments v args = .ok u ∧
      v.map SearchSlots.unexported = t.map SearchSlots.unexported ∧
      v.Steady SearchSlots.unexported := by
  obtain ⟨rfl, hpending, hawaits⟩ := h
  have hlacks : State.Lacks { t with pending := some (exportOption, none), awaitsValue := true }
      exportOption := ⟨rfl, rfl⟩
  have hvalue := readArgument_value hlacks rfl hread
  subst hvalue
  obtain ⟨v, hsettle⟩ := settle_of_readArguments rfl rfl hrest
  rw [readArguments_settled rfl rfl hsettle] at hrest
  refine ⟨v, hrest, ?_, steady_of_settled (pending_of_settle hsettle) ?_⟩
  · change (exportOption.apply t.slots (some arg) >>= _) = _ at hsettle
    rw [bind_eq_ok_iff] at hsettle
    obtain ⟨slots, happly, hv⟩ := hsettle
    cases hv
    obtain ⟨path, -, rfl⟩ := slot_apply happly
    unfold State.map
    rw [hpending, hawaits]
    rfl
  · exact awaitsValue_of_settle hsettle

/-- By induction on the arguments. Either both readings go along with each other, or the first one
waits for the path, and the second one has not seen the option. -/
theorem readArguments_dropExport (h : searchGrammar.readArguments s args = .ok s') :
    (s.Steady SearchSlots.unexported →
      searchGrammar.readArguments (s.map SearchSlots.unexported) (dropExport false args) =
        .ok (s'.map SearchSlots.unexported)) ∧
    ∀ t, s.AwaitsPath t →
      searchGrammar.readArguments (t.map SearchSlots.unexported) (dropExport true args) =
        .ok (s'.map SearchSlots.unexported) := by
  induction args generalizing s with
  | nil =>
    constructor
    · intro hs
      exact settle_map hs h
    · intro t ht
      exact absurd h ht.lacks.settle_ne_ok
  | cons arg rest ih =>
    -- Behind `--` only operands may stand, and a search has none.
    by_cases hend : arg = "--"
    · subst hend
      rw [Grammar.readArguments, if_pos rfl, bind_eq_ok_iff] at h
      obtain ⟨u, hfold, hsettle⟩ := h
      cases rest with
      | nil =>
        cases hfold
        constructor
        · intro hs
          exact settle_map hs hsettle
        · intro t ht
          exact absurd hsettle ht.lacks.settle_ne_ok
      | cons operand rest => exact absurd hfold (foldlM_readOperand_ne_ok rfl (by simp))
    rw [readArguments_cons hend] at h
    obtain ⟨u, hread, hrest⟩ := h
    constructor
    · intro hs
      by_cases hname : arg = "--export-json"
      · subst hname
        obtain ⟨t, hsettle, ht⟩ := readArgument_export_of_steady hs hread
        have hdrop : dropExport false ("--export-json" :: rest) = dropExport true rest := by
          rw [dropExport, if_neg (by simp), if_pos rfl]
        rw [hdrop, readArguments_map_settled rfl hs hsettle]
        exact (ih hrest).2 t ht
      · by_cases hattached : arg.startsWith "--export-json=" = true
        · obtain ⟨path, harg⟩ := String.startsWith_string_iff.1 hattached
          obtain ⟨t, hsettle, hmap, hu⟩ := readArgument_attached harg.symm hs hread
          have hdrop : dropExport false (arg :: rest) = dropExport false rest := by
            rw [dropExport, if_neg (by simp), if_neg hname, if_pos hattached]
          rw [hdrop, readArguments_map_settled rfl hs hsettle, ← hmap]
          exact (ih hrest).1 hu
        · obtain ⟨hmap, hu⟩ := readArgument_unexported hname hattached hs hread
          have hdrop : dropExport false (arg :: rest) = arg :: dropExport false rest := by
            rw [dropExport, if_neg (by simp), if_neg hname, if_neg hattached]
          rw [hdrop, readArguments_cons hend]
          exact ⟨_, hmap, (ih hrest).1 hu⟩
    · intro t ht
      obtain ⟨v, hv, hmap, hsteady⟩ := ht.readArgument hread hrest
      rw [dropExport, if_pos rfl, ← hmap]
      exact (ih hv).1 hsteady

theorem read_dropExport {slots : SearchSlots} (h : searchGrammar.read .none args = .ok slots) :
    searchGrammar.read .none (withoutExport args) = .ok slots.unexported := by
  obtain ⟨s, hargs, rfl⟩ := read_eq_ok h
  have hread := (readArguments_dropExport hargs).1 (steady_of_settled rfl rfl)
  change searchGrammar.readArguments ⟨.none, none, false, false⟩ (withoutExport args) = _ at hread
  rw [Grammar.read, hread]
  rfl

end Export

/-! ## The same search -/

section Search

variable {args rest : List String} {arg : String} {o : SearchOptions} {slots : SearchSlots}

theorem topGrammar_onlyStops : topGrammar.OnlyStops := by
  intro o ho
  rcases List.mem_cons.1 ho with rfl | ho
  · exact ⟨_, _, _, rfl⟩
  · exact ⟨_, _, _, List.mem_singleton.1 ho⟩

/-- In front of a command no argument is accepted, so a search that is accepted names itself. -/
theorem read_eq_search {command : List String} (h : Command.read command = .ok (.search o)) :
    ∃ rest slots, command = "search" :: rest ∧ searchGrammar.read .none rest = .ok slots ∧
      o = slots.options := by
  cases command with
  | nil => cases h
  | cons name rest =>
    rw [Command.read] at h
    cases hnamed : Command.readNamed? name rest with
    | some named =>
      rw [hnamed] at h
      dsimp only at h
      subst h
      unfold Command.readNamed? at hnamed
      split at hnamed
      · change some (searchGrammar.read .none rest >>= _) = _ at hnamed
        rw [Option.some.injEq, bind_eq_ok_iff] at hnamed
        obtain ⟨slots, hread, hslots⟩ := hnamed
        cases hslots
        exact ⟨rest, slots, rfl, hread, rfl⟩
      · change some (logGrammar.read .none rest >>= _) = _ at hnamed
        rw [Option.some.injEq, bind_eq_ok_iff] at hnamed
        obtain ⟨slots, -, hslots⟩ := hnamed
        cases hslots
      · change some (showGrammar.read none rest >>= _) = _ at hnamed
        rw [Option.some.injEq, bind_eq_ok_iff] at hnamed
        obtain ⟨slots, -, hslots⟩ := hnamed
        cases slots with
        | none => cases hslots
        | some path => cases hslots
      · cases hnamed
      · cases hnamed
    | none =>
      rw [hnamed] at h
      dsimp only at h
      split at h
      · cases h
      · split at h
        · split at h
          · cases h
          · cases h
        · cases h
        · rename_i hread
          have hread := topGrammar_onlyStops.readArgument rfl hread
          cases hread

/-- The first argument of a search is an option. -/
theorem startsWith_of_read (h : searchGrammar.read .none (arg :: rest) = .ok slots) :
    arg.startsWith "-" = true := by
  obtain ⟨s, hargs, -⟩ := read_eq_ok h
  rw [String.startsWith_string_iff]
  by_cases hend : arg = "--"
  · subst hend
    exact ⟨['-'], rfl⟩
  · rw [readArguments_cons hend] at hargs
    obtain ⟨t, hread, -⟩ := hargs
    unfold Grammar.readArgument at hread
    cases hlong : longForm? arg.toList with
    | some form =>
      unfold longForm? at hlong
      split at hlong
      · rename_i tail harg
        rw [harg]
        exact ⟨'-' :: tail, rfl⟩
      · cases hlong
    | none =>
      rw [hlong] at hread
      cases hshort : shortForm? arg.toList with
      | some letters =>
        unfold shortForm? at hshort
        split at hshort
        · rename_i c tail harg
          rw [harg]
          exact ⟨c :: tail, rfl⟩
        · cases hshort
      | none =>
        rw [hshort] at hread
        cases hread

/-- Nor does a search take a request for the help or the version of the whole program. -/
theorem not_mem_topLevel_of_read (h : searchGrammar.read .none (arg :: rest) = .ok slots) :
    arg ∉ Command.topLevel := by
  intro harg
  obtain ⟨s, hargs, -⟩ := read_eq_ok h
  simp only [Command.topLevel, List.mem_cons, List.not_mem_nil, or_false] at harg
  rcases harg with rfl | rfl | rfl | rfl | rfl
  all_goals
    rw [readArguments_cons (by decide)] at hargs
    obtain ⟨t, hread, -⟩ := hargs
    cases hread

/-- Whatever is a search behind its name is one without the name, too. -/
theorem withDefaultCommand_of_read (h : searchGrammar.read .none args = .ok slots) :
    withDefaultCommand args = "search" :: args := by
  cases args with
  | nil => rfl
  | cons arg rest =>
    rw [withDefaultCommand, if_pos ⟨not_mem_topLevel_of_read h, startsWith_of_read h⟩]

theorem eq_of_withDefaultCommand (h : withDefaultCommand args = "search" :: rest) :
    args = rest ∨ args = "search" :: rest := by
  cases args with
  | nil =>
    cases h
    exact .inl rfl
  | cons arg args =>
    rw [withDefaultCommand] at h
    split at h
    · cases h
      exact .inl rfl
    · exact .inr h

theorem withoutExport_search : withoutExport ("search" :: rest) = "search" :: withoutExport rest := by
  have hattached : "search".startsWith "--export-json=" = false := by simp
  rw [withoutExport, dropExport, if_neg (by simp), if_neg (by simp), hattached]
  rfl

/-- Without the option an accepted search is accepted and the same, but exports nothing. -/
theorem read_withoutExport (h : Command.read (withDefaultCommand args) = .ok (.search o)) :
    Command.read (withDefaultCommand (withoutExport args)) =
      .ok (.search { o with exportJson := none }) := by
  obtain ⟨rest, slots, hargs, hread, rfl⟩ := read_eq_search h
  have hdrop := read_dropExport hread
  have hcommand : Command.read ("search" :: withoutExport rest) =
      .ok (.search { slots.options with exportJson := none }) := by
    change (searchGrammar.read .none (withoutExport rest) >>= _) = _
    rw [hdrop]
    rfl
  rcases eq_of_withDefaultCommand hargs with rfl | rfl
  · rw [withDefaultCommand_of_read hdrop]
    exact hcommand
  · rw [withoutExport_search, withDefaultCommand_named (by simp)]
    exact hcommand

end Search

end CutAndChoose.CommandLine
