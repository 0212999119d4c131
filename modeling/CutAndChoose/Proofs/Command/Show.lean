import Mathlib
import CutAndChoose.Command.Run
import CutAndChoose.Proofs.CommandLine.Command
import CutAndChoose.Proofs.Search.Outcome
import CutAndChoose.Proofs.Search.OutcomeFile

/-!
# CutAndChoose.Proofs.Command.Show

A saved search is shown as it was printed. All floats of a search are finite, so its outcome comes
back from the file, and both commands put the same parts together.
-/

namespace CutAndChoose

open CommandLine

/-! ## A search that saves its outcome -/

/-- The target and all errors of a search are finite, so that JSON can write them. -/
theorem isFinite_of_search {c : Config} {o : Outcome} (h : search c = .ok o) :
    o.isFinite = true := by
  obtain ⟨hcheck, -, rfl⟩ := search_eq_ok_iff.1 h
  rw [Outcome.isFinite_iff]
  constructor
  · obtain ⟨t, ht, -⟩ := hcheck.target
    show c.target.isFinite = true
    rw [ht]
    rfl
  · intro e he
    obtain ⟨p, -, rfl⟩ := mem_evaluations.1 he
    obtain ⟨b, hb, -⟩ := @worstError_spec p.m.toNat p.tau.toNat _ hcheck.parties_ne_zero
    show (worstError p.m.toNat p.tau.toNat c.parties.toNat).isFinite = true
    rw [hb]
    rfl

theorem CommandFault.exitCode_ne_zero (f : CommandFault) : f.failure.exitCode ≠ 0 := by
  cases f with
  | search f =>
    cases f with
    | config f => simp [failure, SearchFault.failure, Config.Fault.failure, Failure.input]
    | overflow p => simp [failure, SearchFault.failure]
  | log f => simp [failure, LogFault.failure, Failure.input]
  | namesUnreadable path f => simp [failure, Failure.input]
  | namesEmpty path => simp [failure, Failure.input]
  | logUnreadable path f => simp [failure, Failure.input]
  | outcomeNotOpened path f => simp [failure, Failure.input]
  | outcomeUnreadable f => simp [failure, Failure.input]
  | outcomeInvalid f => simp [failure, Failure.input]
  | tableNotCreated path f => simp [failure, Failure.output]
  | outcomeNotCreated path f => simp [failure, Failure.output]

theorem Run.fault_eq_none {r : Run} (h : r.exitCode = 0) : r.fault = none := by
  cases hfault : r.fault with
  | none => rfl
  | some f =>
    rw [Run.exitCode, hfault] at h
    exact absurd h f.exitCode_ne_zero

/-- What a search prints. -/
def searchText (o : SearchOptions) (outcome : Outcome) : String :=
  resultText outcome.best ++ "\n" ++ (if o.verbose then "\n" ++ outcome.text else "")

section Search

variable {o : SearchOptions} {outcome : Outcome} {path : String} {d d' : Directory} {r : Run}

/-- Behind a search that saves its outcome nothing is left to do but to write the file. -/
theorem runSearch_saving (hsearch : search o.config = .ok outcome)
    (hexport : o.exportJson = some path) :
    runSearch o = (writeOutcome path outcome).bind fun
      | .error f => .done ⟨searchText o outcome, Trace.searchEvents outcome, some f⟩
      | .ok () =>
        .done ⟨searchText o outcome, Trace.searchEvents outcome ++ [.savedOutcome path], none⟩ := by
  unfold runSearch
  rw [hsearch]
  dsimp only
  rw [hexport]
  rfl

/-- A search that saves its outcome ends as the writing of the file does. -/
theorem run_runSearch (hsearch : search o.config = .ok outcome)
    (hexport : o.exportJson = some path) (d : Directory) :
    (runSearch o).run d =
      match (writeOutcome path outcome).run d with
      | (.error f, after) => (⟨searchText o outcome, Trace.searchEvents outcome, some f⟩, after)
      | (.ok (), after) =>
        (⟨searchText o outcome, Trace.searchEvents outcome ++ [.savedOutcome path], none⟩,
          after) := by
  rw [runSearch_saving hsearch hexport, Script.run_bind]
  cases (writeOutcome path outcome).run d with
  | mk result after =>
    cases result with
    | error f => rfl
    | ok u => rfl

/-- A search that ends well has saved its outcome. -/
theorem runSearch_ok (hexport : o.exportJson = some path) (hrun : (runSearch o).run d = (r, d'))
    (hcode : r.exitCode = 0) :
    ∃ outcome, search o.config = .ok outcome ∧ (writeOutcome path outcome).run d = (.ok (), d') ∧
      r.stdout = searchText o outcome := by
  have hfault := Run.fault_eq_none hcode
  cases hsearch : search o.config with
  | error f =>
    unfold runSearch at hrun
    rw [hsearch] at hrun
    cases hrun
    cases hfault
  | ok outcome =>
    rw [run_runSearch hsearch hexport] at hrun
    refine ⟨outcome, rfl, ?_⟩
    cases hwrite : (writeOutcome path outcome).run d with
    | mk result after =>
      rw [hwrite] at hrun
      cases result with
      | error f =>
        cases hrun
        cases hfault
      | ok u =>
        cases hrun
        exact ⟨rfl, rfl⟩

end Search

/-! ## Showing it again -/

theorem runShow_of_read {path : String} {o : Outcome} {d : Directory}
    (hfile : d.read path = .ok o.json.toUTF8) (hfinite : o.isFinite = true) :
    (runShow path).run d = (⟨resultText o.best ++ "\n\n" ++ o.text, [], none⟩, d) := by
  have hread : Outcome.ofJson o.json.toUTF8 = .ok o := ofJson_eq_ok_iff.2 ⟨hfinite, rfl⟩
  show ((readOutcome path).bind _).run d = _
  rw [Script.run_bind, run_readOutcome hfile, hread]
  rfl

/-- The outcome that a verbose search has saved is shown as the search has printed it. -/
theorem show_of_search {o : SearchOptions} {path : String} {d d' d'' : Directory} {r : Run}
    (hverbose : o.verbose = true) (hexport : o.exportJson = some path)
    (hrun : (runSearch o).run d = (r, d')) (hcode : r.exitCode = 0)
    (hfile : d''.read path = d'.read path) :
    ∃ r', (runShow path).run d'' = (r', d'') ∧ r'.exitCode = 0 ∧ r'.stdout = r.stdout := by
  obtain ⟨outcome, hsearch, hwrite, hstdout⟩ := runSearch_ok hexport hrun hcode
  rw [read_of_writeOutcome hwrite] at hfile
  refine ⟨_, runShow_of_read hfile (isFinite_of_search hsearch), rfl, ?_⟩
  rw [hstdout, searchText, if_pos hverbose]
  -- The search ends its first line and prints the blank one later; showing does both at once.
  have hblank : "\n\n" = "\n" ++ "\n" := rfl
  simp only [hblank, String.append_assoc]

/-! ## Both as invocations -/

theorem invoke_eq_ok_iff {args : List String} {log : Option String} {script : Script Exit} :
    invoke args log = .ok script ↔ ∃ command, Command.read (withDefaultCommand args) = .ok command ∧
      script = command.run.bind fun r => .done (r.exit (Trace.filterOf log)) := by
  unfold invoke
  rw [bind_eq_ok_iff]
  constructor
  · rintro ⟨command, hread, h⟩
    cases h
    exact ⟨command, hread, rfl⟩
  · rintro ⟨command, hread, rfl⟩
    exact ⟨command, hread, rfl⟩

/-- What an invocation leaves is what its command leaves, in the form of a process. -/
theorem invoke_run_eq_ok_iff {args : List String} {log : Option String} {d d' : Directory}
    {exit : Exit} :
    (invoke args log).map (·.run d) = .ok (exit, d') ↔
      ∃ command r, Command.read (withDefaultCommand args) = .ok command ∧
        command.run.run d = (r, d') ∧ exit = r.exit (Trace.filterOf log) := by
  cases hinvoke : invoke args log with
  | error refusal =>
    constructor
    · intro h
      cases h
    · rintro ⟨command, r, hread, -⟩
      rw [invoke_eq_ok_iff.2 ⟨command, hread, rfl⟩] at hinvoke
      cases hinvoke
  | ok script =>
    obtain ⟨command, hread, rfl⟩ := invoke_eq_ok_iff.1 hinvoke
    have hrun : (command.run.bind fun r => .done (r.exit (Trace.filterOf log))).run d =
        ((command.run.run d).1.exit (Trace.filterOf log), (command.run.run d).2) := by
      rw [Script.run_bind]
      rfl
    rw [Except.map, hrun, Except.ok.injEq, Prod.mk.injEq]
    constructor
    · rintro ⟨rfl, rfl⟩
      exact ⟨command, _, hread, rfl, rfl⟩
    · rintro ⟨command', r, hread', hrun', rfl⟩
      rw [hread] at hread'
      cases hread'
      rw [hrun']
      exact ⟨rfl, rfl⟩

/-- After a verbose search that has saved its outcome, showing the file prints what the search has
printed, as long as the file keeps its bytes. -/
theorem show_repeats_search {options : List String} {path : String} {log log' : Option String}
    {d d' d'' : Directory} {exit : Exit}
    (hsearch : (invoke ("search" :: (options ++ ["--verbose", "--export-json", path])) log).map
      (·.run d) = .ok (exit, d'))
    (hcode : exit.code = 0) (hshow : ∃ script, invoke ["show", path] log' = .ok script)
    (hfile : d''.read path = d'.read path) :
    ∃ exit', (invoke ["show", path] log').map (·.run d'') = .ok (exit', d'') ∧
      exit'.code = 0 ∧ exit'.stdout = exit.stdout := by
  obtain ⟨command, r, hread, hrun, rfl⟩ := invoke_run_eq_ok_iff.1 hsearch
  rw [withDefaultCommand_named (by simp)] at hread
  obtain ⟨o, rfl, hverbose, hexport⟩ := read_search_saving hread
  obtain ⟨script, hscript⟩ := hshow
  obtain ⟨command', hread', -⟩ := invoke_eq_ok_iff.1 hscript
  have hcommand := hread'
  rw [withDefaultCommand_named (by simp)] at hcommand
  cases read_show hcommand
  obtain ⟨r', hrun', hcode', hstdout'⟩ := show_of_search hverbose hexport hrun hcode hfile
  exact ⟨_, invoke_run_eq_ok_iff.2 ⟨_, r', hread', hrun', rfl⟩, hcode', hstdout'⟩

/-- The default search with four times the parties, under a target of 40 bits. -/
def savedOptions : SearchOptions := ⟨64, 40, 64, 512, 8, 8, 50, 8, true, some "out"⟩

theorem search_savedOptions : search savedOptions.config = .ok savedOptions.config.outcome := by
  have hcheck : savedOptions.config.check = .ok () := by decide +kernel
  have hsum : ∀ p ∈ savedOptions.config.pairs, p.m.toNat + p.tau.toNat < 2 ^ 32 := by
    decide +kernel
  exact search_eq_ok_iff.2 ⟨Config.check_eq_ok_iff.1 hcheck, hsum, rfl⟩

theorem show_repeats_search_saved :
    ∃ exit d', (invoke ("search" :: (["--parties", "64", "--security-bits=40"] ++
        ["--verbose", "--export-json", "out"])) none).map (·.run .empty) = .ok (exit, d') ∧
      exit.code = 0 ∧ (∃ script, invoke ["show", "out"] (some "off") = .ok script) ∧
      ∃ exit', (invoke ["show", "out"] (some "off")).map (·.run d') = .ok (exit', d') ∧
        exit'.code = 0 ∧ exit'.stdout = exit.stdout := by
  have hread : Command.read (withDefaultCommand ("search" ::
      (["--parties", "64", "--security-bits=40"] ++ ["--verbose", "--export-json", "out"]))) =
        .ok (.search savedOptions) := by
    rw [withDefaultCommand_named (by simp)]
    rfl
  have hread' : Command.read (withDefaultCommand ["show", "out"]) = .ok (.show "out") := by
    rw [withDefaultCommand_named (by simp)]
    rfl
  have htarget : Directory.empty.target "out" = .ok ["out"] := by cbv
  have hwrite : (writeOutcome "out" savedOptions.config.outcome).run .empty = (.ok (),
      Directory.empty.put ["out"] (.file savedOptions.config.outcome.json.toUTF8)) := by
    rw [run_writeOutcome, Directory.write, htarget]
  have hrun := run_runSearch search_savedOptions (rfl : savedOptions.exportJson = some "out") .empty
  rw [hwrite] at hrun
  have hsaved := (@invoke_run_eq_ok_iff _ none _ _ _).2
    ⟨.search savedOptions, _, hread, hrun, rfl⟩
  have hshow := (@invoke_eq_ok_iff _ (some "off") _).2 ⟨_, hread', rfl⟩
  exact ⟨_, _, hsaved, rfl, ⟨_, hshow⟩, show_repeats_search hsaved rfl ⟨_, hshow⟩ rfl⟩

end CutAndChoose
