import Mathlib
import CutAndChoose.Command.Program
import CutAndChoose.Proofs.Command.Documents
import CutAndChoose.Proofs.Command.Show
import CutAndChoose.Proofs.CommandLine.Export

/-!
# CutAndChoose.Proofs.Command.Effects

What a run of the program leaves behind, when any access to a file may fail. Nothing else fails:
memory and both output channels are idealized as in `CutAndChoose.Command.Program`.

* `ends_runShow`, `ends_runSearch`, `ends_runParseLog`: how each command can end. All three read
  before they write, and write at most one file.
* `LeavesNoTrace`: the exit code says what was printed and which file may have changed.
* `program_leaves_no_trace`: every run does so, whatever fails on its way.
-/

namespace CutAndChoose

open CommandLine Script

/-! ## The commands -/

/-- The run was refused: nothing is printed. -/
def Run.Refused (r : Run) : Prop := r.exitCode = 2 ∧ r.stdout = ""

/-- The exit code of a run that ends with a write. -/
def exportCode {ε : Type} : Except ε Unit → UInt8
  | .ok () => 0
  | .error _ => 4

/-- The rows of the log, under the names, that a command is to make into a table. -/
def Parsed (d : Directory) (o : LogOptions) (rows : List Measurement) : Prop :=
  ∃ names text, NamesFrom d o.names names ∧ d.Holds o.input text ∧
    measurementsOf text names = .ok rows

section Commands

variable {d d' : Directory} {r : Run}

theorem Run.refused_failed {events : List Trace.Event} {f : CommandFault}
    (h : f.failure.exitCode = 2) : (Run.failed events f).Refused :=
  ⟨h, rfl⟩

theorem ends_runShow {path : String} (h : (runShow path).Ends d r d') :
    d' = d ∧ (r.exitCode = 0 ∨ r.Refused) := by
  obtain ⟨answer, d₁, hread, hrest⟩ := ends_bind_iff.1 h
  obtain ⟨rfl, hanswer⟩ := onlyReads_readOutcome d path answer d₁ hread
  cases answer with
  | error f =>
    obtain ⟨rfl, rfl⟩ := ends_done_iff.1 hrest
    exact ⟨rfl, .inr (Run.refused_failed hanswer)⟩
  | ok outcome =>
    obtain ⟨rfl, rfl⟩ := ends_done_iff.1 hrest
    exact ⟨rfl, .inl rfl⟩

/-- A search prints before it writes, and nothing keeps it from printing. -/
theorem ends_runSearch {o : SearchOptions} {outcome : Outcome}
    (hsearch : search o.config = .ok outcome) (h : (runSearch o).Ends d r d') :
    r.stdout = searchText o outcome ∧
      match o.exportJson with
      | none => r.exitCode = 0 ∧ d' = d
      | some path => ∃ written, WriteEnds d path outcome.json.toUTF8 written d' ∧
          r.exitCode = exportCode written := by
  cases hexport : o.exportJson with
  | none =>
    unfold runSearch at h
    rw [hsearch] at h
    dsimp only at h
    rw [hexport] at h
    obtain ⟨rfl, rfl⟩ := ends_done_iff.1 h
    exact ⟨rfl, rfl, rfl⟩
  | some path =>
    rw [runSearch_saving hsearch hexport] at h
    obtain ⟨answer, d₁, hwrite, hrest⟩ := ends_bind_iff.1 h
    obtain ⟨written, hwritten, rfl⟩ := ends_writeOutcome_iff.1 hwrite
    cases written with
    | error f =>
      obtain ⟨rfl, rfl⟩ := ends_done_iff.1 hrest
      exact ⟨rfl, _, hwritten, rfl⟩
    | ok u =>
      obtain ⟨rfl, rfl⟩ := ends_done_iff.1 hrest
      exact ⟨rfl, _, hwritten, rfl⟩

theorem ends_runSearch_error {o : SearchOptions} {f : SearchFault}
    (hsearch : search o.config = .error f) (h : (runSearch o).Ends d r d') :
    r = .failed [] (.search f) ∧ d' = d := by
  unfold runSearch at h
  rw [hsearch] at h
  exact ends_done_iff.1 h

/-- A table is only begun once there are rows for all of it. -/
theorem ends_runParseLog {o : LogOptions} (h : (runParseLog o).Ends d r d') :
    (r.Refused ∧ d' = d) ∨ ∃ rows written, Parsed d o rows ∧
      WriteEnds d o.output (tableText rows).toUTF8 written d' ∧ r.exitCode = exportCode written ∧
      (r.exitCode = 4 → r.stdout = "") := by
  obtain ⟨answer, d₁, hnames, hrest⟩ := ends_bind_iff.1 h
  obtain ⟨rfl, hanswer⟩ := onlyReads_namesFor d o.names answer d₁ hnames
  cases answer with
  | error f =>
    obtain ⟨rfl, rfl⟩ := ends_done_iff.1 hrest
    exact .inl ⟨Run.refused_failed hanswer, rfl⟩
  | ok names =>
    obtain ⟨answer', d₂, hlog, hrest⟩ := ends_bind_iff.1 hrest
    obtain ⟨rfl, hanswer'⟩ := onlyReads_readLogFile _ o.input names answer' d₂ hlog
    cases answer' with
    | error f =>
      obtain ⟨rfl, rfl⟩ := ends_done_iff.1 hrest
      exact .inl ⟨Run.refused_failed hanswer', rfl⟩
    | ok reading =>
      obtain ⟨text, htext, rfl⟩ := hanswer'
      dsimp only at hrest
      rw [complete_readLog] at hrest
      cases hrows : measurementsOf text names with
      | error f =>
        rw [hrows] at hrest
        obtain ⟨rfl, rfl⟩ := ends_done_iff.1 hrest
        exact .inl ⟨Run.refused_failed rfl, rfl⟩
      | ok rows =>
        rw [hrows] at hrest
        obtain ⟨written, d₃, hwrite, hrest⟩ := ends_bind_iff.1 hrest
        obtain ⟨written, hwritten, rfl⟩ := ends_writeTable_iff.1 hwrite
        refine .inr ⟨rows, written, ⟨names, text, hanswer, htext, hrows⟩, ?_⟩
        cases written with
        | error f =>
          obtain ⟨rfl, rfl⟩ := ends_done_iff.1 hrest
          exact ⟨hwritten, rfl, fun _ => rfl⟩
        | ok u =>
          obtain ⟨rfl, rfl⟩ := ends_done_iff.1 hrest
          refine ⟨hwritten, rfl, ?_⟩
          intro hcode
          cases hcode

end Commands

/-! ## The program -/

/-- The arguments ask for a search that aborts at an arithmetic overflow. -/
def Overflows (args : List String) : Prop :=
  ∃ o pair, Command.read (withDefaultCommand args) = .ok (.search o) ∧
    search o.config = .error (.overflow pair)

/-- What a run of the program on the tree `d` may do, ending with `exit` on the tree `d'`. -/
structure LeavesNoTrace (args : List String) (d : Directory) (exit : Exit) (d' : Directory) :
    Prop where
  code : exit.code = 0 ∨ exit.code = 2 ∨ exit.code = 4
  /-- A refusal prints nothing and changes nothing. -/
  refused : exit.code = 2 → exit.stdout = "" ∧ d' = d
  /-- Code 4 means that the one file to be written could not be created or written. No other file
  changes. A log has printed nothing then; a search has printed what it prints without the file. -/
  unwritten : exit.code = 4 →
    (∃ o rows f, Command.read (withDefaultCommand args) = .ok (.parseLog o) ∧ Parsed d o rows ∧
      WriteEnds d o.output (tableText rows).toUTF8 (.error f) d' ∧
      Directory.SameBut o.output d d' ∧ exit.stdout = "") ∨
    ∃ o path outcome f, Command.read (withDefaultCommand args) = .ok (.search o) ∧
      o.exportJson = some path ∧ search o.config = .ok outcome ∧
      WriteEnds d path outcome.json.toUTF8 (.error f) d' ∧ Directory.SameBut path d d' ∧
      ∀ log e exit' e', (program (withoutExport args) log).Ends e exit' e' →
        exit'.code = 0 ∧ exit'.stdout = exit.stdout
  /-- A log that is parsed changes only the table, which has the rows of the log as it was. -/
  parsed : ∀ o, Command.read (withDefaultCommand args) = .ok (.parseLog o) → exit.code = 0 →
    Directory.SameBut o.output d d' ∧ ∃ rows, Parsed d o rows ∧ d'.Holds o.output (tableText rows)
  /-- A search that ends well changes only the file that it was asked for. -/
  searched : ∀ o, Command.read (withDefaultCommand args) = .ok (.search o) → exit.code = 0 →
    match o.exportJson with
    | none => d' = d
    | some path => Directory.SameBut path d d'
  shown : ∀ path, Command.read (withDefaultCommand args) = .ok (.show path) → d' = d
  /-- Help, version and misuse change nothing. -/
  answered : ∀ refusal, Command.read (withDefaultCommand args) = .error refusal → d' = d

section Program

variable {args : List String} {log : Option String} {d d' : Directory} {exit : Exit}

theorem ends_program (h : (program args log).Ends d exit d') :
    (∃ refusal, Command.read (withDefaultCommand args) = .error refusal ∧ exit = refusal.exit ∧
      d' = d) ∨
    ∃ command r, Command.read (withDefaultCommand args) = .ok command ∧ command.run.Ends d r d' ∧
      exit.code = r.exitCode ∧ exit.stdout = r.stdout := by
  unfold program at h
  cases hread : Command.read (withDefaultCommand args) with
  | error refusal =>
    left
    have hinvoke : invoke args log = .error refusal := by
      rw [invoke, hread]
      rfl
    rw [hinvoke] at h
    obtain ⟨rfl, rfl⟩ := ends_done_iff.1 h
    exact ⟨refusal, rfl, rfl, rfl⟩
  | ok command =>
    right
    rw [invoke_eq_ok_iff.2 ⟨command, hread, rfl⟩] at h
    obtain ⟨r, d₁, hrun, hrest⟩ := ends_bind_iff.1 h
    obtain ⟨rfl, rfl⟩ := ends_done_iff.1 hrest
    exact ⟨command, r, rfl, hrun, rfl, rfl⟩

theorem exportCode_eq_zero {written : Except FileFault Unit} (h : exportCode written = 0) :
    written = .ok () := by
  cases written with
  | ok u => rfl
  | error f => cases h

theorem exportCode_eq_four {written : Except FileFault Unit} (h : exportCode written = 4) :
    ∃ f, written = .error f := by
  cases written with
  | ok u => cases h
  | error f => exact ⟨f, rfl⟩

theorem exportCode_ne_two (written : Except FileFault Unit) : exportCode written ≠ 2 := by
  cases written with
  | ok u => simp [exportCode]
  | error f => simp [exportCode]

theorem exportCode_cases (written : Except FileFault Unit) :
    exportCode written = 0 ∨ exportCode written = 2 ∨ exportCode written = 4 := by
  cases written with
  | ok u => simp [exportCode]
  | error f => simp [exportCode]

theorem leavesNoTrace_of_refused (hcode : exit.code = 2) (hstdout : exit.stdout = "") :
    LeavesNoTrace args d exit d where
  code := .inr (.inl hcode)
  refused := fun _ => ⟨hstdout, rfl⟩
  unwritten := by simp [hcode]
  parsed := by simp [hcode]
  searched := by simp [hcode]
  shown := fun _ _ => rfl
  answered := fun _ _ => rfl

/-- The arguments mean no command. -/
theorem leavesNoTrace_of_refusal {refusal : Refusal}
    (hread : Command.read (withDefaultCommand args) = .error refusal) :
    LeavesNoTrace args d refusal.exit d where
  code := by cases refusal <;> simp [Refusal.exit, Refusal.exitCode]
  refused := by cases refusal <;> simp [Refusal.exit, Refusal.exitCode]
  unwritten := by cases refusal <;> simp [Refusal.exit, Refusal.exitCode]
  parsed := by simp [hread]
  searched := by simp [hread]
  shown := fun _ _ => rfl
  answered := fun _ _ => rfl

theorem leavesNoTrace_of_show {path : String} {r : Run}
    (hread : Command.read (withDefaultCommand args) = .ok (.show path))
    (hrun : (runShow path).Ends d r d') (hcode : exit.code = r.exitCode)
    (hstdout : exit.stdout = r.stdout) : LeavesNoTrace args d exit d' := by
  obtain ⟨rfl, hzero | hrefused⟩ := ends_runShow hrun
  · rw [hzero] at hcode
    exact {
      code := .inl hcode
      refused := by simp [hcode]
      unwritten := by simp [hcode]
      parsed := by simp [hread]
      searched := by simp [hread]
      shown := fun _ _ => rfl
      answered := fun _ _ => rfl }
  · exact leavesNoTrace_of_refused (hcode.trans hrefused.1) (hstdout.trans hrefused.2)

theorem leavesNoTrace_of_parseLog {o : LogOptions} {r : Run}
    (hread : Command.read (withDefaultCommand args) = .ok (.parseLog o))
    (hrun : (runParseLog o).Ends d r d') (hcode : exit.code = r.exitCode)
    (hstdout : exit.stdout = r.stdout) : LeavesNoTrace args d exit d' := by
  rcases ends_runParseLog hrun with ⟨hrefused, rfl⟩ | ⟨rows, written, hrows, hwrite, hexit, hquiet⟩
  · exact leavesNoTrace_of_refused (hcode.trans hrefused.1) (hstdout.trans hrefused.2)
  · have hwritten : exit.code = exportCode written := hcode.trans hexit
    exact {
      code := by
        rw [hwritten]
        exact exportCode_cases written
      refused := by
        intro htwo
        exact absurd (hwritten.symm.trans htwo) (exportCode_ne_two written)
      unwritten := by
        intro hfour
        obtain ⟨f, rfl⟩ := exportCode_eq_four (hwritten.symm.trans hfour)
        exact .inl ⟨o, rows, f, hread, hrows, hwrite, hwrite.sameBut,
          hstdout.trans (hquiet (hcode.symm.trans hfour))⟩
      parsed := by
        intro o' ho' hzero
        rw [hread] at ho'
        cases ho'
        cases exportCode_eq_zero (hwritten.symm.trans hzero)
        exact ⟨hwrite.sameBut, rows, hrows, hwrite.read_of_ok⟩
      searched := by simp [hread]
      shown := by simp [hread]
      answered := by simp [hread] }

/-- Without the file the search runs through, and prints the same. -/
theorem prints_withoutExport {o : SearchOptions} {outcome : Outcome}
    (hread : Command.read (withDefaultCommand args) = .ok (.search o))
    (hsearch : search o.config = .ok outcome)
    (h : (program (withoutExport args) log).Ends d exit d') :
    exit.code = 0 ∧ exit.stdout = searchText o outcome := by
  have hplain := read_withoutExport hread
  rcases ends_program h with ⟨refusal, hrefusal, -⟩ | ⟨command, r, hcommand, hrun, hcode, hstdout⟩
  · rw [hplain] at hrefusal
    cases hrefusal
  · rw [hplain] at hcommand
    cases hcommand
    have hsame : search (SearchOptions.config { o with exportJson := none }) = .ok outcome :=
      hsearch
    obtain ⟨htext, hzero, -⟩ := ends_runSearch hsame hrun
    exact ⟨hcode.trans hzero, hstdout.trans htext⟩

theorem leavesNoTrace_of_search {o : SearchOptions} {outcome : Outcome} {r : Run}
    (hread : Command.read (withDefaultCommand args) = .ok (.search o))
    (hsearch : search o.config = .ok outcome) (hrun : (runSearch o).Ends d r d')
    (hcode : exit.code = r.exitCode) (hstdout : exit.stdout = r.stdout) :
    LeavesNoTrace args d exit d' := by
  obtain ⟨htext, hexport⟩ := ends_runSearch hsearch hrun
  cases hpath : o.exportJson with
  | none =>
    rw [hpath] at hexport
    obtain ⟨hzero, rfl⟩ := hexport
    rw [hzero] at hcode
    exact {
      code := .inl hcode
      refused := by simp [hcode]
      unwritten := by simp [hcode]
      parsed := by simp [hread]
      searched := by
        intro o' ho' _
        rw [hread] at ho'
        cases ho'
        rw [hpath]
      shown := fun _ _ => rfl
      answered := fun _ _ => rfl }
  | some path =>
    rw [hpath] at hexport
    obtain ⟨written, hwrite, hexit⟩ := hexport
    have hwritten : exit.code = exportCode written := hcode.trans hexit
    exact {
      code := by
        rw [hwritten]
        exact exportCode_cases written
      refused := by
        intro htwo
        exact absurd (hwritten.symm.trans htwo) (exportCode_ne_two written)
      unwritten := by
        intro hfour
        obtain ⟨f, rfl⟩ := exportCode_eq_four (hwritten.symm.trans hfour)
        refine .inr ⟨o, path, outcome, f, hread, hpath, hsearch, hwrite, hwrite.sameBut, ?_⟩
        intro log e exit' e' h
        rw [hstdout, htext]
        exact prints_withoutExport hread hsearch h
      parsed := by simp [hread]
      searched := by
        intro o' ho' _
        rw [hread] at ho'
        cases ho'
        rw [hpath]
        exact hwrite.sameBut
      shown := by simp [hread]
      answered := by simp [hread] }

theorem program_leaves_no_trace (h : (program args log).Ends d exit d')
    (hoverflow : ¬Overflows args) : LeavesNoTrace args d exit d' := by
  rcases ends_program h with ⟨refusal, hread, rfl, rfl⟩ | ⟨command, r, hread, hrun, hcode, hstdout⟩
  · exact leavesNoTrace_of_refusal hread
  · cases command with
    | search o =>
      cases hsearch : search o.config with
      | ok outcome => exact leavesNoTrace_of_search hread hsearch hrun hcode hstdout
      | error f =>
        obtain ⟨rfl, rfl⟩ := ends_runSearch_error hsearch hrun
        cases f with
        | overflow pair => exact absurd ⟨o, pair, hread, hsearch⟩ hoverflow
        | config f => exact leavesNoTrace_of_refused hcode hstdout
    | parseLog o => exact leavesNoTrace_of_parseLog hread hrun hcode hstdout
    | «show» path => exact leavesNoTrace_of_show hread hrun hcode hstdout

end Program

/-- A saved search whose path is the current directory, where no file can be. -/
def unwritableArgs : List String :=
  ["--parties", "64", "--export-json", ".", "--security-bits=40", "--verbose"]

def unwritableOptions : SearchOptions := { savedOptions with exportJson := some "." }

theorem program_leaves_no_trace_unwritable :
    ∃ exit, (program unwritableArgs none).Ends .empty exit .empty ∧ ¬Overflows unwritableArgs ∧
      exit.code = 4 ∧ LeavesNoTrace unwritableArgs .empty exit .empty := by
  have hread : Command.read (withDefaultCommand unwritableArgs) = .ok (.search unwritableOptions) := by
    rw [unwritableArgs, withDefaultCommand, if_pos (by simp [Command.topLevel])]
    rfl
  have hsearch : search unwritableOptions.config = .ok savedOptions.config.outcome :=
    search_savedOptions
  have hoverflow : ¬Overflows unwritableArgs := by
    rintro ⟨o, pair, ho, hfault⟩
    rw [hread] at ho
    cases ho
    rw [hsearch] at hfault
    cases hfault
  obtain ⟨r, hrun, hcode⟩ : ∃ r, (runSearch unwritableOptions).Ends .empty r .empty ∧
      r.exitCode = 4 := by
    have htarget : Directory.empty.target "." = .error .isDirectory := by cbv
    have hrun := run_runSearch hsearch (rfl : unwritableOptions.exportJson = some ".") .empty
    rw [run_writeOutcome, Directory.write, htarget] at hrun
    have hends := (runSearch unwritableOptions).run_ends .empty
    rw [hrun] at hends
    exact ⟨_, hends, rfl⟩
  have hends : (program unwritableArgs none).Ends .empty (r.exit (Trace.filterOf none)) .empty := by
    rw [program, invoke_eq_ok_iff.2 ⟨_, hread, rfl⟩]
    exact ends_bind_iff.2 ⟨r, .empty, hrun, .done _ _⟩
  exact ⟨_, hends, hoverflow, hcode, program_leaves_no_trace hends hoverflow⟩

end CutAndChoose
