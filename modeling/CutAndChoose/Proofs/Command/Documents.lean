import Mathlib
import CutAndChoose.Command.Run
import CutAndChoose.Proofs.Files.Ends
import CutAndChoose.Proofs.Files.Script

/-!
# CutAndChoose.Proofs.Command.Documents

How the reading and the writing of the documents can end when any access to a file may fail.

* `Script.OnlyReads`: a script that changes no file; its answer has a property of the tree, or it is
  a fault of the input, with exit code 2.
* `onlyReads_namesFor`, `onlyReads_readLogFile`, `onlyReads_readOutcome`: the documents that the
  commands read.
* `ends_writeTable_iff`, `ends_writeOutcome_iff`: those that they write.
-/

namespace CutAndChoose

open Script

/-! ## Reading -/

/-- A file at the path has this text. -/
def Directory.Holds (d : Directory) (path text : String) : Prop := d.read path = .ok text.toUTF8

/-- Circuit names come with the program, or from the file at a path. -/
def NamesFrom (d : Directory) : Option String → List String → Prop
  | none, names => names = suiteNames
  | some path, names => ∃ text, d.Holds path text ∧ names = namesOf text

def Script.OnlyReads {α : Type} (s : Script (Except CommandFault α)) (d : Directory)
    (P : α → Prop) : Prop :=
  ∀ answer d', s.Ends d answer d' → d' = d ∧
    match answer with
    | .ok a => P a
    | .error f => f.failure.exitCode = 2

section Reading

variable {d d' : Directory} {path : String}

theorem decodeText_eq_ok_iff {bytes : ByteArray} {text : String} :
    decodeText bytes = .ok text ↔ bytes = text.toUTF8 := by
  constructor
  · intro h
    unfold decodeText at h
    split at h
    · rename_i s hs
      cases h
      unfold String.fromUTF8? at hs
      split at hs
      · cases hs
        rfl
      · cases hs
    · cases h
  · rintro rfl
    rw [decodeText, fromUTF8?_toUTF8]

theorem ends_readText {answer : Except TextFault String} (h : (readText path).Ends d answer d') :
    d' = d ∧ ∀ text, answer = .ok text → d.Holds path text := by
  obtain ⟨read, d₁, hread, hrest⟩ := ends_bind_iff.1 h
  obtain ⟨hanswer, rfl⟩ := ends_readFile_iff.1 hread
  cases read with
  | error f =>
    obtain ⟨rfl, rfl⟩ := ends_done_iff.1 hrest
    refine ⟨rfl, ?_⟩
    intro text htext
    cases htext
  | ok bytes =>
    obtain ⟨rfl, rfl⟩ := ends_done_iff.1 hrest
    refine ⟨rfl, ?_⟩
    intro text htext
    rw [decodeText_eq_ok_iff] at htext
    rcases hanswer with hbytes | ⟨f, hf⟩
    · rw [Directory.Holds, ← hbytes, htext]
    · cases hf

theorem onlyReads_readNames (d : Directory) (path : String) :
    (readNames path).OnlyReads d fun names => ∃ text, d.Holds path text ∧ names = namesOf text := by
  intro answer d' h
  obtain ⟨read, d₁, hread, hrest⟩ := ends_bind_iff.1 h
  obtain ⟨rfl, htext⟩ := ends_readText hread
  cases read with
  | error f =>
    obtain ⟨rfl, rfl⟩ := ends_done_iff.1 hrest
    exact ⟨rfl, rfl⟩
  | ok text =>
    obtain ⟨rfl, rfl⟩ := ends_done_iff.1 hrest
    refine ⟨rfl, ?_⟩
    dsimp only
    cases hempty : (namesOf text).isEmpty with
    | true => rfl
    | false => exact ⟨text, htext text rfl, rfl⟩

theorem onlyReads_namesFor (d : Directory) (source : Option String) :
    (namesFor source).OnlyReads d (NamesFrom d source) := by
  cases source with
  | none =>
    intro answer d' h
    obtain ⟨rfl, rfl⟩ := ends_done_iff.1 h
    exact ⟨rfl, rfl⟩
  | some path => exact onlyReads_readNames d path

theorem onlyReads_readLogFile (d : Directory) (path : String) (names : List String) :
    (readLogFile path names).OnlyReads d fun reading =>
      ∃ text, d.Holds path text ∧ reading = readLog text names := by
  intro answer d' h
  obtain ⟨read, d₁, hread, hrest⟩ := ends_bind_iff.1 h
  obtain ⟨rfl, htext⟩ := ends_readText hread
  cases read with
  | error f =>
    obtain ⟨rfl, rfl⟩ := ends_done_iff.1 hrest
    exact ⟨rfl, rfl⟩
  | ok text =>
    obtain ⟨rfl, rfl⟩ := ends_done_iff.1 hrest
    exact ⟨rfl, text, htext text rfl, rfl⟩

/-- A log that is read to its end without a fault has measurements, any other has a fault. -/
theorem complete_readLog (text : String) (names : List String) :
    (readLog text names).complete = (measurementsOf text names).mapError .log := by
  unfold LogReading.complete measurementsOf
  dsimp only
  cases (readLog text names).fault with
  | none => rfl
  | some f => rfl

theorem onlyReads_readOutcome (d : Directory) (path : String) :
    (readOutcome path).OnlyReads d fun _ => True := by
  intro answer d' h
  obtain ⟨read, d₁, hread, hrest⟩ := ends_bind_iff.1 h
  obtain ⟨-, rfl⟩ := ends_readFile_iff.1 hread
  split at hrest
  · obtain ⟨rfl, rfl⟩ := ends_done_iff.1 hrest
    exact ⟨rfl, rfl⟩
  · obtain ⟨rfl, rfl⟩ := ends_done_iff.1 hrest
    exact ⟨rfl, rfl⟩
  · rename_i bytes
    obtain ⟨rfl, rfl⟩ := ends_done_iff.1 hrest
    refine ⟨rfl, ?_⟩
    cases Outcome.ofJson bytes with
    | error f => rfl
    | ok o => trivial

end Reading

/-! ## Writing -/

section Writing

variable {ε : Type} {d d' : Directory} {path : String} {bytes : ByteArray}

theorem Script.ends_writeOr_iff {fault : FileFault → ε} {answer : Except ε Unit} :
    (writeOr path bytes fault).Ends d answer d' ↔
      ∃ written, WriteEnds d path bytes written d' ∧ answer = written.mapError fault := by
  unfold writeOr
  simp only [ends_bind_iff, ends_writeFile_iff, ends_done_iff]
  constructor
  · rintro ⟨written, _, hwrite, rfl, rfl⟩
    exact ⟨written, hwrite, rfl⟩
  · rintro ⟨written, hwrite, rfl⟩
    exact ⟨written, d', hwrite, rfl, rfl⟩

variable {answer : Except CommandFault Unit}

theorem ends_writeTable_iff {rows : List Measurement} :
    (writeTable path rows).Ends d answer d' ↔
      ∃ written, WriteEnds d path (tableText rows).toUTF8 written d' ∧
        answer = written.mapError (.tableNotCreated path) :=
  ends_writeOr_iff

theorem ends_writeOutcome_iff {o : Outcome} :
    (writeOutcome path o).Ends d answer d' ↔
      ∃ written, WriteEnds d path o.json.toUTF8 written d' ∧
        answer = written.mapError (.outcomeNotCreated path) :=
  ends_writeOr_iff

end Writing

end CutAndChoose
