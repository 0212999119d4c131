import Mathlib
import CutAndChoose.Files.Script
import CutAndChoose.Proofs.Files.Directory

/-!
# CutAndChoose.Proofs.Files.Ends

How a script can end on a tree where any access may fail: a file may be unreadable, no file can be
created where one is to be written, or the writing breaks off after the file was created. The words
of such a fault are left open.

* `WriteEnds`: what one write can answer and leave behind.
* `Script.Ends`: a result of a script together with the tree that it leaves.
* `Script.ends_bind_iff`: how a script ends that goes on with another one.
* `Script.run_ends`: the run without such faults is one of the ends.
* `Directory.SameBut`: trees that differ at most at the place of one path; no write does more.
-/

namespace CutAndChoose

inductive WriteEnds (d : Directory) (path : String) (bytes : ByteArray) :
    Except FileFault Unit → Directory → Prop where
  | written {d' : Directory} : d.write path bytes = .ok d' → WriteEnds d path bytes (.ok ()) d'
  | notCreated (f : FileFault) : WriteEnds d path bytes (.error f) d
  /-- The file is there, but does not hold what it should. -/
  | brokenOff (f : FileFault) {part : ByteArray} {d' : Directory} :
      d.write path part = .ok d' → WriteEnds d path bytes (.error f) d'

namespace Script

variable {α β : Type}

inductive Ends : Script α → Directory → α → Directory → Prop where
  | done (a : α) (d : Directory) : Ends (.done a) d a d
  | read {path : String} {next : Except FileFault ByteArray → Script α} {d d' : Directory} {a : α} :
      Ends (next (d.read path)) d a d' → Ends (.read path next) d a d'
  | unreadable {path : String} {next : Except FileFault ByteArray → Script α} {d d' : Directory}
      {a : α} (f : FileFault) : Ends (next (.error f)) d a d' → Ends (.read path next) d a d'
  | write {path : String} {bytes : ByteArray} {next : Except FileFault Unit → Script α}
      {answer : Except FileFault Unit} {d d₁ d' : Directory} {a : α} :
      WriteEnds d path bytes answer d₁ → Ends (next answer) d₁ a d' →
      Ends (.write path bytes next) d a d'

variable {s : Script α} {f : α → Script β} {d d' : Directory} {a : α} {b : β} {path : String}
  {bytes : ByteArray}

@[simp] theorem ends_done_iff {a' : α} : (done a).Ends d a' d' ↔ a' = a ∧ d' = d := by
  constructor
  · intro h
    cases h
    exact ⟨rfl, rfl⟩
  · rintro ⟨rfl, rfl⟩
    exact .done _ _

theorem ends_readFile_iff {answer : Except FileFault ByteArray} :
    (readFile path).Ends d answer d' ↔
      (answer = d.read path ∨ ∃ f, answer = .error f) ∧ d' = d := by
  constructor
  · intro h
    cases h with
    | read h =>
      obtain ⟨rfl, rfl⟩ := ends_done_iff.1 h
      exact ⟨.inl rfl, rfl⟩
    | unreadable f h =>
      obtain ⟨rfl, rfl⟩ := ends_done_iff.1 h
      exact ⟨.inr ⟨f, rfl⟩, rfl⟩
  · rintro ⟨rfl | ⟨f, rfl⟩, rfl⟩
    · exact .read (.done _ _)
    · exact .unreadable f (.done _ _)

theorem ends_writeFile_iff {answer : Except FileFault Unit} :
    (writeFile path bytes).Ends d answer d' ↔ WriteEnds d path bytes answer d' := by
  constructor
  · intro h
    cases h with
    | write hwrite h =>
      obtain ⟨rfl, rfl⟩ := ends_done_iff.1 h
      exact hwrite
  · intro h
    exact .write h (.done _ _)

/-- A script that goes on with another one ends where the other one does, begun on the tree that the
first one leaves. -/
theorem ends_bind_iff :
    (s.bind f).Ends d b d' ↔ ∃ a d₁, s.Ends d a d₁ ∧ (f a).Ends d₁ b d' := by
  induction s generalizing d with
  | done a =>
    constructor
    · intro h
      exact ⟨a, d, .done a d, h⟩
    · rintro ⟨a', d₁, hdone, h⟩
      obtain ⟨rfl, rfl⟩ := ends_done_iff.1 hdone
      exact h
  | read path next ih =>
    constructor
    · intro h
      cases h with
      | read h =>
        obtain ⟨a, d₁, hfirst, hrest⟩ := (ih _).1 h
        exact ⟨a, d₁, .read hfirst, hrest⟩
      | unreadable fault h =>
        obtain ⟨a, d₁, hfirst, hrest⟩ := (ih _).1 h
        exact ⟨a, d₁, .unreadable fault hfirst, hrest⟩
    · rintro ⟨a, d₁, hfirst, hrest⟩
      cases hfirst with
      | read hfirst => exact .read ((ih _).2 ⟨a, d₁, hfirst, hrest⟩)
      | unreadable fault hfirst => exact .unreadable fault ((ih _).2 ⟨a, d₁, hfirst, hrest⟩)
  | write path bytes next ih =>
    constructor
    · intro h
      cases h with
      | write hwrite h =>
        obtain ⟨a, d₁, hfirst, hrest⟩ := (ih _).1 h
        exact ⟨a, d₁, .write hwrite hfirst, hrest⟩
    · rintro ⟨a, d₁, hfirst, hrest⟩
      cases hfirst with
      | write hwrite hfirst => exact .write hwrite ((ih _).2 ⟨a, d₁, hfirst, hrest⟩)

theorem run_ends (s : Script α) (d : Directory) : s.Ends d (s.run d).1 (s.run d).2 := by
  induction s generalizing d with
  | done a => exact .done a d
  | read path next ih => exact .read (ih _ d)
  | write path bytes next ih =>
    rw [run]
    cases hwrite : d.write path bytes with
    | ok d' => exact .write (.written hwrite) (ih _ d')
    | error fault => exact .write (.notCreated fault) (ih _ d)

end Script

namespace Directory

variable {d d' : Directory} {path : String} {bytes : ByteArray}

/-- Only at the place that a path names may there be something else. -/
def SameBut (path : String) (d d' : Directory) : Prop :=
  ∀ q, d.place path ≠ .ok q → d'.entry? q = d.entry? q

theorem SameBut.refl (path : String) (d : Directory) : SameBut path d d := fun _ _ => rfl

theorem sameBut_write (h : d.write path bytes = .ok d') : SameBut path d d' := by
  intro q hq
  unfold write at h
  split at h
  · cases h
  · rename_i p htarget
    cases h
    have hplace := (target_eq_ok htarget).1
    refine entry?_put_of_ne ?_
    rintro rfl
    exact hq hplace

end Directory

namespace WriteEnds

variable {d d' : Directory} {path : String} {bytes : ByteArray} {answer : Except FileFault Unit}

theorem sameBut (h : WriteEnds d path bytes answer d') : Directory.SameBut path d d' := by
  cases h with
  | written hwrite => exact Directory.sameBut_write hwrite
  | notCreated f => exact .refl path d
  | brokenOff f hwrite => exact Directory.sameBut_write hwrite

theorem read_of_ok (h : WriteEnds d path bytes (.ok ()) d') : d'.read path = .ok bytes := by
  cases h with
  | written hwrite => exact Directory.read_write hwrite

end WriteEnds

end CutAndChoose
