import Mathlib
import CutAndChoose.Command.Documents
import CutAndChoose.Proofs.Files.Script
import CutAndChoose.Proofs.Json.Number
import CutAndChoose.Proofs.Json.Record

/-!
# CutAndChoose.Proofs.Search.OutcomeFile

Outcomes in files. Each record is given back by its reader; one with a float that JSON cannot write
is refused, because such a float becomes `null`. So rereading a written outcome gives the same
outcome, or none at all.

* `gives_outcome`, `ofJson_eq_ok_iff`: the text and its bytes.
* `run_writeOutcome`, `run_readOutcome`: the scripts around them.
-/

namespace CutAndChoose

open Json

/-! ## The records of an outcome -/

theorem gives_sweep (depth : ℕ) (s : Sweep) :
    Gives (readRecord sweepShape) (s.layout depth) (some s) :=
  gives_record
    (.slot rfl rfl rfl (gives_word32 s.start) <|
      .slot rfl rfl rfl (gives_word32 s.stop) <|
      .slot rfl rfl rfl (gives_word32 s.step) <| .done _) depth rfl

theorem gives_params (depth : ℕ) (p : Params) :
    Gives (readRecord paramsShape) (p.layout depth) (some p) :=
  gives_record
    (.slot rfl rfl rfl (gives_word32 p.m) <|
      .slot rfl rfl rfl (gives_word32 p.tau) <| .done _) depth rfl

/-- An evaluation whose float can be written. -/
def Evaluation.readable? (e : Evaluation) : Option Evaluation :=
  if e.worstError.isFinite then some e else none

theorem gives_evaluation (depth : ℕ) (e : Evaluation) :
    Gives (readRecord evaluationShape) (e.layout depth) e.readable? := by
  have herror := gives_float e.worstError
  unfold Evaluation.readable?
  cases hfinite : e.worstError.isFinite with
  | true =>
    rw [hfinite] at herror
    exact gives_record
      (.slot rfl rfl rfl (gives_params (depth + 1) e.params) <|
        .slot rfl rfl rfl herror <|
        .slot rfl rfl rfl (gives_bool e.accepted) <| .done _) depth rfl
  | false =>
    rw [hfinite] at herror
    exact gives_no_record
      (.slot rfl rfl rfl (gives_params (depth + 1) e.params) <|
        .slot_refused rfl rfl rfl herror) depth

theorem gives_config (depth : ℕ) (c : Config) :
    Gives (readRecord configShape) (c.layout depth)
      (if c.target.isFinite then some c else none) := by
  have htarget := gives_float c.target
  cases hfinite : c.target.isFinite with
  | true =>
    rw [hfinite] at htarget
    exact gives_record
      (.slot rfl rfl rfl (gives_word32 c.parties) <|
        .slot rfl rfl rfl htarget <|
        .slot rfl rfl rfl (gives_sweep (depth + 1) c.mSweep) <|
        .slot rfl rfl rfl (gives_sweep (depth + 1) c.tauSweep) <| .done _) depth rfl
  | false =>
    rw [hfinite] at htarget
    exact gives_no_record
      (.slot rfl rfl rfl (gives_word32 c.parties) <|
        .slot_refused rfl rfl rfl htarget) depth

theorem mapM_readable? (es : List Evaluation) :
    es.mapM Evaluation.readable? = if es.all (·.worstError.isFinite) then some es else none := by
  induction es with
  | nil => rfl
  | cons e es ih =>
    rw [List.mapM_cons, ih, Evaluation.readable?, List.all_cons]
    cases e.worstError.isFinite with
    | false => rfl
    | true =>
      cases es.all (·.worstError.isFinite) with
      | false => rfl
      | true => rfl

/-- Whether JSON can write all floats of an outcome. -/
def Outcome.isFinite (o : Outcome) : Bool :=
  o.config.target.isFinite && o.evaluations.all (·.worstError.isFinite)

theorem Outcome.isFinite_iff {o : Outcome} :
    o.isFinite = true ↔ o.config.target.isFinite = true ∧
      ∀ e ∈ o.evaluations, e.worstError.isFinite = true := by
  rw [isFinite, Bool.and_eq_true, List.all_eq_true]

theorem gives_evaluations (es : List Evaluation) :
    Gives (readList (readRecord evaluationShape)) (listLayout 1 (es.map (·.layout 2)))
      (if es.all (·.worstError.isFinite) then some es else none) := by
  rw [← mapM_readable?]
  refine gives_list (fun e _ => gives_evaluation 2 e) ?_ 1
  intro text htext
  obtain ⟨e, -, rfl⟩ := List.mem_map.1 htext
  rfl

theorem gives_accepted (ps : List Params) :
    Gives (readList (readRecord paramsShape)) (listLayout 1 (ps.map (·.layout 2))) (some ps) := by
  have hall : ps.mapM some = some ps := by
    induction ps with
    | nil => rfl
    | cons p ps ih =>
      rw [List.mapM_cons, ih]
      rfl
  rw [← hall]
  refine gives_list (fun p _ => gives_params 2 p) ?_ 1
  intro text htext
  obtain ⟨p, -, rfl⟩ := List.mem_map.1 htext
  rfl

theorem gives_outcome (o : Outcome) :
    Gives (readRecord outcomeShape) o.layout (if o.isFinite then some o else none) := by
  have hconfig := gives_config 1 o.config
  have hevaluations := gives_evaluations o.evaluations
  unfold Outcome.isFinite
  cases htarget : o.config.target.isFinite with
  | false =>
    rw [htarget] at hconfig
    exact gives_no_record (.slot_refused rfl rfl rfl hconfig) 0
  | true =>
    rw [htarget] at hconfig
    cases herrors : o.evaluations.all (·.worstError.isFinite) with
    | false =>
      rw [herrors] at hevaluations
      exact gives_no_record
        (.slot rfl rfl rfl hconfig <| .slot_refused rfl rfl rfl hevaluations) 0
    | true =>
      rw [herrors] at hevaluations
      exact gives_record
        (.slot rfl rfl rfl hconfig <|
          .slot rfl rfl rfl hevaluations <|
          .slot rfl rfl rfl (gives_accepted o.accepted) <|
          .slot rfl rfl rfl (gives_params 1 o.best) <| .done _) 0 rfl

/-! ## The file -/

theorem ofJson_eq_ok_iff {o o' : Outcome} :
    Outcome.ofJson o.json.toUTF8 = .ok o' ↔ o.isFinite = true ∧ o' = o := by
  have hread := gives_outcome o [] [] (by simp) Ends.nil
  rw [List.nil_append, List.append_nil] at hread
  rw [Outcome.ofJson, Outcome.json, toUTF8_ofList, readAll, bind_eq_ok_iff]
  constructor
  · rintro ⟨p, hp, hend⟩
    obtain ⟨a, ha, rfl⟩ := (hread p).1 hp
    cases hend
    split at ha
    · rename_i hfinite
      cases ha
      exact ⟨hfinite, rfl⟩
    · cases ha
  · rintro ⟨hfinite, rfl⟩
    rw [if_pos hfinite] at hread
    exact ⟨(o', []), (hread _).2 ⟨o', rfl, rfl⟩, rfl⟩

theorem run_writeOutcome (path : String) (o : Outcome) (d : Directory) :
    (writeOutcome path o).run d =
      match d.write path o.json.toUTF8 with
      | .ok d' => (.ok (), d')
      | .error f => (.error (.outcomeNotCreated path f), d) :=
  Script.run_writeOr path o.json.toUTF8 (CommandFault.outcomeNotCreated path) d

theorem run_readOutcome {path : String} {d : Directory} {bytes : ByteArray}
    (h : d.read path = .ok bytes) :
    (readOutcome path).run d = ((Outcome.ofJson bytes).mapError .outcomeInvalid, d) := by
  show (Script.read path _).run d = _
  rw [Script.run, h]
  rfl

theorem read_of_writeOutcome {path : String} {o : Outcome} {d d' : Directory}
    (h : (writeOutcome path o).run d = (.ok (), d')) : d'.read path = .ok o.json.toUTF8 :=
  Script.read_of_writeOr h

/-- Rereading a written outcome gives the same outcome, and it does so if and only if all its
floats can be written. Otherwise it fails as on any malformed input. -/
theorem outcome_reread {path : String} {o : Outcome} {d d' : Directory}
    (h : (writeOutcome path o).run d = (.ok (), d')) :
    ∃ r, (readOutcome path).run d' = (r, d') ∧
      (r = .ok o ↔ o.config.target.isFinite = true ∧
        ∀ e ∈ o.evaluations, e.worstError.isFinite = true) ∧
      (r = .ok o ∨ ∃ f, r = .error f ∧ f.failure.exitCode = 2) := by
  refine ⟨_, run_readOutcome (read_of_writeOutcome h), ?_, ?_⟩
  · rw [mapError_eq_ok_iff, ofJson_eq_ok_iff, Outcome.isFinite_iff, and_iff_left rfl]
  · cases hread : Outcome.ofJson o.json.toUTF8 with
    | error f => exact .inr ⟨.outcomeInvalid f, rfl, rfl⟩
    | ok o' =>
      obtain ⟨-, rfl⟩ := ofJson_eq_ok_iff.1 hread
      exact .inl rfl

/-- An outcome no search makes: a zero with a sign as target, the least and the greatest float as
errors, more evaluations than pairs. -/
def extremeOutcome : Outcome where
  config := ⟨0, .finite true .zero, ⟨2, 1, 0⟩, ⟨0, 4294967295, 1⟩⟩
  evaluations := [
    ⟨⟨1, 2⟩, .finite true (.ofFields 0 1 (by decide) (by decide)), true⟩,
    ⟨⟨1, 2⟩, .finite false (.ofFields 2046 4503599627370495 (by decide) (by decide)), false⟩]
  accepted := []
  best := ⟨10000, 10000⟩

theorem outcome_reread_extreme :
    ∃ d', (writeOutcome "out" extremeOutcome).run .empty = (.ok (), d') ∧
      (readOutcome "out").run d' = (.ok extremeOutcome, d') := by
  have htarget : Directory.empty.target "out" = .ok ["out"] := by cbv
  have hwrite : (writeOutcome "out" extremeOutcome).run .empty =
      (.ok (), Directory.empty.put ["out"] (.file extremeOutcome.json.toUTF8)) := by
    rw [run_writeOutcome, Directory.write, htarget]
  obtain ⟨r, hread, hsame, -⟩ := outcome_reread hwrite
  have hr : r = .ok extremeOutcome := by
    rw [hsame]
    refine ⟨rfl, ?_⟩
    intro e he
    simp only [extremeOutcome, List.mem_cons, List.not_mem_nil, or_false] at he
    rcases he with rfl | rfl
    · rfl
    · rfl
  exact ⟨_, hwrite, hr ▸ hread⟩

end CutAndChoose
