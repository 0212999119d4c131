import Mathlib
import CutAndChoose.Proofs.Bench.Grammar
import CutAndChoose.Proofs.Text.Lines

/-!
# CutAndChoose.Proofs.Bench.LineEndings

Logs do not depend on how their lines end.

* `textLines_withReturns`: a carriage return in front of every line feed leaves the lines as they
  are.
* `textLines_append_ending`: one more line ending adds no line, or an empty one.
* `log_with_endings`: so the same rows or the same fault come of a log either way. The numbers and
  the quoted lines of faults are those of the lines.
-/

namespace CutAndChoose

/-! ## Texts -/

/-- The text with a carriage return in front of every line feed. -/
def withReturns (text : List Char) : List Char :=
  text.flatMap fun c => if c = '\n' then ['\r', '\n'] else [c]

section Texts

variable {text line rest ending : List Char}

theorem withReturns_of_not_mem (h : '\n' ∉ line) : withReturns line = line := by
  induction line with
  | nil => rfl
  | cons c line ih =>
    have hc : c ≠ '\n' := Ne.symm (List.ne_of_not_mem_cons h)
    have hline := ih (List.not_mem_of_not_mem_cons h)
    rw [withReturns] at hline
    rw [withReturns, List.flatMap_cons, if_neg hc, hline, List.singleton_append]

theorem withReturns_line (h : '\n' ∉ line) :
    withReturns (line ++ '\n' :: rest) = (line ++ ['\r']) ++ '\n' :: withReturns rest := by
  have hline := withReturns_of_not_mem h
  rw [withReturns] at hline
  simp [withReturns, hline]

theorem getLast?_withReturns (text : List Char) : (withReturns text).getLast? = text.getLast? := by
  rcases List.eq_nil_or_concat text with rfl | ⟨front, c, rfl⟩
  · rfl
  · by_cases hc : c = '\n'
    · simp [withReturns, hc]
    · simp [withReturns, hc]

theorem withoutReturn_of_not_mem (h : '\r' ∉ line) : withoutReturn line = line :=
  withoutReturn_of_getLast? fun hlast => h (List.mem_of_getLast? hlast)

theorem textLines_withReturns (h : '\r' ∉ text) : textLines (withReturns text) = textLines text := by
  induction text using text_induction with
  | last line hline => rw [withReturns_of_not_mem hline]
  | line line rest hline ih =>
    obtain ⟨hreturn, hrest⟩ := not_or.1 (mt List.mem_append.2 h)
    have hfeed : '\n' ∉ line ++ ['\r'] := by simp [hline]
    rw [withReturns_line hline, textLines_line hfeed, textLines_line hline,
      withoutReturn_append_return, withoutReturn_of_not_mem hreturn,
      ih (List.not_mem_of_not_mem_cons hrest)]

theorem textLines_ended (hending : ending ∈ lineEndings) (hline : '\n' ∉ line)
    (hreturn : line.getLast? ≠ some '\r') : textLines (line ++ ending) = [line] := by
  have hended := @textLines_ending line [] ending hending hline
  rwa [withoutReturn_of_getLast? hreturn, or_self, List.append_nil] at hended

/-- An ending closes the open line, or makes an empty one where no line is open. -/
theorem textLines_append_ending (hending : ending ∈ lineEndings) (h : text.getLast? ≠ some '\r') :
    textLines (text ++ ending) = textLines text ∨
      textLines (text ++ ending) = textLines text ++ [[]] := by
  induction text using text_induction with
  | last line hline =>
    rw [textLines_ended hending hline h, textLines_last hline]
    split
    · rename_i hnil
      exact .inr (by rw [hnil, List.nil_append])
    · exact .inl rfl
  | line line rest hline ih =>
    rw [List.append_assoc, List.cons_append, textLines_line hline, textLines_line hline]
    rcases ih (mt getLast?_line h) with hsame | hmore
    · exact .inl (by rw [hsame])
    · exact .inr (by rw [hmore, List.cons_append])

end Texts

/-! ## Logs -/

section Logs

variable {names : List String} {s : LogState} {line : List Char} {lines : List (List Char)} {k : ℕ}

/-- By induction on the lines in front: the reader has nothing to do at the last one. -/
theorem readLines_append_unmarked (h : isMarked line = false) :
    readLines names k s (lines ++ [line]) = readLines names k s lines := by
  induction lines generalizing k s with
  | nil =>
    rw [List.nil_append, readLines, readLines, readLine_unmarked h]
    rfl
  | cons first lines ih =>
    rw [List.cons_append, readLines, readLines]
    cases readLine names s first with
    | error f => rfl
    | ok s' => exact ih

theorem readLog_congr {text text' : String}
    (h : textLines text'.toList = textLines text.toList ∨
      textLines text'.toList = textLines text.toList ++ [[]]) :
    readLog text' names = readLog text names := by
  rw [readLog, readLog]
  rcases h with hsame | hmore
  · rw [hsame]
  · rw [hmore, readLines_append_unmarked rfl]

end Logs

/-- Of a log without carriage returns, nothing changes when all of its lines end with one before the
line feed, or when one more line ending is appended, or both. -/
theorem log_with_endings {text : String} (h : '\r' ∉ text.toList) (names : List String) :
    ∀ respelled ∈ [text.toList, withReturns text.toList], ∀ ending ∈ [] :: lineEndings,
      measurementsOf (String.ofList (respelled ++ ending)) names = measurementsOf text names := by
  intro respelled hrespelled ending hending
  have hlast : text.toList.getLast? ≠ some '\r' := fun hlast => h (List.mem_of_getLast? hlast)
  have hlines : textLines respelled = textLines text.toList ∧ respelled.getLast? ≠ some '\r' := by
    simp only [List.mem_cons, List.not_mem_nil, or_false] at hrespelled
    rcases hrespelled with rfl | rfl
    · exact ⟨rfl, hlast⟩
    · exact ⟨textLines_withReturns h, by rwa [getLast?_withReturns]⟩
  have hread : readLog (String.ofList (respelled ++ ending)) names = readLog text names := by
    refine readLog_congr ?_
    rw [String.toList_ofList, ← hlines.1]
    rcases List.mem_cons.1 hending with rfl | hending
    · exact .inl (by rw [List.append_nil])
    · exact textLines_append_ending hending hlines.2
  rw [measurementsOf, measurementsOf, hread]

/-- A log whose last line is open, and whose fault quotes a line. -/
def openLog : String := "warm-up\n\nThe size of the serialized object is ? bytes"

theorem log_with_endings_openLog :
    '\r' ∉ openLog.toList ∧
      ∀ respelled ∈ [openLog.toList, withReturns openLog.toList], ∀ ending ∈ [] :: lineEndings,
        measurementsOf (String.ofList (respelled ++ ending)) ["aes"] =
          .error (.onLine 3 (.noSize "The size of the serialized object is ? bytes")) := by
  have hreturn : '\r' ∉ openLog.toList := by decide
  have hlog : measurementsOf openLog ["aes"] =
      .error (.onLine 3 (.noSize "The size of the serialized object is ? bytes")) := by
    decide +kernel
  rw [← hlog]
  exact ⟨hreturn, log_with_endings hreturn ["aes"]⟩

end CutAndChoose
