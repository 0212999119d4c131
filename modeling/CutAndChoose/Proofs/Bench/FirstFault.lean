import Mathlib
import CutAndChoose.Proofs.Bench.Grammar
import CutAndChoose.Proofs.Decimal.Positional
import CutAndChoose.Proofs.Text.Lines

/-!
# CutAndChoose.Proofs.Bench.FirstFault

Where the fault of a log comes from. The reader stops at the first line that it refuses, so a fault
with a line number depends on the lines up to this one and on nothing behind it.

* `Reads names s lines s'`: the lines are read without a fault and take the state `s` to `s'`.
* `exists_reads_of_fault`: a fault of a line is what the reader says of this line in the state that
  the lines before it leave; `Reads.readLines_append` is the way back.
* `readLines_insert`: a line without a mark changes nothing but the numbers of the lines behind it.
* `log_fault_local`: both for texts, with the message as the only thing that is known of the fault.
-/

namespace CutAndChoose

/-! ## Runs without a fault -/

inductive Reads (names : List String) : LogState → List (List Char) → LogState → Prop where
  | nil {s : LogState} : Reads names s [] s
  | cons {s s' s'' : LogState} {line : List Char} {lines : List (List Char)} :
      readLine names s line = .ok s' → Reads names s' lines s'' → Reads names s (line :: lines) s''

section Runs

variable {names : List String} {s s' : LogState} {front back lines : List (List Char)}
  {line : List Char} {j k : ℕ} {f : LineFault}

/-- Behind lines without a fault the reader goes on from the state that they leave. -/
theorem Reads.readLines_append (h : Reads names s front s') :
    readLines names k s (front ++ back) = readLines names (k + front.length) s' back := by
  induction h generalizing k with
  | nil => rfl
  | @cons s s₁ s₂ line front hline _ ih =>
    have hcount : k + (line :: front).length = k + 1 + front.length := by
      rw [List.length_cons]
      omega
    rw [List.cons_append, readLines, hline, hcount]
    exact ih

theorem Reads.take (h : Reads names s front s') (i : ℕ) :
    ∃ mid, Reads names s (front.take i) mid := by
  induction h generalizing i with
  | @nil s =>
    rw [List.take_nil]
    exact ⟨s, .nil⟩
  | @cons s _ _ _ _ hline _ ih =>
    cases i with
    | zero => exact ⟨s, .nil⟩
    | succ i =>
      obtain ⟨mid, hmid⟩ := ih i
      exact ⟨mid, .cons hline hmid⟩

/-- What is missing at the end of a log has no line. -/
theorem missing?_ne_onLine : s.missing? names ≠ some (.onLine k f) := by
  unfold LogState.missing?
  intro h
  split at h
  · cases h
  · split at h
    · cases h
    · cases h

/-- By induction on the lines: the first one that is refused gives the fault. -/
theorem exists_reads_of_fault (h : (readLines names k s lines).fault = some (.onLine j f)) :
    ∃ front line back s', lines = front ++ line :: back ∧ k + front.length = j ∧
      Reads names s front s' ∧ readLine names s' line = .error f := by
  induction lines generalizing k s with
  | nil =>
    rw [readLines] at h
    exact absurd h missing?_ne_onLine
  | cons line lines ih =>
    rw [readLines] at h
    cases hline : readLine names s line with
    | error g =>
      rw [hline] at h
      cases h
      exact ⟨[], line, lines, s, rfl, rfl, .nil, hline⟩
    | ok s' =>
      rw [hline] at h
      obtain ⟨front, bad, back, s'', rfl, hj, hfront, hbad⟩ := ih h
      refine ⟨line :: front, bad, back, s'', rfl, ?_, .cons hline hfront, hbad⟩
      rw [List.length_cons]
      omega

end Runs

/-! ## A line without a mark -/

/-- What the fault of a log becomes when one more line is put in front of line `j`. -/
def LogFault.withLineBefore (j : ℕ) : LogFault → LogFault
  | .onLine k f => .onLine (if j ≤ k then k + 1 else k) f
  | f => f

def LogReading.withLineBefore (j : ℕ) (r : LogReading) : LogReading :=
  ⟨r.rows, r.fault.map (·.withLineBefore j)⟩

section Insertion

variable {names : List String} {s : LogState} {front back lines : List (List Char)}
  {line : List Char} {j k : ℕ}

theorem missing?_withLineBefore :
    (s.missing? names).map (·.withLineBefore j) = s.missing? names := by
  unfold LogState.missing?
  split
  · rfl
  · split
    · rfl
    · rfl

/-- Counting from one more moves the numbers of all lines. -/
theorem readLines_succ (h : j ≤ k) :
    readLines names (k + 1) s lines = (readLines names k s lines).withLineBefore j := by
  induction lines generalizing k s with
  | nil => rw [readLines, readLines, LogReading.withLineBefore, missing?_withLineBefore]
  | cons line lines ih =>
    rw [readLines, readLines]
    cases readLine names s line with
    | error f => simp [LogReading.withLineBefore, LogFault.withLineBefore, h]
    | ok s' => exact ih (by omega)

/-- By induction on the lines in front of the new one, whose numbers stay. -/
theorem readLines_insert (h : isMarked line = false) :
    readLines names k s (front ++ line :: back) =
      (readLines names k s (front ++ back)).withLineBefore (k + front.length) := by
  induction front generalizing k s with
  | nil =>
    rw [List.nil_append, List.nil_append, readLines, readLine_unmarked h]
    exact readLines_succ le_rfl
  | cons first front ih =>
    have hcount : k + (first :: front).length = k + 1 + front.length := by
      rw [List.length_cons]
      omega
    rw [List.cons_append, List.cons_append, readLines, readLines, hcount]
    cases readLine names s first with
    | error f =>
      have hlater : ¬k + 1 + front.length ≤ k := by omega
      simp [LogReading.withLineBefore, LogFault.withLineBefore, hlater]
    | ok s' => exact ih

end Insertion

/-! ## Messages -/

section Messages

variable {f : LogFault} {g : LineFault} {j k : ℕ}

theorem message_onLine (k : ℕ) (g : LineFault) :
    (LogFault.onLine k g).message.toList =
      "Line ".toList ++ (decimalDigits k ++ ':' :: ' ' :: g.message.toList) := by
  show ("Line " ++ toString k ++ ": " ++ g.message).toList = _
  simp [decimalDigits]

/-- Only the fault of a line has a message that starts like this. -/
theorem exists_onLine_of_message (h : "Line".toList <+: f.message.toList) :
    ∃ k g, f = .onLine k g := by
  cases f with
  | onLine k g => exact ⟨k, g, rfl⟩
  | endsBeforeTiming circuit =>
    change _ <+: ("Log ends before the timing of '" ++ circuit ++ "'.").toList at h
    simp at h
  | fewEntries entries names =>
    change _ <+: ("Log has " ++ toString entries ++ " complete entries but " ++ toString names ++
      " circuit names are expected.").toList at h
    simp at h

/-- The message has the number of the line behind the first word, and a colon ends it. -/
theorem eq_of_message (h : s!"Line {k}:".toList <+: (LogFault.onLine j g).message.toList) :
    k = j := by
  change ("Line " ++ toString k ++ ":").toList <+: _ at h
  obtain ⟨tail, htail⟩ := h
  have hdigits : decimalDigits k ++ ':' :: tail =
      decimalDigits j ++ ':' :: ' ' :: g.message.toList := by
    rw [message_onLine] at htail
    simpa [decimalDigits] using htail
  have hcolon : ∀ rest : List Char, ∀ c ∈ (':' :: rest).head?, c.isDigit = false := by
    intro rest c hc
    cases hc
    rfl
  have hrun (n : ℕ) (rest : List Char) :
      (decimalDigits n ++ ':' :: rest).takeWhile Char.isDigit = decimalDigits n :=
    takeWhile_run (fun c hc => isDigit_of_mem_decimalDigits hc) (hcolon rest)
  have hsame := congrArg (List.takeWhile Char.isDigit) hdigits
  rw [hrun, hrun] at hsame
  rw [← ofDigitChars_decimalDigits k, hsame, ofDigitChars_decimalDigits]

/-- A message that names line `k` is that of a fault of line `k`. -/
theorem exists_eq_onLine (h : s!"Line {k}:".toList <+: f.message.toList) :
    ∃ g, f = .onLine k g := by
  have hword : "Line".toList <+: s!"Line {k}:".toList := by
    change _ <+: ("Line " ++ toString k ++ ":").toList
    simp
  obtain ⟨j, g, rfl⟩ := exists_onLine_of_message (hword.trans h)
  exact ⟨g, by rw [eq_of_message h]⟩

end Messages

/-! ## Texts -/

/-- The fault of line `k` of a text: the line is marked, no text with the same first `k` lines has
another result, and on fewer of these lines no line has a fault. Lines count from one. -/
structure IsFaultOfLine (text : String) (names : List String) (k : ℕ) (f : LogFault) : Prop where
  pos : 1 ≤ k
  marked : ∃ line, (textLines text.toList)[k - 1]? = some line ∧
    (sizeMark <+: line ∨ timingMark <+: line)
  stays : ∀ text' : String, (textLines text'.toList).take k = (textLines text.toList).take k →
    measurementsOf text' names = .error f
  first : ∀ (text' : String) (i : ℕ), i < k →
    textLines text'.toList = (textLines text.toList).take i →
      ∀ f', measurementsOf text' names = .error f' → ¬"Line".toList <+: f'.message.toList

/-- The text `text'` is `text` with a line put in before its line `j`. -/
def InsertedLine (text text' : String) (line : List Char) (j : ℕ) : Prop :=
  ∃ front back, text.toList = front ++ back ∧ text'.toList = front ++ (line ++ '\n' :: back) ∧
    IsEnded front ∧ front.count '\n' + 1 = j ∧ '\n' ∉ line

section Texts

variable {text text' : String} {names : List String} {line : List Char} {f : LogFault}
  {g : LineFault} {j k : ℕ}

theorem measurementsOf_eq_error_iff :
    measurementsOf text names = .error f ↔ (readLog text names).fault = some f := by
  unfold measurementsOf
  dsimp only
  cases (readLog text names).fault with
  | none => simp
  | some f' => simp

theorem isFaultOfLine_of_error (h : measurementsOf text names = .error (.onLine k g)) :
    IsFaultOfLine text names k (.onLine k g) := by
  obtain ⟨front, line, back, s, hlines, rfl, hfront, hline⟩ :=
    exists_reads_of_fault (measurementsOf_eq_error_iff.1 h)
  constructor
  · omega
  · refine ⟨line, by simp [hlines], isMarked_iff.1 ?_⟩
    by_contra hunmarked
    rw [readLine_unmarked (Bool.not_eq_true _ ▸ hunmarked)] at hline
    cases hline
  · intro text' hsame
    have htake : (textLines text.toList).take (1 + front.length) = front ++ [line] := by
      rw [hlines, Nat.add_comm, List.take_length_add_append]
      rfl
    rw [measurementsOf_eq_error_iff, readLog, ← List.take_append_drop (1 + front.length)
      (textLines text'.toList), hsame, htake, List.append_assoc, hfront.readLines_append,
      List.singleton_append, readLines, hline]
  · intro text' i hi hlines' f' hf' hword
    have htake : textLines text'.toList = front.take i := by
      rw [hlines', hlines, List.take_append_of_le_length (by omega)]
    obtain ⟨mid, hmid⟩ := hfront.take i
    obtain ⟨j, g', rfl⟩ := exists_onLine_of_message hword
    rw [measurementsOf_eq_error_iff, readLog, htake, ← List.append_nil (front.take i),
      hmid.readLines_append, readLines] at hf'
    exact missing?_ne_onLine hf'

/-- The lines of a text with a line put in: the new one has lost the carriage return at its end. -/
theorem InsertedLine.exists_lines (h : InsertedLine text text' line j) :
    ∃ front back, textLines text.toList = front ++ back ∧
      textLines text'.toList = front ++ withoutReturn line :: back ∧ 1 + front.length = j := by
  obtain ⟨front, back, htext, htext', hended, rfl, hline⟩ := h
  refine ⟨textLines front, textLines back, ?_, ?_, ?_⟩
  · rw [htext, textLines_append hended]
  · rw [htext', textLines_append hended, textLines_line hline]
  · rw [length_textLines hended, Nat.add_comm]

theorem measurementsOf_insert (h : InsertedLine text text' line j)
    (hmarked : isMarked line = false) :
    measurementsOf text' names = (measurementsOf text names).mapError (·.withLineBefore j) := by
  obtain ⟨front, back, hlines, hlines', rfl⟩ := h.exists_lines
  have hshort := not_isMarked_of_prefix (withoutReturn_prefix_self line) hmarked
  have hread : readLog text' names = (readLog text names).withLineBefore (1 + front.length) := by
    rw [readLog, readLog, hlines, hlines', readLines_insert hshort]
  unfold measurementsOf
  dsimp only
  rw [hread, LogReading.withLineBefore]
  cases (readLog text names).fault with
  | none => rfl
  | some f => rfl

end Texts

/-- A fault with a line number comes from this line and the lines before it, whatever follows them.
A line without a mark only moves the numbers of the lines behind it. -/
theorem log_fault_local (text : String) (names : List String) :
    (∀ f k, measurementsOf text names = .error f → s!"Line {k}:".toList <+: f.message.toList →
      IsFaultOfLine text names k f) ∧
    ∀ text' line j, InsertedLine text text' line j → ¬sizeMark <+: line → ¬timingMark <+: line →
      measurementsOf text' names =
        (measurementsOf text names).mapError (·.withLineBefore j) := by
  constructor
  · intro f k h hmessage
    obtain ⟨g, rfl⟩ := exists_eq_onLine hmessage
    exact isFaultOfLine_of_error h
  · intro text' line j hinserted hsize htiming
    refine measurementsOf_insert hinserted ?_
    rw [← Bool.not_eq_true, isMarked_iff]
    exact not_or.2 ⟨hsize, htiming⟩

/-- A log whose third line is refused, with a fault on the fourth that is never reached. -/
def faultyLog : String :=
  "#gates: 10\nThe size of the serialized object is 7 bytes\r\nElapsed: 1..2ms\nElapsed: 3ms"

theorem log_fault_local_faultyLog :
    measurementsOf faultyLog ["aes"] = .error (.onLine 3 (.badTiming "1..2")) ∧
      IsFaultOfLine faultyLog ["aes"] 3 (.onLine 3 (.badTiming "1..2")) ∧
      ∃ text', InsertedLine faultyLog text' "#wires: 20\r".toList 2 ∧
        measurementsOf text' ["aes"] = .error (.onLine 4 (.badTiming "1..2")) := by
  have hlog : measurementsOf faultyLog ["aes"] = .error (.onLine 3 (.badTiming "1..2")) := by
    decide +kernel
  have hmessage : "Line 3:".toList <+: (LogFault.onLine 3 (.badTiming "1..2")).message.toList :=
    List.isPrefixOf_iff_prefix.1 (by decide +kernel)
  obtain ⟨hfault, hinsert⟩ := log_fault_local faultyLog ["aes"]
  have hinserted : InsertedLine faultyLog ("#gates: 10\n#wires: 20\r\n" ++
      "The size of the serialized object is 7 bytes\r\nElapsed: 1..2ms\nElapsed: 3ms")
      "#wires: 20\r".toList 2 :=
    ⟨"#gates: 10\n".toList, _, rfl, by decide +kernel, by simp [IsEnded], by decide, by decide⟩
  have hmoved := hinsert _ _ _ hinserted (by decide) (by decide)
  rw [hlog] at hmoved
  exact ⟨hlog, hfault _ _ hlog hmessage, _, hinserted, hmoved⟩

end CutAndChoose
