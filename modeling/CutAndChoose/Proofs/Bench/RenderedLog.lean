import Mathlib
import CutAndChoose.Proofs.Bench.DurationText
import CutAndChoose.Proofs.Bench.Grammar
import CutAndChoose.Proofs.Text.Lines

/-!
# CutAndChoose.Proofs.Bench.RenderedLog

The log that a benchmark run prints, and that it is read back.

* `LogEntry`: what the run knows of a circuit; `LogEntry.lines` are its size line and its timing
  line.
* `Interspersed run lines`: the lines of the run with other output before, between and behind them.
* `markedLines_joinedLines`: of a text of such lines the reader sees exactly the lines of the run.
* `rendered_log_reread`: names and sizes come back as they were, the times up to a relative `2^-50`.
-/

namespace CutAndChoose

/-! ## What a run prints -/

structure LogEntry where
  circuit : String
  size : UInt64
  duration : Duration

namespace LogEntry

def sizeLine (e : LogEntry) : List Char :=
  "The size of the serialized object is ".toList ++
    (decimalDigits e.size.toNat ++ " bytes".toList)

def timingLine (e : LogEntry) : List Char := "Elapsed: ".toList ++ e.duration.text

def lines (e : LogEntry) : List (List Char) := [e.sizeLine, e.timingLine]

/-- The row has the circuit, the size and, up to a relative `2^-50`, the milliseconds. -/
def IsReadAs (e : LogEntry) (row : Measurement) : Prop :=
  row.circuit = e.circuit ∧ row.sizeBytes = e.size ∧ ∃ r : Magnitude,
    row.timeMs = .finite false r ∧
      |r.value - e.duration.milliseconds| ≤ e.duration.milliseconds / 2 ^ 50

end LogEntry

/-- The lines `lines` are the lines `run`, in this order, and any number of other lines anywhere
among them that are not marked. -/
inductive Interspersed : List (List Char) → List (List Char) → Prop where
  | nil : Interspersed [] []
  | own {line : List Char} {run lines : List (List Char)} :
      Interspersed run lines → Interspersed (line :: run) (line :: lines)
  | other {line : List Char} {run lines : List (List Char)} :
      '\n' ∉ line → isMarked line = false → Interspersed run lines →
      Interspersed run (line :: lines)

/-- A text of lines; if the last one is empty, the text ends with a line feed. -/
def joinedLines (lines : List (List Char)) : String := String.ofList (['\n'].intercalate lines)

/-! ## Marked lines of a text -/

section Text

variable {line : List Char} {run lines : List (List Char)}

/-- Line endings only cut unmarked lines short, and these stay unmarked. -/
theorem filter_textLines (hfeed : ∀ line ∈ lines, '\n' ∉ line)
    (hwhole : ∀ line ∈ lines, isMarked line = true → withoutReturn line = line) :
    (textLines (['\n'].intercalate lines)).filter isMarked = lines.filter isMarked := by
  induction lines with
  | nil => rfl
  | cons line lines ih =>
    have hline := hfeed line List.mem_cons_self
    cases lines with
    | nil =>
      rw [List.intercalate_singleton, textLines_last hline]
      split
      · rename_i hnil
        rw [hnil]
        rfl
      · rfl
    | cons next lines =>
      have ih := ih (fun l hl => hfeed l (List.mem_cons_of_mem _ hl))
        (fun l hl => hwhole l (List.mem_cons_of_mem _ hl))
      rw [List.intercalate_cons_cons, List.append_assoc, List.singleton_append,
        textLines_line hline]
      cases hmarked : isMarked line with
      | true =>
        rw [hwhole line List.mem_cons_self hmarked, List.filter_cons_of_pos hmarked, ih,
          List.filter_cons_of_pos hmarked]
      | false =>
        have hshort := not_isMarked_of_prefix (withoutReturn_prefix_self line) hmarked
        have hlong : ¬isMarked line = true := by simp [hmarked]
        rw [List.filter_cons_of_neg (by simp [hshort]), ih, List.filter_cons_of_neg hlong]

theorem Interspersed.mem (h : Interspersed run lines) (hline : line ∈ lines) :
    line ∈ run ∨ '\n' ∉ line ∧ isMarked line = false := by
  induction h with
  | nil => cases hline
  | own _ ih =>
    rcases List.mem_cons.1 hline with rfl | hline
    · exact .inl List.mem_cons_self
    · exact (ih hline).imp_left (List.mem_cons_of_mem _)
  | other hfeed hmarked _ ih =>
    rcases List.mem_cons.1 hline with rfl | hline
    · exact .inr ⟨hfeed, hmarked⟩
    · exact ih hline

theorem Interspersed.filter_isMarked (h : Interspersed run lines)
    (hrun : ∀ line ∈ run, isMarked line = true) : lines.filter isMarked = run := by
  induction h with
  | nil => rfl
  | own _ ih =>
    rw [List.filter_cons_of_pos (hrun _ List.mem_cons_self),
      ih fun line hline => hrun line (List.mem_cons_of_mem _ hline)]
  | other _ hmarked _ ih =>
    rw [List.filter_cons_of_neg (by simp [hmarked]), ih hrun]

/-- The marked lines of a list are a run among the others. -/
theorem interspersed_filter (hfeed : ∀ line ∈ lines, '\n' ∉ line) :
    Interspersed (lines.filter isMarked) lines := by
  induction lines with
  | nil => exact .nil
  | cons line lines ih =>
    have ih := ih fun l hl => hfeed l (List.mem_cons_of_mem _ hl)
    cases hmarked : isMarked line with
    | true =>
      rw [List.filter_cons_of_pos hmarked]
      exact .own ih
    | false =>
      rw [List.filter_cons_of_neg (by simp [hmarked])]
      exact .other (hfeed line List.mem_cons_self) hmarked ih

theorem markedLines_joinedLines (h : Interspersed run lines)
    (hrun : ∀ line ∈ run, isMarked line = true ∧ IsWhole line) :
    markedLines (joinedLines lines) = run := by
  rw [markedLines, joinedLines, String.toList_ofList, filter_textLines,
    h.filter_isMarked fun line hline => (hrun line hline).1]
  · intro line hline
    rcases h.mem hline with hown | ⟨hfeed, -⟩
    · exact (hrun line hown).2.1
    · exact hfeed
  · intro line hline hmarked
    rcases h.mem hline with hown | ⟨-, hother⟩
    · exact (hrun line hown).2.2
    · rw [hother] at hmarked
      cases hmarked

end Text

/-! ## The lines of an entry -/

theorem isInner_of_isNumeralChar {c : Char} (h : isNumeralChar c = true) : IsInner c := by
  constructor
  · rintro rfl
    cases h
  · rintro rfl
    cases h

theorem Duration.isInner_of_mem_text {t : Duration} {c : Char} (h : c ∈ t.text) : IsInner c := by
  obtain ⟨d, hnumeral, -⟩ := numeral_placesText t.unit.places t.total
  have hsign : ∀ u : TimeUnit, ∀ c ∈ u.sign, IsInner c := by
    intro u
    cases u <;> simp [TimeUnit.sign, IsInner]
  rcases List.mem_append.1 h with h | h
  · exact isInner_of_isNumeralChar (hnumeral.isNumeralChar_of_mem h)
  · exact hsign t.unit c h

namespace LogEntry

variable (e : LogEntry)

theorem isSizeLine_sizeLine : isSizeLine e.sizeLine = true := by
  have hfront : sizeMark <+: "The size of the serialized object is ".toList :=
    ⟨" is ".toList, by cbv⟩
  exact isSizeLine_iff.2 (hfront.trans (List.prefix_append _ _))

theorem isTimingLine_timingLine : isTimingLine e.timingLine = true := by
  have hfront : timingMark <+: "Elapsed: ".toList := ⟨": ".toList, by cbv⟩
  exact isTimingLine_iff.2 (hfront.trans (List.prefix_append _ _))

/-- The digits of the size are the first ones on its line. -/
theorem sizeOn_sizeLine : SizeOn e.sizeLine e.size := by
  refine ⟨decimalDigits e.size.toNat, " bytes".toList, ⟨_, rfl, ?_, ?_, ?_, ?_⟩, ?_⟩
  · simp
  · exact decimalDigits_ne_nil _
  · exact fun c hc => isDigit_of_mem_decimalDigits hc
  · simp
  · exact (ofDigitChars_decimalDigits _).symm

theorem timeOn_timingLine :
    ∃ r : Magnitude, TimeOn e.timingLine (.finite false r) ∧
      |r.value - e.duration.milliseconds| ≤ e.duration.milliseconds / 2 ^ 50 :=
  e.duration.timeOn_text (by simp [isNumeralChar])

theorem isWhole_sizeLine : IsWhole e.sizeLine := by
  have hfront : ∀ c ∈ "The size of the serialized object is ".toList, IsInner c := by
    simp [IsInner]
  have hback : ∀ c ∈ " bytes".toList, IsInner c := by simp [IsInner]
  refine isWhole_of_isInner fun c hc => ?_
  rcases List.mem_append.1 hc with hc | hc
  · exact hfront c hc
  · rcases List.mem_append.1 hc with hc | hc
    · refine isInner_of_isNumeralChar ?_
      rw [isNumeralChar, isDigit_of_mem_decimalDigits hc, Bool.true_or]
    · exact hback c hc

theorem isWhole_timingLine : IsWhole e.timingLine := by
  have hfront : ∀ c ∈ "Elapsed: ".toList, IsInner c := by simp [IsInner]
  refine isWhole_of_isInner fun c hc => ?_
  rcases List.mem_append.1 hc with hc | hc
  · exact hfront c hc
  · exact Duration.isInner_of_mem_text hc

theorem isMarked_and_isWhole {line : List Char} (h : line ∈ e.lines) :
    isMarked line = true ∧ IsWhole line := by
  simp only [lines, List.mem_cons, List.not_mem_nil, or_false] at h
  rcases h with rfl | rfl
  · exact ⟨by rw [isMarked, e.isSizeLine_sizeLine, Bool.true_or], e.isWhole_sizeLine⟩
  · exact ⟨by rw [isMarked, e.isTimingLine_timingLine, Bool.or_true], e.isWhole_timingLine⟩

/-- By induction on the entries: the first one makes the first row. -/
theorem exists_rows (entries : List LogEntry) :
    ∃ rows, Entries (entries.map circuit) (entries.flatMap lines) rows ∧
      List.Forall₂ IsReadAs entries rows := by
  induction entries with
  | nil => exact ⟨[], .nil, .nil⟩
  | cons e entries ih =>
    obtain ⟨rows, hentries, hrows⟩ := ih
    obtain ⟨r, htime, herror⟩ := e.timeOn_timingLine
    refine ⟨⟨e.circuit, e.size, .finite false r⟩ :: rows, ?_, .cons ?_ hrows⟩
    · exact .cons e.isSizeLine_sizeLine e.sizeOn_sizeLine e.isTimingLine_timingLine htime hentries
    · exact ⟨rfl, rfl, r, rfl, herror⟩

end LogEntry

/-! ## The log of a run -/

theorem rendered_log_reread {entries : List LogEntry} {lines : List (List Char)}
    (h : Interspersed (entries.flatMap LogEntry.lines) lines) :
    ∃ rows, measurementsOf (joinedLines lines) (entries.map LogEntry.circuit) = .ok rows ∧
      List.Forall₂ LogEntry.IsReadAs entries rows := by
  obtain ⟨rows, hentries, hrows⟩ := LogEntry.exists_rows entries
  have hmarked : markedLines (joinedLines lines) = entries.flatMap LogEntry.lines := by
    refine markedLines_joinedLines h ?_
    intro line hline
    obtain ⟨e, -, hline⟩ := List.mem_flatMap.1 hline
    exact e.isMarked_and_isWhole hline
  refine ⟨rows, ?_, hrows⟩
  rw [measurementsOf_eq_ok_iff, hmarked]
  exact hentries

/-- A duration in each of the units and a size at the end of the range. -/
def mixedRun : List LogEntry :=
  [⟨"sha256", 1024, ⟨2, 0, by decide⟩⟩, ⟨"", 18446744073709551615, ⟨0, 1500000, by decide⟩⟩,
    ⟨"sha256", 0, ⟨0, 999999, by decide⟩⟩, ⟨"aes", 7, ⟨0, 5, by decide⟩⟩]

/-- Its lines among other output, with a carriage return, digits, and marks further inside a line. -/
def mixedLines : List (List Char) :=
  ["warm-up: Elapsed 3s\r".toList,
    "The size of the serialized object is 1024 bytes".toList,
    [],
    "Elapsed: 2s".toList,
    "The size of the serialized object is 18446744073709551615 bytes".toList,
    "Elapsed: 1.5ms".toList,
    "The size of the serialized object is 0 bytes".toList,
    " The size of the serialized object".toList,
    "Elapsed: 999.999µs".toList,
    "The size of the serialized object is 7 bytes".toList,
    "Elapsed: 5ns".toList,
    []]

theorem rendered_log_reread_mixedRun :
    Interspersed (mixedRun.flatMap LogEntry.lines) mixedLines ∧
      ∃ rows, measurementsOf (joinedLines mixedLines) (mixedRun.map LogEntry.circuit) = .ok rows ∧
        List.Forall₂ LogEntry.IsReadAs mixedRun rows := by
  have hlines : mixedRun.flatMap LogEntry.lines = mixedLines.filter isMarked := by decide +kernel
  have hrun : Interspersed (mixedRun.flatMap LogEntry.lines) mixedLines := by
    rw [hlines]
    exact interspersed_filter (by decide +kernel)
  exact ⟨hrun, rendered_log_reread hrun⟩

end CutAndChoose
