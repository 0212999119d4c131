import Mathlib
import CutAndChoose.Proofs.Bench.LineValue

/-!
# CutAndChoose.Proofs.Bench.Grammar

Which logs are accepted. Only the marked lines count: those that start like a size line or like a
timing line.

* `Entries names lines rows`: the marked lines `lines` are one size line and one timing line for
  each of the `names`, in this order, and `rows` are their values.
* `readLine_idle`, `readLine_waiting`: what a marked line must be while no size waits for its time,
  and while one does.
* `readLines_iff`: the same for all lines that are left, by induction on them.
* `log_accepted_iff`: a log gives rows exactly when its marked lines are entries with these rows;
  every other log is refused with the exit code of malformed input.
-/

namespace CutAndChoose

def isSizeLine (line : List Char) : Bool := sizeMark.isPrefixOf line

def isTimingLine (line : List Char) : Bool := timingMark.isPrefixOf line

theorem isSizeLine_iff {line : List Char} : isSizeLine line = true ↔ sizeMark <+: line :=
  List.isPrefixOf_iff_prefix

theorem isTimingLine_iff {line : List Char} : isTimingLine line = true ↔ timingMark <+: line :=
  List.isPrefixOf_iff_prefix

def isMarked (line : List Char) : Bool := isSizeLine line || isTimingLine line

theorem isMarked_iff {line : List Char} :
    isMarked line = true ↔ sizeMark <+: line ∨ timingMark <+: line := by
  rw [isMarked, Bool.or_eq_true, isSizeLine_iff, isTimingLine_iff]

theorem not_isMarked_of_prefix {line line' : List Char} (h : line' <+: line)
    (hmarked : isMarked line = false) : isMarked line' = false := by
  rw [← Bool.not_eq_true, isMarked_iff] at hmarked ⊢
  exact fun hmark => hmarked (hmark.imp (·.trans h) (·.trans h))

def markedLines (text : String) : List (List Char) :=
  (textLines text.toList).filter isMarked

/-- One size line and one timing line per name, with the row that their values make. -/
inductive Entries : List String → List (List Char) → List Measurement → Prop where
  | nil : Entries [] [] []
  | cons {circuit : String} {names : List String} {sizeLine timingLine : List Char}
      {lines : List (List Char)} {size : UInt64} {time : Binary64} {rows : List Measurement} :
      isSizeLine sizeLine = true → SizeOn sizeLine size →
      isTimingLine timingLine = true → TimeOn timingLine time →
      Entries names lines rows →
      Entries (circuit :: names) (sizeLine :: timingLine :: lines)
        (⟨circuit, size, time⟩ :: rows)

/-- The rows carry the names, one row for each. -/
theorem Entries.circuits {names : List String} {lines : List (List Char)}
    {rows : List Measurement} (h : Entries names lines rows) : rows.map (·.circuit) = names := by
  induction h with
  | nil => rfl
  | cons _ _ _ _ _ ih => simp [ih]

/-- No line starts both ways. -/
theorem not_isSizeLine {line : List Char} (h : isTimingLine line = true) :
    isSizeLine line = false := by
  have hsize : sizeMark = 'T' :: sizeMark.tail := by decide
  have htiming : timingMark = 'E' :: timingMark.tail := by decide
  cases line with
  | nil => rfl
  | cons c line =>
    rw [isTimingLine, htiming, List.isPrefixOf, Bool.and_eq_true, beq_iff_eq] at h
    rw [isSizeLine, hsize, List.isPrefixOf, ← h.1]
    rfl

/-! ## One line -/

section Line

variable {names : List String} {rows : List Measurement} {line : List Char} {s s' : LogState}

theorem readLine_eq : readLine names s line =
    if isSizeLine line then readSize names s line
    else if isTimingLine line then readTiming s line
    else .ok s :=
  rfl

theorem readLine_unmarked (h : isMarked line = false) : readLine names s line = .ok s := by
  rw [isMarked, Bool.or_eq_false_iff] at h
  simp [readLine_eq, h]

/-- While no size waits, a marked line has to be a size line, and there has to be a name for it. -/
theorem readLine_idle (h : isMarked line = true) :
    readLine names ⟨rows, none⟩ line = .ok s' ↔
      isSizeLine line = true ∧ ∃ circuit size, names[rows.length]? = some circuit ∧
        SizeOn line size ∧ s' = ⟨rows, some (circuit, size)⟩ := by
  by_cases hsize : isSizeLine line = true
  · simp only [readLine_eq, readSize, hsize, if_true, true_and, ← sizeOnLine_eq_ok_iff]
    cases names[rows.length]? with
    | none => simp
    | some circuit =>
      cases sizeOnLine line with
      | error f => simp
      | ok size => simp [eq_comm]
  · have htiming : isTimingLine line = true := by simpa [isMarked, hsize] using h
    simp [readLine_eq, readTiming, hsize, htiming]

/-- While a size waits, a marked line has to be a timing line. -/
theorem readLine_waiting {circuit : String} {size : UInt64} (h : isMarked line = true) :
    readLine names ⟨rows, some (circuit, size)⟩ line = .ok s' ↔
      isTimingLine line = true ∧ ∃ time, TimeOn line time ∧
        s' = ⟨rows ++ [⟨circuit, size, time⟩], none⟩ := by
  by_cases htiming : isTimingLine line = true
  · simp only [readLine_eq, readTiming, not_isSizeLine htiming, htiming, Bool.false_eq_true,
      if_false, if_true, true_and, ← timeOnLine_eq_ok_iff]
    cases timeOnLine line with
    | error f => simp
    | ok time => simp [eq_comm]
  · have hsize : isSizeLine line = true := by simpa [isMarked, htiming] using h
    simp [readLine_eq, readSize, hsize, htiming]

end Line

/-! ## All lines -/

section Lines

variable {names : List String} {lines : List (List Char)} {all : List Measurement}

/-- The marked lines that are left complete a state to the rows `all`: they are entries for the
names that are left, behind the time of the size that waits, if one does. -/
def Completes (names : List String) : LogState → List (List Char) → List Measurement → Prop
  | ⟨rows, none⟩, lines, all =>
    ∃ more, Entries (names.drop rows.length) lines more ∧ all = rows ++ more
  | ⟨rows, some (circuit, size)⟩, lines, all =>
    ∃ line rest time more, lines = line :: rest ∧ isTimingLine line = true ∧ TimeOn line time ∧
      Entries (names.drop (rows.length + 1)) rest more ∧
      all = rows ++ ⟨circuit, size, time⟩ :: more

/-- What is left of a list starts with the element at its place. -/
theorem drop_eq_cons_iff {α : Type} {l rest : List α} {k : ℕ} {a : α} :
    l.drop k = a :: rest ↔ l[k]? = some a ∧ l.drop (k + 1) = rest := by
  constructor
  · intro h
    constructor
    · rw [← List.head?_drop, h, List.head?_cons]
    · rw [← List.drop_drop, h, List.drop_succ_cons, List.drop_zero]
  · rintro ⟨h, rfl⟩
    obtain ⟨hlt, rfl⟩ := List.getElem?_eq_some_iff.1 h
    exact List.drop_eq_getElem_cons hlt

theorem completes_nil {s : LogState} :
    Completes names s [] all ↔ s.missing? names = none ∧ all = s.rows := by
  obtain ⟨rows, waiting⟩ := s
  cases waiting with
  | none =>
    simp only [Completes, LogState.missing?]
    constructor
    · rintro ⟨more, hentries, rfl⟩
      generalize hleft : names.drop rows.length = left at hentries
      cases hentries
      rw [List.drop_eq_nil_iff] at hleft
      simp [hleft]
    · rintro ⟨hmissing, rfl⟩
      have hleft : names.drop all.length = [] := by
        rw [List.drop_eq_nil_iff]
        by_contra hlt
        simp [Nat.lt_of_not_le hlt] at hmissing
      exact ⟨[], hleft ▸ .nil, (List.append_nil _).symm⟩
  | some entry => simp [Completes, LogState.missing?]

/-- A marked line is read exactly when it begins what completes the state. -/
theorem completes_cons {s : LogState} {line : List Char} (h : isMarked line = true) :
    Completes names s (line :: lines) all ↔
      ∃ s', readLine names s line = .ok s' ∧ Completes names s' lines all := by
  obtain ⟨rows, waiting⟩ := s
  cases waiting with
  | none =>
    simp only [readLine_idle h, Completes]
    constructor
    · rintro ⟨more, hentries, rfl⟩
      generalize hleft : names.drop rows.length = left at hentries
      cases hentries with
      | @cons circuit left sizeLine timingLine rest size time more hsize hsizeOn htiming htimeOn
          hmore =>
        obtain ⟨hname, rfl⟩ := drop_eq_cons_iff.1 hleft
        refine ⟨_, ⟨hsize, circuit, size, hname, hsizeOn, rfl⟩, ?_⟩
        exact ⟨timingLine, rest, time, more, rfl, htiming, htimeOn, hmore, rfl⟩
    · rintro ⟨s', ⟨hsize, circuit, size, hname, hsizeOn, rfl⟩, hrest⟩
      obtain ⟨timingLine, rest, time, more, rfl, htiming, htimeOn, hmore, rfl⟩ := hrest
      refine ⟨⟨circuit, size, time⟩ :: more, ?_, rfl⟩
      rw [drop_eq_cons_iff.2 ⟨hname, rfl⟩]
      exact .cons hsize hsizeOn htiming htimeOn hmore
  | some entry =>
    obtain ⟨circuit, size⟩ := entry
    simp only [readLine_waiting h]
    constructor
    · rintro ⟨_, _, time, more, hlines, htiming, htimeOn, hmore, rfl⟩
      cases hlines
      refine ⟨_, ⟨htiming, time, htimeOn, rfl⟩, more, ?_, by simp⟩
      rwa [List.length_append, List.length_singleton]
    · rintro ⟨s', ⟨htiming, time, htimeOn, rfl⟩, more, hmore, rfl⟩
      rw [List.length_append, List.length_singleton] at hmore
      exact ⟨line, lines, time, more, rfl, htiming, htimeOn, hmore, by simp⟩

theorem readLines_iff {k : ℕ} {s : LogState} :
    readLines names k s lines = ⟨all, none⟩ ↔ Completes names s (lines.filter isMarked) all := by
  -- The number `k` only shows up in faults; the open entry and the names left are in `s`.
  induction lines generalizing k s with
  | nil =>
    rw [List.filter_nil, completes_nil, readLines, LogReading.mk.injEq, and_comm]
    exact and_congr_right fun _ => eq_comm
  | cons line lines ih =>
    cases hmarked : isMarked line with
    | false =>
      rw [List.filter_cons_of_neg (by simp [hmarked]), readLines, readLine_unmarked hmarked]
      exact ih
    | true =>
      rw [List.filter_cons_of_pos hmarked, completes_cons hmarked, readLines]
      cases readLine names s line with
      | error f => simp
      | ok s' => simp [ih]

end Lines

/-! ## A whole log -/

theorem measurementsOf_eq_ok_iff {text : String} {names : List String} {rows : List Measurement} :
    measurementsOf text names = .ok rows ↔ Entries names (markedLines text) rows := by
  have hread : measurementsOf text names = .ok rows ↔ readLog text names = ⟨rows, none⟩ := by
    unfold measurementsOf
    obtain ⟨read, fault⟩ := readLog text names
    cases fault with
    | none => simp
    | some f => simp
  rw [hread, readLog, readLines_iff]
  simp [Completes, markedLines]

theorem log_accepted_iff (text : String) (names : List String) :
    (∀ rows, measurementsOf text names = .ok rows ↔ Entries names (markedLines text) rows) ∧
      (∀ rows, measurementsOf text names = .ok rows → rows.map (·.circuit) = names) ∧
      ((¬∃ rows, Entries names (markedLines text) rows) →
        ∃ f, measurementsOf text names = .error f ∧ f.failure.exitCode = 2) := by
  refine ⟨fun rows => measurementsOf_eq_ok_iff, ?_, ?_⟩
  · intro rows h
    exact (measurementsOf_eq_ok_iff.1 h).circuits
  · intro hnone
    cases h : measurementsOf text names with
    | ok rows => exact absurd ⟨rows, measurementsOf_eq_ok_iff.1 h⟩ hnone
    | error f => exact ⟨f, rfl, rfl⟩

end CutAndChoose
