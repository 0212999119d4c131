import Mathlib
import CutAndChoose.Bench.Log
import CutAndChoose.Proofs.Text.Run

/-!
# CutAndChoose.Proofs.Bench.LineValue

What the readers of a single log line accept, said without the readers.

* `IsFirstRun`: the first run of characters of a class, as long as possible.
* `Numeral`: digits around at most one point, with at least one digit.
* `SizeOn`, `TimeOn`: the size and the time that stand on a line.

`sizeOnLine_eq_ok_iff` and `timeOnLine_eq_ok_iff` say that the readers give exactly these values.
-/

namespace CutAndChoose

/-! ## The first run of a class -/

/-- The text is `before ++ run ++ rest`, nothing before the run has `p`, everything in it has, and
it ends because the text ends or the next character does not have `p`. -/
def IsFirstRun (p : Char → Bool) (s run rest : List Char) : Prop :=
  ∃ before, s = before ++ (run ++ rest) ∧ (∀ c ∈ before, p c = false) ∧ run ≠ [] ∧
    (∀ c ∈ run, p c = true) ∧ ∀ c ∈ rest.head?, p c = false

section FirstRun

variable {p : Char → Bool} {s run rest : List Char}

theorem IsFirstRun.of_mem_run (h : IsFirstRun p s run rest) : ∀ c ∈ run, p c = true := by
  obtain ⟨-, -, -, -, hrun, -⟩ := h
  exact hrun

theorem firstRun_of_isFirstRun (h : IsFirstRun p s run rest) : firstRun p s = (run, rest) := by
  obtain ⟨before, rfl, hbefore, hne, hrun, hrest⟩ := h
  have hskip : (before ++ (run ++ rest)).dropWhile (!p ·) = run ++ rest := by
    obtain ⟨c, run', rfl⟩ := List.exists_cons_of_ne_nil hne
    have hc := hrun c List.mem_cons_self
    refine dropWhile_run ?_ ?_
    · intro d hd
      simp [hbefore d hd]
    · intro d hd
      simp only [List.cons_append, List.head?_cons, Option.mem_some] at hd
      simp [← hd, hc]
  simp [firstRun, hskip, takeWhile_run hrun hrest, dropWhile_run hrun hrest]

theorem isFirstRun_iff : IsFirstRun p s run rest ↔ firstRun p s = (run, rest) ∧ run ≠ [] := by
  constructor
  · intro h
    refine ⟨firstRun_of_isFirstRun h, ?_⟩
    obtain ⟨-, -, -, hne, -⟩ := h
    exact hne
  · rintro ⟨h, hne⟩
    simp only [firstRun, Prod.mk.injEq] at h
    obtain ⟨rfl, rfl⟩ := h
    refine ⟨s.takeWhile (!p ·), ?_, ?_, hne, ?_, ?_⟩
    · rw [List.takeWhile_append_dropWhile, List.takeWhile_append_dropWhile]
    · intro c hc
      simpa using List.mem_takeWhile_imp hc
    · intro c hc
      exact List.mem_takeWhile_imp hc
    · intro c hc
      have hhead := List.head?_dropWhile_not p (s.dropWhile (!p ·))
      rw [Option.mem_def] at hc
      rw [hc] at hhead
      simpa using hhead

end FirstRun

/-! ## Sizes -/

/-- The first run of digits on a line is a number below `2^64`. -/
def SizeOn (line : List Char) (size : UInt64) : Prop :=
  ∃ digits rest, IsFirstRun Char.isDigit line digits rest ∧
    size.toNat = Nat.ofDigitChars 10 digits 0

theorem sizeOnLine_eq_ok_iff {line : List Char} {size : UInt64} :
    sizeOnLine line = .ok size ↔ SizeOn line size := by
  have hrun : SizeOn line size ↔ (firstRun Char.isDigit line).1 ≠ [] ∧
      size.toNat = Nat.ofDigitChars 10 (firstRun Char.isDigit line).1 0 := by
    simp only [SizeOn, isFirstRun_iff]
    constructor
    · rintro ⟨digits, rest, ⟨h, hne⟩, hsize⟩
      rw [h]
      exact ⟨hne, hsize⟩
    · rintro ⟨hne, hsize⟩
      exact ⟨_, _, ⟨rfl, hne⟩, hsize⟩
  rw [hrun]
  unfold sizeOnLine
  dsimp only
  split
  · rename_i hnone
    simp [hnone]
  · rename_i hne
    simp only [ne_eq, hne, not_false_eq_true, true_and]
    split
    · rename_i hlt
      rw [Except.ok.injEq, ← UInt64.toNat_inj, UInt64.toNat_ofNat_of_lt' hlt]
      exact eq_comm
    · rename_i hge
      have hsize := size.toNat_lt_size
      constructor
      · intro h
        cases h
      · intro h
        omega

/-! ## Times -/

/-- A decimal numeral: digits with at most one point among them, and at least one digit. -/
inductive Numeral : List Char → Decimal → Prop where
  | whole {digits : List Char} : digits ≠ [] → (∀ c ∈ digits, c.isDigit = true) →
      Numeral digits (.ofNumeral digits [])
  | pointed {whole fraction : List Char} : (∀ c ∈ whole, c.isDigit = true) →
      (∀ c ∈ fraction, c.isDigit = true) → whole ++ fraction ≠ [] →
      Numeral (whole ++ '.' :: fraction) (.ofNumeral whole fraction)

theorem Numeral.ne_nil {s : List Char} {d : Decimal} (h : Numeral s d) : s ≠ [] := by
  cases h with
  | whole hne _ => exact hne
  | pointed _ _ _ => simp

theorem Numeral.isNumeralChar_of_mem {s : List Char} {d : Decimal} {c : Char} (h : Numeral s d)
    (hc : c ∈ s) : isNumeralChar c = true := by
  cases h with
  | whole _ hdigits => simp [isNumeralChar, hdigits c hc]
  | pointed hwhole hfraction _ =>
    rcases List.mem_append.1 hc with hc | hc
    · simp [isNumeralChar, hwhole c hc]
    · rcases List.mem_cons.1 hc with rfl | hc
      · rfl
      · simp [isNumeralChar, hfraction c hc]

theorem numeral?_of_numeral {s : List Char} {d : Decimal} (h : Numeral s d) :
    numeral? s = some d := by
  cases h with
  | whole hne hdigits =>
    have htake := List.takeWhile_eq_self_iff.2 hdigits
    have hdrop := List.dropWhile_eq_nil_iff.2 hdigits
    simp [numeral?, htake, hdrop, hne]
  | @pointed whole fraction hwhole hfraction hne =>
    have hpoint : ∀ c ∈ ('.' :: fraction).head?, c.isDigit = false := by simp
    have hboth : ¬(whole = [] ∧ fraction = []) := by simpa using hne
    simp only [numeral?, takeWhile_run hwhole hpoint, dropWhile_run hwhole hpoint]
    rw [if_pos ⟨trivial, List.all_eq_true.2 hfraction, hboth⟩]

theorem numeral?_eq_some_iff {s : List Char} {d : Decimal} :
    numeral? s = some d ↔ Numeral s d := by
  refine ⟨?_, numeral?_of_numeral⟩
  intro h
  have hsplit := @List.takeWhile_append_dropWhile _ Char.isDigit s
  have hwhole : ∀ c ∈ s.takeWhile Char.isDigit, c.isDigit = true := fun c hc =>
    List.mem_takeWhile_imp hc
  unfold numeral? at h
  dsimp only at h
  split at h
  · rename_i hdrop
    rw [hdrop, List.append_nil] at hsplit
    rw [hsplit] at h hwhole
    split at h
    · cases h
    · rename_i hne
      cases h
      exact .whole hne hwhole
  · rename_i c fraction hdrop
    split at h
    · rename_i hc
      obtain ⟨rfl, hfraction, hne⟩ := hc
      cases h
      have hboth : s.takeWhile Char.isDigit ++ fraction ≠ [] := by simpa using hne
      have hnumeral := Numeral.pointed hwhole (List.all_eq_true.1 hfraction) hboth
      rw [hdrop] at hsplit
      rwa [hsplit] at hnumeral
    · cases h

/-- The unit behind a value, blanks between them ignored; without one it is the millisecond. -/
def unitBehind (rest : List Char) : TimeUnit :=
  (TimeUnit.ofText? (rest.dropWhile isBlank)).getD .millisecond

/-- The first run of digits and points on a line is a numeral, and with its unit it makes `time`
milliseconds. -/
def TimeOn (line : List Char) (time : Binary64) : Prop :=
  ∃ value rest d, IsFirstRun isNumeralChar line value rest ∧ Numeral value d ∧
    time = d.toBinary64 false * (unitBehind rest).milliseconds

theorem durationOf_eq_ok_iff {line : List Char} {time : Binary64} :
    durationOf line = .ok time ↔ TimeOn line time := by
  obtain ⟨value, rest, h⟩ : ∃ value rest, firstRun isNumeralChar line = (value, rest) :=
    ⟨_, _, rfl⟩
  have htime : TimeOn line time ↔ value ≠ [] ∧ ∃ d, numeral? value = some d ∧
      time = d.toBinary64 false * (unitBehind rest).milliseconds := by
    simp only [TimeOn, isFirstRun_iff, h, numeral?_eq_some_iff]
    constructor
    · rintro ⟨_, _, d, ⟨hpair, hne⟩, hd, htime⟩
      cases hpair
      exact ⟨hne, d, hd, htime⟩
    · rintro ⟨hne, d, hd, htime⟩
      exact ⟨value, rest, d, ⟨rfl, hne⟩, hd, htime⟩
  rw [htime, durationOf, h]
  simp only
  by_cases hne : value = []
  · simp [hne]
  · cases hd : numeral? value with
    | none => simp [hne]
    | some d =>
      simp only [hne, if_false, Except.ok.injEq, ne_eq, not_false_eq_true, true_and,
        Option.some.injEq, exists_eq_left']
      exact eq_comm

theorem timeOnLine_eq_ok_iff {line : List Char} {time : Binary64} :
    timeOnLine line = .ok time ↔ TimeOn line time := by
  rw [← durationOf_eq_ok_iff]
  unfold timeOnLine
  split
  · rename_i t ht
    simp [ht]
  · rename_i ht
    simp [ht]
  · rename_i ht
    simp [ht]

end CutAndChoose
