import Mathlib
import CutAndChoose.Proofs.Text.Lines
import CutAndChoose.Proofs.Text.Trim
import CutAndChoose.Text.Pad

/-!
# CutAndChoose.Proofs.Text.Columns

Columns of a line of a table, as a reader sees them: what the blanks leave.

* `columns`: the pieces of a line between its blanks.
* `IsColumn.columns_alignRight`, `IsColumn.columns_alignRight_blank`: a text that is aligned to the
  right is one column, even where it is wider than its column should be.
-/

namespace CutAndChoose

/-- Pieces of a line between its blanks, without the empty ones. -/
def columns (line : List Char) : List (List Char) :=
  (line.splitOnP isBlank).filter (· ≠ [])

/-- A text that fills exactly one column. -/
structure IsColumn (s : List Char) : Prop where
  ne_nil : s ≠ []
  noBlank : ∀ c ∈ s, isBlank c = false

theorem not_isBlank_of_isDigit {c : Char} (h : c.isDigit = true) : isBlank c = false := by
  simp only [Char.isDigit, Bool.and_eq_true, decide_eq_true_eq, ge_iff_le, UInt32.le_iff_toNat_le]
    at h
  obtain ⟨hlow, hhigh⟩ := h
  change 48 ≤ c.toNat at hlow
  change c.toNat ≤ 57 at hhigh
  simp [isBlank]
  omega

section Columns

variable {c : Char} {s : List Char}

theorem IsColumn.isInner (h : IsColumn s) : ∀ c ∈ s, IsInner c := by
  intro c hc
  have hblank := h.noBlank c hc
  constructor
  · rintro rfl
    cases hblank
  · rintro rfl
    cases hblank

theorem columns_cons_blank (h : isBlank c = true) (rest : List Char) :
    columns (c :: rest) = columns rest := by
  rw [columns, ← List.nil_append (c :: rest), List.splitOnP_append_cons [] rest h]
  simp [columns]

theorem columns_replicate (k : ℕ) (rest : List Char) :
    columns (List.replicate k ' ' ++ rest) = columns rest := by
  induction k with
  | zero => rfl
  | succ k ih => rw [List.replicate_succ, List.cons_append, columns_cons_blank rfl, ih]

theorem IsColumn.columns_eq (h : IsColumn s) : columns s = [s] := by
  rw [columns, List.splitOnP_eq_singleton h.noBlank]
  simp [h.ne_nil]

theorem IsColumn.columns_append (h : IsColumn s) (hc : isBlank c = true) (rest : List Char) :
    columns (s ++ c :: rest) = s :: columns rest := by
  rw [columns, List.splitOnP_append_cons s rest hc, List.filter_append, ← columns, ← columns,
    h.columns_eq, List.singleton_append]

theorem IsColumn.columns_alignRight (h : IsColumn s) (width : ℕ) :
    columns (alignRight width s) = [s] := by
  rw [alignRight, columns_replicate, h.columns_eq]

theorem IsColumn.columns_alignRight_blank (h : IsColumn s) (width : ℕ) (rest : List Char) :
    columns (alignRight width s ++ ' ' :: rest) = s :: columns rest := by
  rw [alignRight, List.append_assoc, columns_replicate, h.columns_append rfl]

/-- Blanks are put in front of a text, but no line endings. -/
theorem isInner_alignRight (h : ∀ c ∈ s, IsInner c) (width : ℕ) :
    ∀ c ∈ alignRight width s, IsInner c := by
  intro c hc
  rcases List.mem_append.1 hc with hc | hc
  · rw [List.eq_of_mem_replicate hc]
    simp [IsInner]
  · exact h c hc

end Columns

end CutAndChoose
