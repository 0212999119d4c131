import Mathlib
import CutAndChoose.Text.Lines

/-!
# CutAndChoose.Proofs.Text.Lines

How a text falls into lines. Two equations say it all, for a piece of text without a line feed:

* `textLines_line`: with a line feed behind it the piece is the first line, less the carriage return
  at its end, and the lines of the rest follow.
* `textLines_last`: with nothing behind it the piece is the only line, as it stands, unless it is
  empty.

`text_induction` takes any text apart in these two ways. So the lines of whole lines and of what
follows them are the lines of both (`textLines_append`), and lines that are put into a text come
back (`textLines_endedLines`).
-/

namespace CutAndChoose

def lineEndings : List (List Char) := [['\n'], ['\r', '\n']]

/-- A line without the carriage return at its end, if there is one. -/
def withoutReturn : List Char → List Char
  | [] => []
  | ['\r'] => []
  | c :: line => c :: withoutReturn line

section Lines

variable {c : Char} {current line rest : List Char}

theorem withoutReturn_cons (h : line ≠ []) : withoutReturn (c :: line) = c :: withoutReturn line := by
  cases line with
  | nil => exact absurd rfl h
  | cons d line => simp [withoutReturn]

theorem withoutReturn_singleton (h : c ≠ '\r') : withoutReturn [c] = [c] := by
  simp [withoutReturn, h]

theorem withoutReturn_prefix_self (line : List Char) : withoutReturn line <+: line := by
  fun_induction withoutReturn line with
  | case1 => exact List.prefix_rfl
  | case2 => exact List.nil_prefix
  | case3 c line _ ih => exact (List.prefix_cons_inj c).2 ih

/-- Only a carriage return at the end is taken off. -/
theorem withoutReturn_of_getLast? (h : line.getLast? ≠ some '\r') : withoutReturn line = line := by
  fun_induction withoutReturn line with
  | case1 => rfl
  | case2 => exact absurd rfl h
  | case3 c line hc ih =>
    cases line with
    | nil => rfl
    | cons d line =>
      rw [List.getLast?_cons_cons] at h
      rw [ih h]

theorem withoutReturn_cases (line : List Char) :
    line = withoutReturn line ∨ line = withoutReturn line ++ ['\r'] := by
  fun_induction withoutReturn line with
  | case1 => exact .inl rfl
  | case2 => exact .inr rfl
  | case3 c line _ ih => exact ih.imp (congrArg (c :: ·)) (congrArg (c :: ·))

theorem withoutReturn_append_return (line : List Char) : withoutReturn (line ++ ['\r']) = line := by
  induction line with
  | nil => rfl
  | cons c line ih => rw [List.cons_append, withoutReturn_cons (by simp), ih]

/-- A character that ends no line, not even together with the next one, is put on the open line. -/
theorem linesFrom_cons (hfeed : c ≠ '\n') (hreturn : c = '\r' → rest.head? ≠ some '\n') :
    linesFrom current (c :: rest) = linesFrom (c :: current) rest := by
  rw [linesFrom]
  · exact hfeed
  · rintro tail rfl rfl
    exact hreturn rfl rfl

/-- By induction on the piece, for any open line in front of it. -/
theorem linesFrom_line (h : '\n' ∉ line) :
    linesFrom current (line ++ '\n' :: rest) =
      (current.reverse ++ withoutReturn line) :: linesFrom [] rest := by
  induction line generalizing current with
  | nil => simp [linesFrom, withoutReturn]
  | cons c line ih =>
    have hfeed : c ≠ '\n' := Ne.symm (List.ne_of_not_mem_cons h)
    have hline : '\n' ∉ line := List.not_mem_of_not_mem_cons h
    cases line with
    | nil =>
      by_cases hreturn : c = '\r'
      · simp [hreturn, linesFrom, withoutReturn]
      · rw [List.singleton_append, linesFrom_cons hfeed (absurd · hreturn),
          withoutReturn_singleton hreturn]
        simp [linesFrom]
    | cons d line =>
      have hd : d ≠ '\n' := Ne.symm (List.ne_of_not_mem_cons hline)
      rw [List.cons_append, linesFrom_cons hfeed (by simp [hd]), ih hline,
        withoutReturn_cons (List.cons_ne_nil d line)]
      simp

theorem linesFrom_last (h : '\n' ∉ line) :
    linesFrom current line =
      if current = [] ∧ line = [] then [] else [current.reverse ++ line] := by
  induction line generalizing current with
  | nil => simp [linesFrom]
  | cons c line ih =>
    have hline : '\n' ∉ line := List.not_mem_of_not_mem_cons h
    have hnext : c = '\r' → line.head? ≠ some '\n' := fun _ hhead =>
      hline (List.mem_of_head? hhead)
    rw [linesFrom_cons (Ne.symm (List.ne_of_not_mem_cons h)) hnext, ih hline]
    simp

/-- A line feed ends the first line, and a carriage return in front of it belongs to the ending. -/
theorem textLines_line (h : '\n' ∉ line) :
    textLines (line ++ '\n' :: rest) = withoutReturn line :: textLines rest :=
  linesFrom_line h

/-- What stands behind the last line feed is a line if it is not empty. -/
theorem textLines_last (h : '\n' ∉ line) : textLines line = if line = [] then [] else [line] := by
  rw [textLines, linesFrom_last h]
  simp

/-- Either ending closes a line. A line feed alone takes along a carriage return in front of it. -/
theorem textLines_ending {ending : List Char} (hending : ending ∈ lineEndings) (h : '\n' ∉ line) :
    textLines (line ++ (ending ++ rest)) = withoutReturn line :: textLines rest ∨
      textLines (line ++ (ending ++ rest)) = line :: textLines rest := by
  simp only [lineEndings, List.mem_cons, List.not_mem_nil, or_false] at hending
  rcases hending with rfl | rfl
  · rw [List.singleton_append, textLines_line h]
    exact .inl rfl
  · have hfeed : '\n' ∉ line ++ ['\r'] := by simp [h]
    rw [List.cons_append, List.singleton_append, List.append_cons, textLines_line hfeed,
      withoutReturn_append_return]
    exact .inr rfl

end Lines

/-- A line that comes back as it is when the lines of a text are taken apart. -/
def IsWhole (line : List Char) : Prop := '\n' ∉ line ∧ withoutReturn line = line

/-- A character that no line ending has. -/
def IsInner (c : Char) : Prop := c ≠ '\n' ∧ c ≠ '\r'

theorem isWhole_of_isInner {line : List Char} (h : ∀ c ∈ line, IsInner c) : IsWhole line := by
  refine ⟨fun hfeed => (h _ hfeed).1 rfl, withoutReturn_of_getLast? fun hlast => ?_⟩
  exact (h _ (List.mem_of_getLast? hlast)).2 rfl

/-! ## Texts line by line -/

/-- A text is a piece without a line feed, or such a piece in front of a line feed and a text. -/
@[elab_as_elim]
theorem text_induction {P : List Char → Prop} (last : ∀ line, '\n' ∉ line → P line)
    (line : ∀ line rest, '\n' ∉ line → P rest → P (line ++ '\n' :: rest)) (text : List Char) :
    P text := by
  induction hlength : text.length using Nat.strongRecOn generalizing text with
  | ind n ih =>
    by_cases hfeed : '\n' ∈ text
    · obtain ⟨front, rest, rfl, hfront⟩ := List.eq_append_cons_of_mem hfeed
      refine line front rest hfront (ih rest.length ?_ rest rfl)
      rw [← hlength, List.length_append, List.length_cons]
      omega
    · exact last text hfeed

/-- The text consists of whole lines, each with its ending. -/
def IsEnded (text : List Char) : Prop := ∀ c ∈ text.getLast?, c = '\n'

section Texts

variable {c : Char} {line front back rest : List Char}

theorem getLast?_line (h : rest.getLast? = some c) : (line ++ '\n' :: rest).getLast? = some c := by
  rw [List.getLast?_append, List.getLast?_cons, h]
  rfl

theorem IsEnded.eq_nil (h : IsEnded line) (hline : '\n' ∉ line) : line = [] := by
  rw [← List.getLast?_eq_none_iff, Option.eq_none_iff_forall_not_mem]
  intro c hc
  cases h c hc
  exact hline (List.mem_of_getLast? hc)

theorem IsEnded.of_line (h : IsEnded (line ++ '\n' :: rest)) : IsEnded rest :=
  fun c hc => h c (getLast?_line hc)

theorem textLines_append (h : IsEnded front) :
    textLines (front ++ back) = textLines front ++ textLines back := by
  induction front using text_induction with
  | last line hline =>
    cases h.eq_nil hline
    rfl
  | line line rest hline ih =>
    rw [List.append_assoc, List.cons_append, textLines_line hline, textLines_line hline,
      ih h.of_line, List.cons_append]

theorem length_textLines (h : IsEnded front) : (textLines front).length = front.count '\n' := by
  induction front using text_induction with
  | last line hline =>
    cases h.eq_nil hline
    rfl
  | line line rest hline ih =>
    rw [textLines_line hline, List.length_cons, ih h.of_line, List.count_append,
      List.count_cons_self, List.count_eq_zero.2 hline, Nat.zero_add]

/-- The text of these lines, each with a line feed. -/
def endedLines (lines : List (List Char)) : List Char := lines.flatMap (· ++ ['\n'])

theorem endedLines_cons (line : List Char) (lines : List (List Char)) :
    endedLines (line :: lines) = line ++ '\n' :: endedLines lines := by
  rw [endedLines, List.flatMap_cons, List.append_assoc, List.singleton_append, ← endedLines]

theorem textLines_endedLines {lines : List (List Char)} (h : ∀ line ∈ lines, IsWhole line) :
    textLines (endedLines lines) = lines := by
  induction lines with
  | nil => rfl
  | cons line lines ih =>
    obtain ⟨⟨hfeed, hreturn⟩, hlines⟩ := List.forall_mem_cons.1 h
    rw [endedLines_cons, textLines_line hfeed, hreturn, ih hlines]

end Texts

end CutAndChoose
