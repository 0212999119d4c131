import Mathlib
import CutAndChoose.Proofs.Text.Run
import CutAndChoose.Text.Blank

/-!
# CutAndChoose.Proofs.Text.Trim

Trimming takes the blanks off both ends of a text and nothing else. `trimBlanks_eq_iff` says so
without saying how: what is left has no blank at its ends, and only blanks stood around it.
-/

namespace CutAndChoose

def AllBlank (s : List Char) : Prop := ∀ c ∈ s, isBlank c = true

/-- The first character is not blank, and neither is the last. -/
def IsTrimmed (s : List Char) : Prop :=
  (∀ c ∈ s.head?, isBlank c = false) ∧ ∀ c ∈ s.getLast?, isBlank c = false

section Trim

variable {s t before after : List Char}

theorem allBlank_append : AllBlank (s ++ t) ↔ AllBlank s ∧ AllBlank t := List.forall_mem_append

theorem AllBlank.reverse (h : AllBlank s) : AllBlank s.reverse :=
  fun c hc => h c (List.mem_reverse.1 hc)

theorem not_isBlank_head_dropWhile (s : List Char) :
    ∀ c ∈ (s.dropWhile isBlank).head?, isBlank c = false := by
  intro c hc
  have hhead := List.head?_dropWhile_not isBlank s
  rw [Option.mem_def.1 hc] at hhead
  simpa using hhead

theorem allBlank_takeWhile (s : List Char) : AllBlank (s.takeWhile isBlank) :=
  fun _ hc => List.mem_takeWhile_imp hc

/-- What trimming takes off in front, what it leaves, and what it takes off behind. -/
theorem exists_blanks_around (s : List Char) : IsTrimmed (trimBlanks s) ∧
    ∃ before after, s = before ++ (trimBlanks s ++ after) ∧ AllBlank before ∧ AllBlank after := by
  let after := ((s.dropWhile isBlank).reverse.takeWhile isBlank).reverse
  have hafter : AllBlank after := (allBlank_takeWhile _).reverse
  have hback : s.dropWhile isBlank = trimBlanks s ++ after := by
    rw [trimBlanks, ← List.reverse_append, List.takeWhile_append_dropWhile, List.reverse_reverse]
  have htrimmed : IsTrimmed (trimBlanks s) := by
    constructor
    · intro c hc
      refine not_isBlank_head_dropWhile s c ?_
      rw [hback, List.head?_append, Option.mem_def.1 hc]
      rfl
    · intro c hc
      rw [trimBlanks, List.getLast?_reverse] at hc
      exact not_isBlank_head_dropWhile _ c hc
  refine ⟨htrimmed, s.takeWhile isBlank, after, ?_, allBlank_takeWhile s, hafter⟩
  rw [← hback, List.takeWhile_append_dropWhile]

theorem trimBlanks_of_around (htrimmed : IsTrimmed t) (hbefore : AllBlank before)
    (hafter : AllBlank after) : trimBlanks (before ++ (t ++ after)) = t := by
  by_cases hnil : t = []
  · have hblank : AllBlank (before ++ after) := allBlank_append.2 ⟨hbefore, hafter⟩
    rw [hnil, List.nil_append, trimBlanks, List.dropWhile_eq_nil_iff.2 hblank]
    rfl
  · have hfront : (before ++ (t ++ after)).dropWhile isBlank = t ++ after := by
      refine dropWhile_run hbefore ?_
      rw [List.head?_append_of_ne_nil _ hnil]
      exact htrimmed.1
    have hback : (after.reverse ++ t.reverse).dropWhile isBlank = t.reverse := by
      refine dropWhile_run hafter.reverse ?_
      rw [List.head?_reverse]
      exact htrimmed.2
    rw [trimBlanks, hfront, List.reverse_append, hback, List.reverse_reverse]

theorem trimBlanks_eq_iff : trimBlanks s = t ↔ IsTrimmed t ∧
    ∃ before after, s = before ++ (t ++ after) ∧ AllBlank before ∧ AllBlank after := by
  constructor
  · rintro rfl
    exact exists_blanks_around s
  · rintro ⟨htrimmed, before, after, rfl, hbefore, hafter⟩
    exact trimBlanks_of_around htrimmed hbefore hafter

theorem trimBlanks_eq_nil_iff : trimBlanks s = [] ↔ AllBlank s := by
  rw [trimBlanks_eq_iff]
  constructor
  · rintro ⟨-, before, after, rfl, hbefore, hafter⟩
    exact allBlank_append.2 ⟨hbefore, hafter⟩
  · intro h
    exact ⟨⟨by simp, by simp⟩, s, [], by simp, h, by simp [AllBlank]⟩

/-- Blanks at the end of a text do not count. -/
theorem trimBlanks_append (h : AllBlank after) : trimBlanks (s ++ after) = trimBlanks s := by
  obtain ⟨htrimmed, before, behind, hs, hbefore, hbehind⟩ := exists_blanks_around s
  rw [trimBlanks_eq_iff]
  refine ⟨htrimmed, before, behind ++ after, ?_, hbefore, allBlank_append.2 ⟨hbehind, h⟩⟩
  nth_rewrite 1 [hs]
  simp only [List.append_assoc]

end Trim

end CutAndChoose
