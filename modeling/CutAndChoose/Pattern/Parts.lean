/-!
# CutAndChoose.Pattern.Parts

How deeply a pattern is nested, counted while it is read. A character has depth zero. A group, a
repetition and a class are one deeper than what they hold. So is a whole of several parts, while a
single part is the whole.
-/

namespace CutAndChoose.Pattern

/-- The parts of a whole: how many there are, and the depth of the deepest. -/
structure Parts where
  count : Nat
  deepest : Nat
  deriving DecidableEq

namespace Parts

def empty : Parts := ⟨0, 0⟩

def add (p : Parts) (depth : Nat) : Parts := ⟨p.count + 1, Nat.max p.deepest depth⟩

def deepen (p : Parts) (depth : Nat) : Parts := { p with deepest := Nat.max p.deepest depth }

def depth (p : Parts) : Nat := if p.count ≤ 1 then p.deepest else p.deepest + 1

end Parts

end CutAndChoose.Pattern
