import CutAndChoose.Failure

/-!
# CutAndChoose.Search.Sweep

Half-open stepped ranges: `start, start + step, …` below `stop`.

* `Sweep.values`: the visited values, in increasing order.
* `Sweep.size`, `last?`: their number and the largest, without listing them.
* `Sweep.check`: the range visits something and advances.

A step of zero counts as one when a range is walked; `check` refuses it.
-/

namespace CutAndChoose

structure Sweep where
  start : UInt32
  stop : UInt32
  step : UInt32
  deriving DecidableEq

namespace Sweep

/-- The distance between visited values. -/
def stride (s : Sweep) : Nat := max s.step.toNat 1

/-- Number of visited values: the span over the stride, rounded up. -/
def size (s : Sweep) : Nat :=
  (s.stop.toNat - s.start.toNat + (s.stride - 1)) / s.stride

def isEmpty (s : Sweep) : Bool := s.size = 0

def nth (s : Sweep) (i : Nat) : UInt32 := UInt32.ofNat (s.start.toNat + i * s.stride)

/-- The first `k` visited values, or all if there are fewer. -/
def first (s : Sweep) (k : Nat) : List UInt32 := (List.range (min k s.size)).map s.nth

def values (s : Sweep) : List UInt32 := (List.range s.size).map s.nth

def last? (s : Sweep) : Option UInt32 :=
  if s.size = 0 then none else some (s.nth (s.size - 1))

theorem stride_pos (s : Sweep) : 0 < s.stride := by
  unfold stride
  omega

theorem length_values (s : Sweep) : s.values.length = s.size := by
  simp [values]

theorem first_eq_take (s : Sweep) (k : Nat) : s.first k = s.values.take k := by
  simp only [first, values, ← List.map_take, List.take_range]

/-- Of a range that is too long to list. -/
example : (⟨0, 4294967295, 2⟩ : Sweep).values.take 3 = [0, 2, 4] := by
  rw [← first_eq_take]
  decide

/-- The last value is the one at the end of the list of all values. -/
theorem last?_eq_getLast? (s : Sweep) : s.last? = s.values.getLast? := by
  unfold last? values
  cases s.size with
  | zero => rfl
  | succ k => simp [List.range_succ]

inductive Fault where
  | zeroStep (label : String)
  | noValues (label : String) (sweep : Sweep)
  deriving DecidableEq

namespace Fault

def message : Fault → String
  | zeroStep label => s!"{label} step must be > 0."
  | noValues label s =>
    s!"Invalid {label} range: start={s.start.toNat} end={s.stop.toNat} (must have start < end)."

def failure (f : Fault) : Failure := .input f.message

end Fault

def check (s : Sweep) (label : String) : Except Fault Unit :=
  if s.step = 0 then .error (.zeroStep label)
  else if s.start < s.stop then .ok ()
  else .error (.noValues label s)

end Sweep

end CutAndChoose
