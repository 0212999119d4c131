import Mathlib

/-!
# CutAndChoose.Proofs.Except

When a computation that can fail succeeds, and when it fails. Rewriting with these lemmas turns
`x = .ok a`, for `x` written in `do` notation, into the list of its conditions, in the order in
which they are checked, and `x = .error e` into the cases of the first one that is violated.
-/

namespace CutAndChoose

universe u v w

variable {ε : Type u} {ε' : Type w} {α β : Type v}

@[simp] theorem bind_eq_ok_iff {x : Except ε α} {f : α → Except ε β} {b : β} :
    (x >>= f) = .ok b ↔ ∃ a, x = .ok a ∧ f a = .ok b := by
  cases x with
  | error e => simp [bind, Except.bind]
  | ok a => simp [bind, Except.bind]

@[simp] theorem pure_eq_ok_iff {a b : α} : (pure a : Except ε α) = .ok b ↔ a = b := by
  rw [show (pure a : Except ε α) = .ok a from rfl, Except.ok.injEq]

@[simp] theorem throw_ne_ok {e : ε} {a : α} : (throw e : Except ε α) ≠ .ok a := by
  intro h
  cases h

@[simp] theorem ok_bind {a : α} {f : α → Except ε β} : (Except.ok a >>= f) = f a := rfl

@[simp] theorem throw_bind {e : ε} {f : α → Except ε β} : (throw e >>= f) = throw e := rfl

/-- A refusal lets pass exactly what it does not refuse. -/
@[simp] theorem refuse_eq_ok_iff {p : Prop} [Decidable p] {e : ε} {next : Except ε α} {a : α} :
    (if p then throw e else next) = .ok a ↔ ¬p ∧ next = .ok a := by
  by_cases h : p
  · simp [h]
  · simp [h]

/-- In two steps the first fails, or the second behind the result of the first. -/
theorem bind_eq_error_iff {x : Except ε α} {f : α → Except ε β} {e : ε} :
    (x >>= f) = .error e ↔ x = .error e ∨ ∃ a, x = .ok a ∧ f a = .error e := by
  cases x with
  | error e' => simp [bind, Except.bind]
  | ok a => simp [bind, Except.bind]

theorem pure_ne_error {a : α} {e : ε} : (pure a : Except ε α) ≠ .error e := by
  intro h
  cases h

theorem refuse_eq_error_iff {p : Prop} [Decidable p] {e e' : ε} {next : Except ε α} :
    (if p then throw e else next) = .error e' ↔ p ∧ e = e' ∨ ¬p ∧ next = .error e' := by
  by_cases h : p
  · simp [h, throw, throwThe, MonadExceptOf.throw]
  · simp [h]

@[simp] theorem mapError_eq_ok_iff {x : Except ε α} {f : ε → ε'} {a : α} :
    x.mapError f = .ok a ↔ x = .ok a := by
  cases x with
  | error e => simp [Except.mapError]
  | ok b => simp [Except.mapError]

theorem mapError_eq_error_iff {x : Except ε α} {f : ε → ε'} {e : ε'} :
    x.mapError f = .error e ↔ ∃ e', x = .error e' ∧ f e' = e := by
  cases x with
  | error e' => simp [Except.mapError]
  | ok b => simp [Except.mapError]

end CutAndChoose
