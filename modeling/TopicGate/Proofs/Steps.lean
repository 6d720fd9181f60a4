/-!
# Steps that may fail

When a sequence of steps, each of which may fail, succeeds: a check passes if what it refuses is not
there, and a sequence if each of its steps does.
-/

namespace TopicGate.Steps

universe u v w

variable {ε : Type u} {ε' : Type w} {α β : Type v}

/-- Two steps succeed if the first does, and then the second on its result. -/
@[simp] theorem bind_eq_ok_iff {x : Except ε α} {next : α → Except ε β} {b : β} :
    (x >>= next) = .ok b ↔ ∃ a, x = .ok a ∧ next a = .ok b := by
  cases x <;> simp [bind, Except.bind]

/-- A step without a result before another one. -/
theorem then_eq_ok_iff {x : Except ε PUnit} {next : PUnit → Except ε α} {a : α} :
    (x >>= next) = .ok a ↔ x = .ok ⟨⟩ ∧ next ⟨⟩ = .ok a := by
  cases x <;> simp [bind, Except.bind]

@[simp] theorem pure_eq_ok_iff {a b : α} : (pure a : Except ε α) = .ok b ↔ a = b := by
  simp [pure, Except.pure]

@[simp] theorem mapError_ok {f : ε → ε'} {a : α} : (Except.ok a).mapError f = .ok a := rfl

@[simp] theorem mapError_error {f : ε → ε'} {e : ε} :
    (Except.error e : Except ε α).mapError f = .error (f e) := rfl

@[simp] theorem mapError_eq_ok_iff {x : Except ε α} {f : ε → ε'} {a : α} :
    x.mapError f = .ok a ↔ x = .ok a := by
  cases x <;> simp

@[simp] theorem throw_ne_ok {e : ε} {a : α} : (throw e : Except ε α) ≠ .ok a := by
  simp [throw, throwThe, MonadExceptOf.throw]

/-- A check before further steps. -/
theorem check_eq_ok_iff {refused : Prop} [Decidable refused] {e : ε} {rest : Except ε α} {a : α}
    {next : PUnit → Except ε α} :
    (if refused then throw e >>= next else rest) = .ok a ↔ ¬refused ∧ rest = .ok a := by
  by_cases h : refused <;> simp [h]

/-- A check at the end. -/
theorem check_last_eq_ok_iff {refused : Prop} [Decidable refused] {e : ε} {u : PUnit} :
    (if refused then throw e else pure () : Except ε PUnit) = .ok u ↔ ¬refused := by
  by_cases h : refused <;> simp [h]

end TopicGate.Steps
