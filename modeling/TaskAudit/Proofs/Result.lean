/-!
# Results

What is known of the parts of a computation from the value that it comes to, or from how it fails.
-/

namespace TaskAudit

variable {ε ε' α β : Type} {x : Except ε α} {e : ε} {a : α}

theorem ok_ne_error (a : α) : (.ok a : Except ε α) ≠ .error e := by simp

theorem eq_ok_of_toOption (h : x.toOption = some a) : x = .ok a := by
  cases x with
  | error found => simp [Except.toOption] at h
  | ok b => rw [Option.some.inj h]

def fault? : Except ε α → Option ε
  | .ok _ => none
  | .error fault => some fault

theorem eq_error_of_fault? (h : fault? x = some e) : x = .error e := by
  cases x with
  | error found => rw [Option.some.inj h]
  | ok a => simp [fault?] at h

theorem bind_eq_ok_iff {f : α → Except ε β} {b : β} :
    x >>= f = .ok b ↔ ∃ a, x = .ok a ∧ f a = .ok b := by
  cases x <;> simp [bind, Except.bind]

theorem bind_eq_error_iff {f : α → Except ε β} :
    x >>= f = .error e ↔ x = .error e ∨ ∃ a, x = .ok a ∧ f a = .error e := by
  cases x <;> simp [bind, Except.bind]

theorem map_eq_ok_iff {f : α → β} {b : β} : x.map f = .ok b ↔ ∃ a, x = .ok a ∧ f a = b := by
  cases x <;> simp [Except.map]

theorem map_eq_error_iff {f : α → β} : x.map f = .error e ↔ x = .error e := by
  cases x <;> simp [Except.map]

@[simp] theorem mapError_ok (f : ε → ε') : (.ok a : Except ε α).mapError f = .ok a := rfl

@[simp] theorem mapError_error (f : ε → ε') :
    (.error e : Except ε α).mapError f = .error (f e) := rfl

theorem mapError_eq_ok_iff {f : ε → ε'} : x.mapError f = .ok a ↔ x = .ok a := by
  cases x <;> simp

end TaskAudit
