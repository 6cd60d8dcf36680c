import TaskAudit.Verdict

/-!
# Combined verdicts

A verdict is consistent if it passes exactly when it has no errors. Combining consistent verdicts
gives a consistent one, which passes exactly when all of them do.
-/

namespace TaskAudit.Verdict

def IsConsistent (v : Verdict) : Prop := v.valid = v.errors.isEmpty

theorem isConsistent_ofIssues (issues : List Issue) : (ofIssues issues).IsConsistent := rfl

theorem valid_ofIssues_iff (issues : List Issue) :
    (ofIssues issues).valid = true ↔ ∀ i ∈ issues, i.isWarning = true := by
  rw [isConsistent_ofIssues, List.isEmpty_iff]
  simp [ofIssues, ofLists]

theorem IsConsistent.errors_eq_nil {v : Verdict} (h : v.IsConsistent) (hvalid : v.valid = true) :
    v.errors = [] := by
  rw [IsConsistent, hvalid] at h
  exact List.isEmpty_iff.1 h.symm

theorem errors_combine (vs : List Verdict) : (combine vs).errors = vs.flatMap (·.errors) := by
  match vs with
  | [] => rfl
  | [v] => simp [combine]
  | v :: w :: rest => rfl

theorem warnings_combine (vs : List Verdict) : (combine vs).warnings = vs.flatMap (·.warnings) := by
  match vs with
  | [] => rfl
  | [v] => simp [combine]
  | v :: w :: rest => rfl

/-- Whatever the verdicts are, combining them hides no failure. -/
theorem valid_of_valid_combine {vs : List Verdict} (h : (combine vs).valid = true) :
    ∀ v ∈ vs, v.valid = true := by
  match vs with
  | [] => simp
  | [v] => simpa [combine] using h
  | v :: w :: rest =>
      simp only [combine, Bool.and_eq_true, List.all_eq_true] at h
      exact h.1

theorem valid_combine_iff {vs : List Verdict} (h : ∀ v ∈ vs, v.IsConsistent) :
    (combine vs).valid = true ↔ ∀ v ∈ vs, v.valid = true := by
  refine ⟨valid_of_valid_combine, fun hvalid => ?_⟩
  match vs with
  | [] => rfl
  | [v] => simpa [combine] using hvalid
  | v :: w :: rest =>
      simp only [combine, Bool.and_eq_true, List.all_eq_true]
      refine ⟨hvalid, ?_⟩
      rw [List.isEmpty_iff, List.flatMap_eq_nil_iff]
      exact fun u hu => (h u hu).errors_eq_nil (hvalid u hu)

structure IsClean (v : Verdict) : Prop where
  valid : v.valid = true
  errors : v.errors = []
  warnings : v.warnings = []

theorem isClean_ofIssues_nil : (ofIssues []).IsClean := ⟨rfl, rfl, rfl⟩

theorem isClean_passed (taskCount : Int) : (passed [] taskCount).IsClean := ⟨rfl, rfl, rfl⟩

theorem isClean_combine {vs : List Verdict} (h : ∀ v ∈ vs, v.IsClean) : (combine vs).IsClean where
  valid := by
    have hconsistent : ∀ v ∈ vs, v.IsConsistent := by
      intro v hv
      rw [IsConsistent, (h v hv).valid, (h v hv).errors]
      rfl
    exact (valid_combine_iff hconsistent).2 fun v hv => (h v hv).valid
  errors := by
    rw [errors_combine, List.flatMap_eq_nil_iff]
    exact fun v hv => (h v hv).errors
  warnings := by
    rw [warnings_combine, List.flatMap_eq_nil_iff]
    exact fun v hv => (h v hv).warnings

end TaskAudit.Verdict
