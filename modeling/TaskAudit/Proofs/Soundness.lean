import TaskAudit.Audit
import TaskAudit.Proofs.Closure
import TaskAudit.Proofs.Dependencies
import TaskAudit.Proofs.Pipeline
import TaskAudit.Proofs.Provenance

/-!
# What single checks say

Each check that passes a task says something about it: that its fields are in order, that it is the
first entry with its id, that it lies on no cycle. The check of references says that all names used
are defined.
-/

namespace TaskAudit

/-- A task's rating is of the policy's form. -/
def Task.IsRated (policy : Policy) (t : Task) : Prop :=
  ∃ rating, t.rating = some rating ∧ policy.ratingPattern.accepts (Text.trimmed rating) = true

/-! ### Lists of issues that hold no error -/

def NoErrors (issues : List Issue) : Prop := ∀ i ∈ issues, i.isWarning = true

namespace NoErrors

variable {issues more : List Issue} {i : Issue} {p : Prop} [Decidable p]

theorem append_iff : NoErrors (issues ++ more) ↔ NoErrors issues ∧ NoErrors more :=
  List.forall_mem_append

theorem not_singleton (hi : i.isWarning = false) : ¬ NoErrors [i] := by
  simp [NoErrors, hi]

theorem of_ite_nil (hi : i.isWarning = false) (h : NoErrors (if p then [] else [i])) : p := by
  by_cases hp : p
  · exact hp
  · rw [if_neg hp] at h
    exact absurd h (not_singleton hi)

theorem not_of_ite_singleton (hi : i.isWarning = false) (h : NoErrors (if p then [i] else [])) :
    ¬ p := by
  intro hp
  rw [if_pos hp] at h
  exact not_singleton hi h

end NoErrors

/-! ### Single checks -/

namespace Check

def Passes (c : Check) (t : Task) (scope : Scope) : Prop :=
  ∃ v, c.run t scope = .ok v ∧ v.valid = true

section Single

variable {c : Check} {t u : Task} {scope : Scope} {policy : Policy}

theorem Passes.of_toOption (h : (c.run t scope).toOption.map (·.valid) = some true) :
    c.Passes t scope := by
  obtain ⟨v, hv, hvalid⟩ := Option.map_eq_some_iff.1 h
  exact ⟨v, eq_ok_of_toOption hv, hvalid⟩

/-- A check that comes to the verdict of a list of issues passes only without errors. -/
theorem Passes.noErrors {issues : List Issue} (h : c.Passes t scope)
    (hrun : c.run t scope = .ok (.ofIssues issues)) : NoErrors issues := by
  obtain ⟨v, hv, hvalid⟩ := h
  rw [hrun, Except.ok.injEq] at hv
  rw [← hv] at hvalid
  exact (Verdict.valid_ofIssues_iff _).1 hvalid

theorem Category.exists_range_of_passes (hmain : t.isMain = true)
    (h : Check.category.Passes t scope) :
    ∃ n, TaskId.number? t.id = some n ∧
      ∃ entry ∈ scope.policy.categoryRanges.entries, entry.2.contains n = true := by
  have hclean : NoErrors (Category.issues t scope) := h.noErrors rfl
  have hsubtask : t.isSubtask = false := by
    simp only [Task.isMain, decide_eq_true_eq] at hmain
    simp [Task.isSubtask, hmain]
  simp only [Category.issues] at hclean
  cases hnumber : TaskId.number? t.id with
  | none =>
      simp only [hnumber, hsubtask] at hclean
      exact absurd hclean (NoErrors.not_singleton rfl)
  | some n =>
      refine ⟨n, rfl, ?_⟩
      cases hcategory : scope.policy.categoryOf? n with
      | none =>
          simp only [hnumber, hcategory] at hclean
          exact absurd hclean (NoErrors.not_singleton rfl)
      | some category =>
          obtain ⟨entry, hfind, -⟩ := Option.map_eq_some_iff.1 hcategory
          exact ⟨entry, List.mem_of_find?_eq_some hfind, by simpa using List.find?_some hfind⟩

theorem Status.isRated_of_noErrors (h : NoErrors (Status.ratingIssues policy t))
    (hcompleted : t.isCompleted = true) : t.IsRated policy := by
  simp only [Status.ratingIssues, hcompleted, Bool.not_true, Bool.false_eq_true, if_false] at h
  cases hrating : t.rating with
  | none =>
      simp only [hrating] at h
      exact absurd h (NoErrors.not_singleton rfl)
  | some rating =>
      simp only [hrating] at h
      exact ⟨rating, hrating, NoErrors.of_ite_nil rfl h⟩

/-- What the check of statuses says about a main task. -/
structure Status.Sound (policy : Policy) (t : Task) : Prop where
  status : t.status ∈ policy.statuses
  priority : ∀ priority, t.priority = some priority → priority ∈ policy.priorities
  progress : t.status = Task.inProgressStatus → t.subtasks ≠ []
  rated : t.isCompleted = true → t.IsRated policy

theorem Status.sound_of_passes (hmain : t.isMain = true) (h : Check.status.Passes t scope) :
    Status.Sound scope.policy t := by
  have hclean : NoErrors (Status.issues t scope) := h.noErrors rfl
  simp only [Status.issues, NoErrors.append_iff] at hclean
  obtain ⟨⟨⟨⟨hstatus, hpriority⟩, hprogress⟩, hrating⟩, -⟩ := hclean
  constructor
  · simpa using NoErrors.of_ite_nil rfl hstatus
  · intro priority heq
    simp only [Status.priorityIssues, heq] at hpriority
    simpa using NoErrors.of_ite_nil rfl hpriority
  · intro hstatus hnone
    have hnot := NoErrors.not_of_ite_singleton rfl hprogress
    simp [hmain, hstatus, hnone] at hnot
  · exact Status.isRated_of_noErrors hrating

/-- What the check of subtasks says about a subtask of a main task. -/
structure Subtasks.Sound (policy : Policy) (parent t : Task) : Prop where
  status : t.status ∈ policy.statuses
  rated : t.marker = some .numbered → t.isCompleted = true → t.IsRated policy
  code : t.hasReadableId = true → t.code = parent.code

theorem Subtasks.sound_of_passes (hmain : t.isMain = true) (h : Check.subtasks.Passes t scope)
    (hu : u ∈ t.subtasks) : Subtasks.Sound scope.policy t u := by
  have hrun : Check.subtasks.run t scope = .ok (.ofIssues (Subtasks.issues t scope)) := by
    simp only [Check.subtasks, hmain, if_true]
  have hclean : NoErrors (Subtasks.statusIssues scope.policy u ++ Subtasks.numberedIssues scope u ++
      Subtasks.codeIssues t u) := by
    intro i hi
    exact h.noErrors hrun i (List.mem_flatMap.2 ⟨u, hu, hi⟩)
  simp only [NoErrors.append_iff] at hclean
  obtain ⟨⟨hstatus, hnumbered⟩, hcode⟩ := hclean
  constructor
  · simpa using NoErrors.of_ite_nil rfl hstatus
  · intro hmarker
    rw [Subtasks.numberedIssues, if_pos hmarker] at hnumbered
    exact Status.isRated_of_noErrors (NoErrors.append_iff.1 hnumbered).2
  · intro hreadable
    have hnot := NoErrors.not_of_ite_singleton rfl hcode
    simpa [hreadable] using hnot

/-- What the check of dependencies says about a task. -/
structure Dependencies.Sound (l : TaskList) (t : Task) : Prop where
  known : ∀ id ∈ Dependencies.declared l.references t, id ∈ l.ids
  noCycle : Dependencies.cycleIssues l t = []

theorem Dependencies.sound_of_passes (hsettings : scope.settings = [])
    (h : Check.dependencies.Passes t scope) : Dependencies.Sound scope.list t := by
  have hclean : NoErrors (Dependencies.issues t scope) := h.noErrors rfl
  by_cases hdeclared : Dependencies.isDeclared t = true
  · have hon : scope.settings.isOn "validate_existence" true = true := by rw [hsettings]; rfl
    rw [Dependencies.issues, if_pos hdeclared, if_pos hon] at hclean
    simp only [NoErrors.append_iff] at hclean
    obtain ⟨⟨-, hexistence⟩, hcycle⟩ := hclean
    constructor
    · have hnone := NoErrors.of_ite_nil rfl hexistence
      simpa [List.filter_eq_nil_iff] using hnone
    · rw [List.eq_nil_iff_forall_not_mem]
      intro i hi
      obtain ⟨path, rfl⟩ := Dependencies.exists_eq_of_mem_cycleIssues hi
      exact absurd (hcycle _ hi) Bool.false_ne_true
  · rw [Dependencies.issues, if_neg hdeclared] at hclean
    exact absurd hclean (NoErrors.not_singleton rfl)

/-- What the check of ids says about a main task or a subtask of it. -/
structure Identity.Sound (everything : List Task) (t : Task) : Prop where
  parent : t.isSubtask = true → t.hasReadableId = true ∧
    ∃ parent ∈ everything, parent.isMain = true ∧ TaskId.parent? t.id = some parent.id
  first : t.hasReadableId = true → ∀ u ∈ (everything.filter (·.id = t.id)).head?,
    u.isSame t = true

theorem Identity.sound_of_passes (hmain : t.isMain = true) (h : Check.identity.Passes t scope)
    (hu : u ∈ t :: t.subtasks) : Identity.Sound scope.list.allTasks u := by
  have hclean : NoErrors (Identity.formatIssues scope scope.list.allTasks u ++
      Identity.duplicateIssues scope.list.allTasks u ++
      Identity.codeIssues scope.list.allTasks u) := by
    intro i hi
    refine h.noErrors rfl i (List.mem_append_left _ (List.mem_flatMap.2 ⟨u, ?_, hi⟩))
    rwa [if_pos hmain]
  simp only [NoErrors.append_iff] at hclean
  obtain ⟨⟨hformat, hduplicate⟩, -⟩ := hclean
  constructor
  · intro hsubtask
    rw [Identity.formatIssues, if_pos hsubtask] at hformat
    cases hparent : TaskId.parent? u.id with
    | none =>
        simp only [hparent] at hformat
        exact absurd hformat (NoErrors.not_singleton rfl)
    | some parent =>
        simp only [hparent] at hformat
        cases hreadable : u.hasReadableId with
        | false =>
            simp only [hreadable, Bool.not_false, if_true] at hformat
            exact absurd hformat (NoErrors.not_singleton rfl)
        | true =>
            simp only [hreadable, Bool.not_true, Bool.false_eq_true, if_false] at hformat
            have hany := NoErrors.of_ite_nil rfl hformat
            simp only [List.any_eq_true, Bool.and_eq_true, decide_eq_true_eq] at hany
            obtain ⟨main, hmem, hismain, rfl⟩ := hany
            exact ⟨rfl, main, hmem, hismain, rfl⟩
  · intro hreadable first hfirst
    simp only [Identity.duplicateIssues, hreadable, Bool.not_true, Bool.false_eq_true,
      if_false] at hduplicate
    cases hsame : scope.list.allTasks.filter (·.id = u.id) with
    | nil => simp [hsame] at hfirst
    | cons head rest =>
        simp only [hsame, List.head?_cons, Option.mem_def, Option.some.injEq] at hfirst hduplicate
        subst hfirst
        exact NoErrors.of_ite_nil rfl hduplicate

/-- Of two tasks with one id, the first with that id is the same entry as either. -/
theorem Identity.Sound.origin_eq {everything : List Task} (ht : Identity.Sound everything t)
    (hu : Identity.Sound everything u) (hreadable : t.hasReadableId = true)
    (hmem : t ∈ everything) (hid : t.id = u.id) : t.origin = u.origin := by
  have hsame : t ∈ everything.filter (·.id = t.id) := by simp [hmem]
  obtain ⟨first, hfirst⟩ : ∃ first, (everything.filter (·.id = t.id)).head? = some first := by
    cases hfilter : everything.filter (·.id = t.id) with
    | nil => simp [hfilter] at hsame
    | cons first rest => exact ⟨first, rfl⟩
  have hft := ht.first hreadable first hfirst
  have hfu := hu.first (by rwa [Task.hasReadableId, ← hid]) first (by rwa [← hid])
  simp only [Task.isSame, Bool.and_eq_true, decide_eq_true_eq] at hft hfu
  exact hft.1.symm.trans hfu.1

end Single

end Check

/-! ### References -/

/-- When the references are in order, every name used is defined. -/
theorem Usage.contains_of_valid_check {references : References} {lines : List String}
    (h : (Usage.check references lines).valid = true) {line name : String} (hline : line ∈ lines)
    (hname : name ∈ Document.references line) : references.contains name = true :=
  (valid_check_iff_contains references lines).1 h line hline name hname

end TaskAudit
