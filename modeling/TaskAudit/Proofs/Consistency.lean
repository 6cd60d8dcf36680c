import TaskAudit.Proofs.Audit
import TaskAudit.Proofs.Closure

/-!
# Consistent verdicts

A verdict passes exactly when it lists no error, and nothing is listed as an error or a warning that
is not one. Every built-in check gives such a verdict, and joining verdicts keeps them so, up to
that of a whole audit.
-/

namespace TaskAudit

namespace Verdict

/-- A verdict passes exactly when it has no errors, and its issues are listed by their severity. -/
structure IsSorted (v : Verdict) : Prop where
  valid_iff : v.valid = true ↔ v.errors = []
  errors : ∀ i ∈ v.errors, i.severity = .error
  warnings : ∀ i ∈ v.warnings, i.severity = .warning

theorem IsSorted.isConsistent {v : Verdict} (h : v.IsSorted) : v.IsConsistent := by
  rw [IsConsistent, Bool.eq_iff_iff, h.valid_iff, List.isEmpty_iff]

theorem isSorted_ofIssues (issues : List Issue) : (ofIssues issues).IsSorted where
  valid_iff := List.isEmpty_iff
  errors := by
    intro i hi
    have hnot : i.isWarning = false := by simpa using (List.mem_filter.1 hi).2
    cases hseverity : i.severity with
    | error => rfl
    | warning => simp [Issue.isWarning, hseverity] at hnot
  warnings := by
    intro i hi
    simpa [Issue.isWarning] using (List.mem_filter.1 hi).2

theorem isSorted_combine {vs : List Verdict} (h : ∀ v ∈ vs, v.IsSorted) :
    (combine vs).IsSorted where
  valid_iff := by
    rw [valid_combine_iff fun v hv => (h v hv).isConsistent, errors_combine,
      List.flatMap_eq_nil_iff]
    exact forall₂_congr fun v hv => (h v hv).valid_iff
  errors := by
    rw [errors_combine]
    intro i hi
    obtain ⟨v, hv, hmem⟩ := List.mem_flatMap.1 hi
    exact (h v hv).errors i hmem
  warnings := by
    rw [warnings_combine]
    intro i hi
    obtain ⟨v, hv, hmem⟩ := List.mem_flatMap.1 hi
    exact (h v hv).warnings i hmem

theorem IsSorted.withTaskCount {v : Verdict} (h : v.IsSorted) (n : Int) :
    (v.withTaskCount n).IsSorted :=
  ⟨h.valid_iff, h.errors, h.warnings⟩

end Verdict

theorem Usage.isSorted_check (references : References) (lines : List String) :
    (Usage.check references lines).IsSorted where
  valid_iff := List.isEmpty_iff
  errors := by
    intro i hi
    obtain ⟨name, -, hreports⟩ := Usage.exists_reports_of_mem_errors references lines hi
    exact hreports.severity
  warnings := by
    intro i hi
    exact absurd hi List.not_mem_nil

/-! ### Steps and pipelines -/

theorem Step.isSorted_of_run {s : Step} (hs : s.check ∈ Check.named.map Prod.snd) {t : Task}
    {scope : Scope} {v : Verdict} (h : s.run t scope = .ok v) : v.IsSorted := by
  obtain ⟨issues, rfl⟩ := Check.reportsIssues_of_mem_named hs _ _ _ h
  exact Verdict.isSorted_ofIssues issues

namespace Pipeline

variable {p : Pipeline} {t : Task} {scope : Scope} {v : Verdict}

theorem exists_step_of_mem_verdicts {steps : List Step} {vs : List Verdict}
    (h : verdicts t scope steps = .ok vs) : ∀ v ∈ vs, ∃ s ∈ steps, s.run t scope = .ok v := by
  induction steps generalizing vs with
  | nil =>
      obtain rfl := Except.ok.inj h
      simp
  | cons step rest ih =>
      obtain ⟨w, hstep, h⟩ := bind_eq_ok_iff.1 h
      have hhead : ∃ s ∈ step :: rest, s.run t scope = .ok w := ⟨step, List.mem_cons_self, hstep⟩
      cases hw : w.valid with
      | false =>
          rw [hw, if_neg Bool.false_ne_true] at h
          obtain rfl := Except.ok.inj h
          simpa using hhead
      | true =>
          rw [if_pos hw] at h
          obtain ⟨more, hmore, h⟩ := bind_eq_ok_iff.1 h
          obtain rfl := Except.ok.inj h
          refine List.forall_mem_cons.2 ⟨hhead, fun u hu => ?_⟩
          obtain ⟨s, hs, hrun⟩ := ih hmore u hu
          exact ⟨s, List.mem_cons_of_mem _ hs, hrun⟩

variable (hp : ∀ s ∈ p.steps, s.check ∈ Check.named.map Prod.snd)

include hp

theorem isSorted_of_run (h : p.run t scope = .ok v) : v.IsSorted := by
  obtain ⟨vs, hvs, rfl⟩ := map_eq_ok_iff.1 h
  refine Verdict.isSorted_combine fun w hw => ?_
  obtain ⟨s, hs, hrun⟩ := exists_step_of_mem_verdicts hvs w hw
  exact Step.isSorted_of_run (hp s hs) hrun

theorem isSorted_of_mem_runEach {tasks : List Task} {vs : List Verdict}
    (h : p.runEach scope tasks = .ok vs) : ∀ w ∈ vs, w.IsSorted := by
  intro w hw
  have hmem : Except.ok w ∈ tasks.map (p.run · scope) :=
    map_run_of_runEach_eq_ok h ▸ List.mem_map_of_mem hw
  obtain ⟨t, -, hrun⟩ := List.mem_map.1 hmem
  exact isSorted_of_run hp hrun

theorem isSorted_of_runMany {tasks : List Task} (h : p.runMany tasks scope = .ok v) :
    v.IsSorted := by
  obtain ⟨vs, hvs, rfl⟩ := map_eq_ok_iff.1 h
  exact Verdict.isSorted_combine (isSorted_of_mem_runEach hp hvs)

end Pipeline

/-! ### Whole audits -/

namespace TaskList

theorem length_filter_isMain_add (tasks : List Task) :
    (tasks.filter (·.isMain)).length + (tasks.filter (·.isSubtask)).length = tasks.length := by
  induction tasks with
  | nil => rfl
  | cons t tasks ih =>
      cases hkind : t.kind <;> simp [Task.isMain, Task.isSubtask, hkind] at ih ⊢ <;> omega

theorem size_eq (l : TaskList) : l.size = l.tasks.length + l.subtasks.length := by
  unfold size allTasks subtasks
  induction l.tasks with
  | nil => rfl
  | cons t tasks ih =>
      simp only [List.flatMap_cons, List.length_append, List.length_cons, ih]
      omega

end TaskList

namespace Audit

/-- What the verdict on a task list says, given the verdicts of a pipeline on its main tasks. -/
structure Accounts (l : TaskList) (vs : List Verdict) (v : Verdict) : Prop where
  taskCount : v.taskCount =
    (l.allTasks.filter (·.isMain)).length + (l.allTasks.filter (·.isSubtask)).length
  taskCount_of_isMain : (∀ t ∈ l.tasks, t.isMain = true) →
    v.taskCount = l.mainTasks.length + l.subtasks.length
  errors : v.errors = (Usage.checkList l none).errors ++ vs.flatMap (·.errors)
  warnings : v.warnings = vs.flatMap (·.warnings)

theorem accounts_withTaskCount_size (l : TaskList) (vs : List Verdict) :
    Accounts l vs ((Verdict.combine
      [Usage.checkList l none, Verdict.combine vs]).withTaskCount l.size) where
  taskCount := by
    rw [← Int.natCast_add, TaskList.length_filter_isMain_add]
    rfl
  taskCount_of_isMain := by
    intro hmain
    rw [TaskList.mainTasks, List.filter_eq_self.2 hmain, ← Int.natCast_add, ← TaskList.size_eq]
    rfl
  errors := by
    rw [Verdict.withTaskCount, Verdict.errors_combine]
    simp [Verdict.errors_combine]
  warnings := by
    have hnone : (Usage.checkList l none).warnings = [] := rfl
    rw [Verdict.withTaskCount, Verdict.warnings_combine]
    simp [hnone, Verdict.warnings_combine]

theorem accounts_of_verdict_eq_ok {policy : Policy} {p : Pipeline} {l : TaskList} {v : Verdict}
    (h : verdict policy p l = .ok v) :
    ∃ vs, l.mainTasks.map (p.run · ⟨policy, l, []⟩) = vs.map .ok ∧ Accounts l vs v := by
  obtain ⟨tasks, hmany, hv⟩ := bind_eq_ok_iff.1 h
  obtain ⟨vs, hvs, rfl⟩ := map_eq_ok_iff.1 hmany
  obtain rfl := Except.ok.inj hv
  exact ⟨vs, Pipeline.map_run_of_runEach_eq_ok hvs, accounts_withTaskCount_size l vs⟩

theorem isSorted_of_verdict_eq_ok {policy : Policy} {p : Pipeline} {l : TaskList} {v : Verdict}
    (hp : ∀ s ∈ p.steps, s.check ∈ Check.named.map Prod.snd) (h : verdict policy p l = .ok v) :
    v.IsSorted := by
  obtain ⟨tasks, hmany, hv⟩ := bind_eq_ok_iff.1 h
  obtain rfl := Except.ok.inj hv
  have hboth : ∀ w ∈ [Usage.checkList l none, tasks], w.IsSorted := by
    simp only [List.forall_mem_cons]
    exact ⟨Usage.isSorted_check _ _, Pipeline.isSorted_of_runMany hp hmany, by simp⟩
  exact (Verdict.isSorted_combine hboth).withTaskCount _

/-- **Verdicts are consistent.** Every verdict that steps with built-in checks come to passes
exactly when it lists no error, and lists its issues by their severity: that of a step alone, of a
pipeline on a task, on several tasks, and on a whole task list. The last counts all tasks, and its
errors are those of the references and after them those of the main tasks in order. -/
theorem isSorted_and_accounts (policy : Policy) (p : Pipeline) (l : TaskList)
    (hp : ∀ s ∈ p.steps, s.check ∈ Check.named.map Prod.snd) :
    (∀ s ∈ p.steps, ∀ t scope v, s.run t scope = .ok v → v.IsSorted) ∧
    (∀ t scope v, p.run t scope = .ok v → v.IsSorted) ∧
    (∀ tasks scope v, p.runMany tasks scope = .ok v → v.IsSorted) ∧
    ∀ v, verdict policy p l = .ok v → v.IsSorted ∧
      ∃ vs, l.mainTasks.map (p.run · ⟨policy, l, []⟩) = vs.map .ok ∧ Accounts l vs v :=
  ⟨fun _ hs _ _ _ h => Step.isSorted_of_run (hp _ hs) h,
    fun _ _ _ h => Pipeline.isSorted_of_run hp h,
    fun _ _ _ h => Pipeline.isSorted_of_runMany hp h,
    fun _ h => ⟨isSorted_of_verdict_eq_ok hp h, accounts_of_verdict_eq_ok h⟩⟩

def openTask : Task :=
  { Pipeline.plannedTask with kind := .main, content := ["\x7b\x7bopen\x7d\x7d"] }

def openList : TaskList :=
  { tasks := [openTask], references := ∅, path := none, totalLines := 0, lines := [] }

def statusTwice : Pipeline :=
  ⟨[⟨Check.status, [("strict_transitions", .bool true)]⟩, ⟨Check.status, []⟩]⟩

theorem isSorted_and_accounts_openList :
    (∀ s ∈ statusTwice.steps, s.check ∈ Check.named.map Prod.snd) ∧
      ∃ v, verdict .standard statusTwice openList = .ok v ∧ v.IsSorted ∧ v.valid = false ∧
        v.taskCount = 1 := by
  have hnamed : ∀ s ∈ statusTwice.steps, s.check ∈ Check.named.map Prod.snd := by
    simp [statusTwice, Check.named]
  obtain ⟨v, hv⟩ : ∃ v, verdict .standard statusTwice openList = .ok v := ⟨_, rfl⟩
  obtain ⟨-, -, -, hverdict⟩ := isSorted_and_accounts .standard statusTwice openList hnamed
  obtain ⟨hsorted, vs, -, haccounts⟩ := hverdict v hv
  refine ⟨hnamed, v, hv, hsorted, ?_, ?_⟩
  · have hopen : (Usage.checkList openList none).errors ≠ [] := by decide +kernel
    rw [← Bool.not_eq_true, hsorted.valid_iff, haccounts.errors]
    simp [hopen]
  · rw [haccounts.taskCount_of_isMain (by simp [openList, openTask, Task.isMain])]
    rfl

end Audit

end TaskAudit
