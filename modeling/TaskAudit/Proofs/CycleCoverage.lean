import TaskAudit.Proofs.CleanEntry
import TaskAudit.Proofs.Fault

/-!
# Cycles that an audit finds

The graph of dependencies has an entry for every main task and subtask, but an audit runs its checks
on main tasks alone. A cycle through a main task keeps a document from passing; one among subtasks
is looked for by no check.
-/

namespace TaskAudit

open Relation Check.Dependencies

namespace Check.Dependencies

variable {l : TaskList} {t : Task}

/-- A task on a cycle fails, whether it declares its dependencies as it should or not. -/
theorem exists_run_eq_ok_of_transGen (scope : Scope) (hids : scope.list.ids.Nodup)
    (ht : t ∈ scope.list.allTasks) (hcycle : TransGen (DependsOn scope.list) t.id t.id) :
    ∃ v, dependencies.run t scope = .ok v ∧ v.valid = false := by
  refine ⟨.ofIssues (issues t scope), rfl, ?_⟩
  rw [Bool.eq_false_iff, ne_eq, Verdict.valid_ofIssues_iff]
  intro hwarnings
  cases hdeclared : isDeclared t with
  | false =>
      rw [issues, hdeclared, if_neg Bool.false_ne_true] at hwarnings
      exact Bool.false_ne_true (hwarnings _ (List.mem_singleton_self _))
  | true =>
      rcases cycleIssues_spec hids ht with ⟨path, hissues, -⟩ | ⟨-, hnone⟩
      · have hmem : Issue.circularDependency t.id path ∈ issues t scope := by
          rw [issues, if_pos hdeclared, hissues]
          exact List.mem_append_right _ (List.mem_singleton_self _)
        exact Bool.false_ne_true (hwarnings _ hmem)
      · exact hnone hcycle

/-- The ids of all tasks of a list with what each of them depends on. -/
def edges (l : TaskList) : List (String × List String) :=
  l.allTasks.map fun t => (t.id, declared l.references t)

theorem map_fst_edges : (edges l).map Prod.fst = l.ids := List.map_map

theorem dependsOn_of_mem_edges {entry : String × List String} {target : String}
    (h : entry ∈ edges l) (htarget : target ∈ entry.2) : DependsOn l entry.1 target := by
  obtain ⟨t, ht, rfl⟩ := List.mem_map.1 h
  exact ⟨t, ht, rfl, htarget⟩

end Check.Dependencies

namespace Audit

variable {policy : Policy} {l : TaskList} {t : Task}

/-- No audit in which dependencies are checked passes a main task on a cycle. -/
theorem not_valid_of_transGen {p : Pipeline} {settings : Settings} {v : Verdict}
    (hstep : ⟨Check.dependencies, settings⟩ ∈ p.steps) (hids : l.ids.Nodup) (ht : t ∈ l.mainTasks)
    (hcycle : TransGen (DependsOn l) t.id t.id) (hv : verdict policy p l = .ok v) :
    v.valid = false := by
  have hall : t ∈ l.allTasks :=
    List.mem_flatMap.2 ⟨t, (List.mem_filter.1 ht).1, List.mem_cons_self⟩
  cases hvalid : v.valid with
  | false => rfl
  | true =>
      obtain ⟨w, hw, hpasses⟩ := (steps_pass_of_verdict hv hvalid).2 t ht _ hstep
      obtain ⟨u, hu, hfails⟩ := exists_run_eq_ok_of_transGen ⟨policy, l, settings⟩ hids hall hcycle
      obtain rfl : u = w := Except.ok.inj (hu.symm.trans hw)
      exact absurd hpasses (by simp [hfails])

/-- **Cycles through main tasks are found.** A list with one does not pass the check of
dependencies, and no verdict of the default checks on it is a pass; they come to a verdict if that
of code quality does for every main task. -/
theorem verdict_of_cycle (hids : l.ids.Nodup) (ht : t ∈ l.mainTasks)
    (hcycle : TransGen (DependsOn l) t.id t.id) :
    (∃ v, verdict policy (.ofSteps [⟨Check.dependencies, []⟩]) l = .ok v ∧ v.valid = false) ∧
      (∀ v, verdict policy (.ofSteps Preset.default) l = .ok v → v.valid = false) ∧
      ((∀ u ∈ l.mainTasks, ∃ w, Check.kpi.run u ⟨policy, l, []⟩ = .ok w) →
        ∃ v, verdict policy (.ofSteps Preset.default) l = .ok v) := by
  have halone : (⟨Check.dependencies, []⟩ : Step) ∈
      (Pipeline.ofSteps [⟨Check.dependencies, []⟩]).steps :=
    Pipeline.mem_ofSteps.2 (List.mem_singleton_self _)
  have hdefault : (⟨Check.dependencies, []⟩ : Step) ∈ (Pipeline.ofSteps Preset.default).steps :=
    Pipeline.mem_ofSteps.2
      (List.mem_map.2 ⟨("dependency", Check.dependencies), by simp [Check.named], rfl⟩)
  refine ⟨?_, fun v hv => not_valid_of_transGen hdefault hids ht hcycle hv, fun hkpi => ?_⟩
  · cases hv : verdict policy (.ofSteps [⟨Check.dependencies, []⟩]) l with
    | ok v => exact ⟨v, rfl, not_valid_of_transGen halone hids ht hcycle hv⟩
    | error fault =>
        obtain ⟨u, -, s, hs, hrun⟩ := exists_step_of_verdict_eq_error hv
        obtain rfl := List.mem_singleton.1 (Pipeline.mem_ofSteps.1 hs)
        exact absurd hrun (ok_ne_error _)
  · cases hv : verdict policy (.ofSteps Preset.default) l with
    | ok v => exact ⟨v, rfl⟩
    | error fault =>
        obtain ⟨u, hu, s, hs, hrun⟩ := exists_step_of_verdict_eq_error hv
        obtain ⟨entry, hentry, rfl⟩ := List.mem_map.1 (Pipeline.mem_ofSteps.1 hs)
        have heq := Check.eq_kpi_of_run_eq_error (List.mem_map_of_mem hentry) hrun
        obtain ⟨w, hw⟩ := hkpi u hu
        rw [Step.run, heq] at hrun
        exact absurd (hw.symm.trans hrun) (ok_ne_error w)

/-- Two main tasks that depend on each other. -/
def mutualTasks : String :=
  "### AB0001: Plan\n**Dependencies**: AB0002\n### AB0002: Build\n**Dependencies**: AB0001\n"

theorem verdict_of_cycle_mutualTasks : ∃ l t, read .standard mutualTasks none = .ok l ∧
    l.ids.Nodup ∧ t ∈ l.mainTasks ∧ TransGen (DependsOn l) t.id t.id ∧
    (∃ v, verdict .standard (.ofSteps [⟨Check.dependencies, []⟩]) l = .ok v ∧ v.valid = false) ∧
      (∀ v, verdict .standard (.ofSteps Preset.default) l = .ok v → v.valid = false) ∧
      ((∀ u ∈ l.mainTasks, ∃ w, Check.kpi.run u ⟨.standard, l, []⟩ = .ok w) →
        ∃ v, verdict .standard (.ofSteps Preset.default) l = .ok v) := by
  have hread : (TaskList.ofText? .standard mutualTasks none).map
      (fun l => (edges l, l.mainTasks.map (·.id))) =
        some ([("AB0001", ["AB0002"]), ("AB0002", ["AB0001"])], ["AB0001", "AB0002"]) := by
    decide +kernel
  obtain ⟨l, hl, hfacts⟩ := Option.map_eq_some_iff.1 hread
  obtain ⟨hedges, hmain⟩ := Prod.mk.inj hfacts
  obtain ⟨t, ht, hid⟩ := List.mem_map.1 (hmain ▸ List.mem_cons_self : "AB0001" ∈ _)
  have hids : l.ids.Nodup := by
    rw [← map_fst_edges, hedges]
    decide
  have hforth : DependsOn l "AB0001" "AB0002" :=
    dependsOn_of_mem_edges (by rw [hedges]; exact List.mem_cons_self) List.mem_cons_self
  have hback : DependsOn l "AB0002" "AB0001" :=
    dependsOn_of_mem_edges (by rw [hedges]; exact List.mem_cons_of_mem _ List.mem_cons_self)
      List.mem_cons_self
  have hcycle : TransGen (DependsOn l) t.id t.id := hid ▸ .tail (.single hforth) hback
  exact ⟨l, t, by rw [read, hl], hids, ht, hcycle, verdict_of_cycle hids ht hcycle⟩

/-! ### A cycle that is not found -/

/-- The lines of a document with two subtasks that depend on each other. -/
def subtaskCycle : List String :=
  ["### TST0500: Main", "**Description**: Work", "**Status**: Planned", "**Priority**: High",
    "**Error Handling**", "**Core Principles**", "**Error Implementation**", "**Error Examples**",
    "**Framework Specifics**", "**Dependencies**: None", "**Test Strategy**",
    "**Coverage Requirements**", "**Code Quality KPIs**", "Functions per module: 1",
    "Lines per function: 1", "Call depth: 1",
    "#### 1. First (TST0500-1)", "**Status**: Planned", "**Error Handling**",
    "**Dependencies**: TST0500-2",
    "#### 2. Second (TST0500-2)", "**Status**: Planned", "**Error Handling**",
    "**Dependencies**: TST0500-1"]

def subtaskCycleList : TaskList := Document.listOfLines .standard subtaskCycle none

def subtaskCycleScope : Scope := ⟨.standard, subtaskCycleList, []⟩

/-- What no general lemma says of the document. The parts share one evaluation of it. -/
theorem subtaskCycle_facts :
    (∀ line ∈ subtaskCycle, Text.IsUnbroken line ∧ Document.references line = []) ∧
    (Document.tasks .standard subtaskCycle).isEmpty = false ∧
    edges subtaskCycleList =
      [("TST0500", []), ("TST0500-1", ["TST0500-2"]), ("TST0500-2", ["TST0500-1"])] ∧
    ∀ t ∈ subtaskCycleList.mainTasks, t.isMain = true ∧
      t.id = TaskId.ofNumber "TST" 500 ∧
      (Check.Status.issues t subtaskCycleScope).isEmpty = true ∧
      (Check.ErrorHandling.issues t subtaskCycleScope).isEmpty = true ∧
      (Check.Sections.issues t subtaskCycleScope).isEmpty = true ∧
      (Check.Subtasks.issues t subtaskCycleScope).isEmpty = true ∧
      (Check.Dependencies.issues t subtaskCycleScope).isEmpty = true ∧
      (Check.Category.issues t subtaskCycleScope).isEmpty = true ∧
      (Check.Kpi.issues t subtaskCycleScope).toOption.map List.isEmpty = some true ∧
      (∀ u ∈ t.subtasks, (Check.Identity.formatIssues subtaskCycleScope
        subtaskCycleList.allTasks u).isEmpty = true) ∧
      ∀ u ∈ t :: t.subtasks,
        (Check.Identity.duplicateIssues subtaskCycleList.allTasks u).isEmpty = true ∧
          (Check.Identity.codeIssues subtaskCycleList.allTasks u).isEmpty = true := by
  decide +kernel

theorem read_subtaskCycle :
    read .standard ("\n".intercalate (subtaskCycle ++ [""])) none = .ok subtaskCycleList := by
  obtain ⟨hlines, hsome, -⟩ := subtaskCycle_facts
  have hbreaks : ∀ line ∈ subtaskCycle, Text.IsUnbroken line := fun line hline =>
    (hlines line hline).1
  have hne : Document.tasks .standard subtaskCycle ≠ [] := by
    rwa [ne_eq, ← List.isEmpty_iff, Bool.not_eq_true]
  rw [read, Document.ofText?_intercalate none hbreaks hne, subtaskCycleList]

/-- Nothing in the document is a reference. -/
theorem contains_references_subtaskCycle : ∀ line ∈ subtaskCycleList.scannedLines,
    ∀ name ∈ Document.references line, subtaskCycleList.references.contains name = true := by
  intro line hline name hname
  rw [(subtaskCycle_facts.1 line hline).2] at hname
  exact absurd hname List.not_mem_nil

open Check in
theorem isSilent_subtaskCycle : ∀ t ∈ subtaskCycleList.mainTasks,
    IsSilent t ⟨.standard, subtaskCycleList, []⟩ := by
  intro t ht
  obtain ⟨hmain, hid, hstatus, herrors, hsections, hsubtasks, hdependencies, hcategory, hkpi,
    hformat, hrepeated⟩ := subtaskCycle_facts.2.2.2 t ht
  have hown : Identity.formatIssues subtaskCycleScope subtaskCycleList.allTasks t = [] := by
    have haccepts : subtaskCycleScope.policy.idPattern.accepts t.id = true := by
      rw [hid]
      exact TaskId.accepts_ofNumber (by decide +kernel) (by decide)
    have hnot : t.isSubtask = false := by
      simp only [Task.isMain, Task.isSubtask, decide_eq_true_eq] at hmain ⊢
      simp [hmain]
    rw [Identity.formatIssues, hnot, if_neg Bool.false_ne_true, if_pos haccepts]
  have hsubjects : ((t :: t.subtasks).flatMap fun u =>
      Identity.formatIssues subtaskCycleScope subtaskCycleList.allTasks u ++
        Identity.duplicateIssues subtaskCycleList.allTasks u ++
        Identity.codeIssues subtaskCycleList.allTasks u) = [] := by
    rw [List.flatMap_eq_nil_iff]
    intro u hu
    obtain ⟨hduplicate, hcode⟩ := hrepeated u hu
    rw [List.isEmpty_iff.1 hduplicate, List.isEmpty_iff.1 hcode, List.append_nil, List.append_nil]
    cases List.mem_cons.1 hu with
    | inl heq => rw [heq, hown]
    | inr hmem => exact List.isEmpty_iff.1 (hformat u hmem)
  have hidentity : Identity.issues t subtaskCycleScope = [] := by
    have hoff : subtaskCycleScope.policy.checkCodes = false := rfl
    have hlist : subtaskCycleScope.list = subtaskCycleList := rfl
    simp only [Identity.issues, hmain, hoff, hlist, if_true]
    rw [hsubjects]
    rfl
  have hquality : Kpi.issues t subtaskCycleScope = .ok [] := by
    obtain ⟨issues, hok, hnone⟩ := Option.map_eq_some_iff.1 hkpi
    rw [eq_ok_of_toOption hok, List.isEmpty_iff.1 hnone]
  exact {
    isMain := hmain
    identity := hidentity
    status := List.isEmpty_iff.1 hstatus
    errorHandling := List.isEmpty_iff.1 herrors
    sections := List.isEmpty_iff.1 hsections
    subtasks := List.isEmpty_iff.1 hsubtasks
    dependencies := List.isEmpty_iff.1 hdependencies
    category := List.isEmpty_iff.1 hcategory
    kpi := hquality }

/-- A cycle among subtasks alone keeps no document from passing, under the default checks or under
that of dependencies. -/
theorem exists_valid_verdict_subtaskCycle : ∃ l,
    read .standard ("\n".intercalate (subtaskCycle ++ [""])) none = .ok l ∧ l.ids.Nodup ∧
    TransGen (DependsOn l) "TST0500-1" "TST0500-1" ∧
    (∃ v, verdictByPreset .standard "default" l = .ok v ∧ v.valid = true) ∧
    ∃ v, verdict .standard (.ofSteps [⟨Check.dependencies, []⟩]) l = .ok v ∧ v.valid = true := by
  have hedges := subtaskCycle_facts.2.2.1
  have hreferences := contains_references_subtaskCycle
  have hids : subtaskCycleList.ids.Nodup := by
    rw [← map_fst_edges, hedges]
    decide
  have hforth : DependsOn subtaskCycleList "TST0500-1" "TST0500-2" :=
    dependsOn_of_mem_edges (by rw [hedges]; exact .tail _ (.head _)) List.mem_cons_self
  have hback : DependsOn subtaskCycleList "TST0500-2" "TST0500-1" :=
    dependsOn_of_mem_edges (by rw [hedges]; exact .tail _ (.tail _ (.head _))) List.mem_cons_self
  obtain ⟨v, hv, hclean, -⟩ := exists_isClean_verdict hreferences isSilent_subtaskCycle
  have hsteps : ∀ t ∈ subtaskCycleList.mainTasks,
      ∀ s ∈ (Pipeline.ofSteps [⟨Check.dependencies, []⟩]).steps,
        ∃ w, s.run t ⟨.standard, subtaskCycleList, []⟩ = .ok w ∧ w.IsClean := by
    intro t ht s hs
    obtain rfl := List.mem_singleton.1 (Pipeline.mem_ofSteps.1 hs)
    exact (isSilent_subtaskCycle t ht).exists_isClean _
      (List.mem_map.2 ⟨("dependency", Check.dependencies), by simp [Check.named], rfl⟩)
  obtain ⟨w, hw, hcleanAlone, -⟩ :=
    exists_isClean_verdict_of_steps (Usage.isClean_check hreferences) hsteps
  exact ⟨subtaskCycleList, read_subtaskCycle, hids, .tail (.single hforth) hback,
    ⟨v, hv, hclean.valid⟩, w, hw, hcleanAlone.valid⟩

end Audit

end TaskAudit
