import TaskAudit.Audit
import TaskAudit.Proofs.Pipeline

/-!
# Audits step by step

An audit fails only where one of its steps fails on one of the main tasks, and it passes only if all
of them pass all main tasks.
-/

namespace TaskAudit

namespace Pipeline

variable {t : Task} {scope : Scope} {steps : List Step} {fault : Fault}

theorem exists_step_of_verdicts_eq_error (h : verdicts t scope steps = .error fault) :
    ∃ s ∈ steps, s.run t scope = .error fault := by
  induction steps with
  | nil => simp [verdicts] at h
  | cons step rest ih =>
      rw [verdicts] at h
      rcases bind_eq_error_iff.1 h with hstep | ⟨v, -, h⟩
      · exact ⟨step, List.mem_cons_self, hstep⟩
      · cases hv : v.valid with
        | false =>
            rw [hv, if_neg Bool.false_ne_true] at h
            exact absurd h (ok_ne_error _)
        | true =>
            rw [if_pos hv] at h
            rcases bind_eq_error_iff.1 h with hrest | ⟨vs, -, h⟩
            · obtain ⟨s, hs, hfails⟩ := ih hrest
              exact ⟨s, List.mem_cons_of_mem _ hs, hfails⟩
            · exact absurd h (ok_ne_error _)

theorem exists_task_of_runEach_eq_error {p : Pipeline} {tasks : List Task}
    (h : p.runEach scope tasks = .error fault) : ∃ t ∈ tasks, p.run t scope = .error fault := by
  induction tasks with
  | nil => simp [runEach] at h
  | cons t rest ih =>
      rw [runEach] at h
      rcases bind_eq_error_iff.1 h with hfirst | ⟨v, -, h⟩
      · exact ⟨t, List.mem_cons_self, hfirst⟩
      · rcases bind_eq_error_iff.1 h with hrest | ⟨vs, -, h⟩
        · obtain ⟨u, hu, hfails⟩ := ih hrest
          exact ⟨u, List.mem_cons_of_mem _ hu, hfails⟩
        · exact absurd h (ok_ne_error _)

end Pipeline

namespace Audit

variable {policy : Policy} {p : Pipeline} {l : TaskList}

/-- An audit that fails does so in one step on one main task. -/
theorem exists_step_of_verdict_eq_error {fault : Fault} (h : verdict policy p l = .error fault) :
    ∃ t ∈ l.mainTasks, ∃ s ∈ p.steps, s.run t ⟨policy, l, []⟩ = .error fault := by
  rcases bind_eq_error_iff.1 h with hmany | ⟨v, -, h⟩
  · obtain ⟨t, ht, hrun⟩ :=
      Pipeline.exists_task_of_runEach_eq_error (map_eq_error_iff.1 hmany)
    exact ⟨t, ht, Pipeline.exists_step_of_verdicts_eq_error (map_eq_error_iff.1 hrun)⟩
  · exact absurd h (ok_ne_error _)

/-- An audit that passes has found all references defined, and every step has passed. -/
theorem steps_pass_of_verdict {v : Verdict} (h : verdict policy p l = .ok v)
    (hvalid : v.valid = true) : (Usage.checkList l none).valid = true ∧
      ∀ t ∈ l.mainTasks, ∀ s ∈ p.steps,
        ∃ w, s.run t ⟨policy, l, []⟩ = .ok w ∧ w.valid = true := by
  obtain ⟨w, hmany, hv⟩ := bind_eq_ok_iff.1 h
  obtain rfl := Except.ok.inj hv
  have hboth := Verdict.valid_of_valid_combine hvalid
  refine ⟨hboth _ (by simp), fun t ht => ?_⟩
  obtain ⟨u, hu, huvalid⟩ := Pipeline.valid_run_of_valid_runMany hmany (hboth w (by simp)) t ht
  exact Pipeline.passes_of_valid_run hu huvalid

/-- An audit has nothing to report where none of its steps has. -/
theorem exists_isClean_verdict_of_steps (hreferences : (Usage.checkList l none).IsClean)
    (hsteps : ∀ t ∈ l.mainTasks, ∀ s ∈ p.steps,
      ∃ v, s.run t ⟨policy, l, []⟩ = .ok v ∧ v.IsClean) :
    ∃ v, verdict policy p l = .ok v ∧ v.IsClean ∧ v.taskCount = l.size := by
  have hruns : ∀ t ∈ l.mainTasks, ∃ v, p.run t ⟨policy, l, []⟩ = .ok v ∧ v.IsClean :=
    fun t ht => Pipeline.exists_isClean_run (hsteps t ht)
  obtain ⟨w, hw, hclean⟩ := Pipeline.exists_isClean_runMany hruns
  have hcombined : (Verdict.combine [Usage.checkList l none, w]).IsClean := by
    apply Verdict.isClean_combine
    simp only [List.forall_mem_cons]
    exact ⟨hreferences, hclean, by simp⟩
  refine ⟨(Verdict.combine [Usage.checkList l none, w]).withTaskCount l.size, ?_,
    ⟨hcombined.valid, hcombined.errors, hcombined.warnings⟩, rfl⟩
  rw [verdict, hw]
  rfl

/-- A preset is the pipeline of its steps. -/
theorem verdictByPreset_eq_ok_iff {preset : String} {steps : List Step} {v : Verdict}
    (h : (preset, steps) ∈ Preset.all) :
    verdictByPreset policy preset l = .ok v ↔ verdict policy (.ofSteps steps) l = .ok v := by
  have hpreset : Preset.ofName preset = .ok (.ofSteps steps) := by
    simp only [Preset.all, List.mem_cons, Prod.mk.injEq, List.not_mem_nil, or_false] at h
    rcases h with ⟨rfl, rfl⟩ | ⟨rfl, rfl⟩ | ⟨rfl, rfl⟩ <;> rfl
  rw [verdictByPreset, hpreset]
  exact mapError_eq_ok_iff

/-- The default preset is the pipeline of all checks without settings. -/
theorem verdictByPreset_default_eq_ok_iff {v : Verdict} :
    verdictByPreset policy "default" l = .ok v ↔
      verdict policy (.ofSteps Preset.default) l = .ok v :=
  verdictByPreset_eq_ok_iff List.mem_cons_self

end Audit

end TaskAudit
