import TaskAudit.Pipeline
import TaskAudit.Policy.Standard
import TaskAudit.Proofs.Result
import TaskAudit.Proofs.Verdict

/-!
# Pipelines that stop early

Leaving out the checks after the first one that fails changes which issues are reported but never
whether a task passes. The order of the checks is settled by their ranks, and among equal ranks by
the order in which they were given; no other order has these two properties.
-/

namespace TaskAudit

/-! ### Checks that report issues -/

namespace Check

/-- Whatever verdict a check comes to, it is that of a list of issues. -/
def ReportsIssues (c : Check) : Prop :=
  ∀ t scope v, c.run t scope = .ok v → ∃ issues, v = .ofIssues issues

theorem reportsIssues_of_run_eq {c : Check} {issues : Task → Scope → List Issue}
    (h : ∀ t scope, c.run t scope = .ok (.ofIssues (issues t scope))) : c.ReportsIssues := by
  intro t scope v hrun
  rw [h] at hrun
  exact ⟨_, (Except.ok.inj hrun).symm⟩

theorem reportsIssues_errorHandling : errorHandling.ReportsIssues := by
  intro t scope v hrun
  simp only [errorHandling, Except.ok.injEq] at hrun
  split at hrun
  · exact ⟨[], hrun.symm⟩
  · exact ⟨_, hrun.symm⟩

theorem reportsIssues_subtasks : subtasks.ReportsIssues := by
  intro t scope v hrun
  simp only [subtasks, Except.ok.injEq] at hrun
  split at hrun
  · exact ⟨_, hrun.symm⟩
  · exact ⟨[], hrun.symm⟩

theorem reportsIssues_kpi : kpi.ReportsIssues := by
  intro t scope v hrun
  simp only [kpi] at hrun
  cases hissues : Kpi.issues t scope with
  | error fault => simp [hissues, Except.map] at hrun
  | ok issues => exact ⟨issues, by simpa [hissues, Except.map, eq_comm] using hrun⟩

theorem reportsIssues_of_mem_named {c : Check} (h : c ∈ named.map Prod.snd) : c.ReportsIssues := by
  simp only [named, List.map_cons, List.map_nil, List.mem_cons, List.not_mem_nil, or_false] at h
  rcases h with rfl | rfl | rfl | rfl | rfl | rfl | rfl | rfl
  · exact reportsIssues_of_run_eq fun _ _ => rfl
  · exact reportsIssues_of_run_eq fun _ _ => rfl
  · exact reportsIssues_errorHandling
  · exact reportsIssues_of_run_eq fun _ _ => rfl
  · exact reportsIssues_subtasks
  · exact reportsIssues_of_run_eq fun _ _ => rfl
  · exact reportsIssues_of_run_eq fun _ _ => rfl
  · exact reportsIssues_kpi

end Check

namespace Pipeline

/-! ### The order of checks -/

/-- The steps given, those of higher rank first, and those of one rank in the order given. -/
structure InPriorityOrder (given ordered : List Step) : Prop where
  perm : ordered.Perm given
  descending : ordered.Pairwise fun a b => b.check.rank ≤ a.check.rank
  stable : ∀ rank, ordered.filter (·.check.rank = rank) = given.filter (·.check.rank = rank)

theorem inPriorityOrder_ofSteps (steps : List Step) :
    InPriorityOrder steps (ofSteps steps).steps := by
  have htrans : ∀ a b c : Step, decide (b.check.rank ≤ a.check.rank) →
      decide (c.check.rank ≤ b.check.rank) → decide (c.check.rank ≤ a.check.rank) := by
    intro a b c hab hbc
    simp only [decide_eq_true_eq] at *
    omega
  have htotal : ∀ a b : Step, decide (b.check.rank ≤ a.check.rank) ||
      decide (a.check.rank ≤ b.check.rank) := by
    intro a b
    simp only [Bool.or_eq_true, decide_eq_true_eq]
    omega
  have hperm : (ofSteps steps).steps.Perm steps := List.mergeSort_perm _ _
  have hdescending := List.pairwise_mergeSort htrans htotal steps
  simp only [decide_eq_true_eq] at hdescending
  refine ⟨hperm, hdescending, fun rank => ?_⟩
  -- The steps of one rank are sorted as they stand, so sorting keeps them as they are.
  have hsorted : (steps.filter (·.check.rank = rank)).Pairwise
      fun a b => decide (b.check.rank ≤ a.check.rank) := by
    refine List.pairwise_of_forall_mem_list fun a ha b hb => ?_
    simp only [List.mem_filter, decide_eq_true_eq] at ha hb ⊢
    omega
  have hsub := (List.sublist_mergeSort htrans htotal hsorted List.filter_sublist).filter
    (·.check.rank = rank)
  rw [List.filter_filter] at hsub
  simp only [Bool.and_self] at hsub
  exact (hsub.eq_of_length (hperm.filter _).length_eq.symm).symm

theorem mem_ofSteps {steps : List Step} {s : Step} : s ∈ (ofSteps steps).steps ↔ s ∈ steps :=
  (inPriorityOrder_ofSteps steps).perm.mem_iff

theorem eq_of_descending {xs ys : List Step}
    (hx : xs.Pairwise fun a b => b.check.rank ≤ a.check.rank)
    (hy : ys.Pairwise fun a b => b.check.rank ≤ a.check.rank)
    (h : ∀ rank, xs.filter (·.check.rank = rank) = ys.filter (·.check.rank = rank)) : xs = ys := by
  induction xs generalizing ys with
  | nil =>
      cases ys with
      | nil => rfl
      | cons y ys => simpa using h y.check.rank
  | cons x xs ih =>
      cases ys with
      | nil => simpa using h x.check.rank
      | cons y ys =>
          rw [List.pairwise_cons] at hx hy
          have hyx : y.check.rank ≤ x.check.rank := by
            have hm : y ∈ (x :: xs).filter (·.check.rank = y.check.rank) := by simp [h]
            rcases List.mem_cons.1 (List.mem_filter.1 hm).1 with rfl | hm
            · exact Int.le_refl _
            · exact hx.1 y hm
          have hxy : x.check.rank ≤ y.check.rank := by
            have hm : x ∈ (y :: ys).filter (·.check.rank = x.check.rank) := by simp [← h]
            rcases List.mem_cons.1 (List.mem_filter.1 hm).1 with rfl | hm
            · exact Int.le_refl _
            · exact hy.1 x hm
          have hrank : y.check.rank = x.check.rank := Int.le_antisymm hyx hxy
          have hhead : x = y := by
            have := h x.check.rank
            simp only [List.filter_cons, hrank, decide_true, if_true] at this
            exact (List.cons.inj this).1
          subst hhead
          refine congrArg (x :: ·) (ih hx.2 hy.2 fun rank => ?_)
          have := h rank
          simp only [List.filter_cons] at this
          split at this
          · exact (List.cons.inj this).2
          · exact this

/-! ### The first failure -/

/-- A step is the first that fails a task: the steps before it pass with some verdicts. -/
structure FirstFailure (t : Task) (scope : Scope) (steps before : List Step) (step : Step)
    (vs : List Verdict) (w : Verdict) : Prop where
  place : ∃ after, steps = before ++ step :: after
  runs : before.map (·.run t scope) = vs.map .ok
  passes : ∀ v ∈ vs, v.valid = true
  run : step.run t scope = .ok w
  fails : w.valid = false

section Run

variable {t : Task} {scope : Scope} {step : Step} {before rest steps : List Step}
  {v : Verdict} {vs : List Verdict}

theorem verdicts_cons_of_valid (hrun : step.run t scope = .ok v) (hvalid : v.valid = true) :
    verdicts t scope (step :: rest) = (verdicts t scope rest).map (v :: ·) := by
  simp only [verdicts, hrun, bind, Except.bind, hvalid, if_true]
  cases verdicts t scope rest <;> rfl

theorem verdicts_cons_of_not_valid (hrun : step.run t scope = .ok v) (hvalid : v.valid = false) :
    verdicts t scope (step :: rest) = .ok [v] := by
  simp [verdicts, hrun, bind, Except.bind, hvalid, pure, Except.pure]

/-- Steps that all pass are all run, and what follows them is run as if they were not there. -/
theorem run_append (hruns : before.map (·.run t scope) = vs.map .ok)
    (hvalid : ∀ v ∈ vs, v.valid = true) :
    verdicts t scope (before ++ rest) = (verdicts t scope rest).map (vs ++ ·) ∧
      started t scope (before ++ rest) = before ++ started t scope rest := by
  induction before generalizing vs with
  | nil =>
      obtain rfl : vs = [] := by simpa using hruns
      constructor
      · cases h : verdicts t scope rest <;> simp [Except.map, h]
      · rfl
  | cons step before ih =>
      cases vs with
      | nil => simp at hruns
      | cons v vs =>
          obtain ⟨hrun, hruns⟩ := List.cons.inj hruns
          obtain ⟨hv, hvalid⟩ := List.forall_mem_cons.1 hvalid
          obtain ⟨hverdicts, hstarted⟩ := ih hruns hvalid
          constructor
          · rw [List.cons_append, verdicts_cons_of_valid hrun hv, hverdicts]
            cases verdicts t scope rest <;> rfl
          · simp only [List.cons_append, started, hrun, hv, if_true, hstarted]

/-- Either all steps pass, or one of them is the first that does not. -/
theorem exists_first_failure (h : ∀ s ∈ steps, ∃ v, s.run t scope = .ok v) :
    (∃ vs : List Verdict, steps.map (·.run t scope) = vs.map .ok ∧ ∀ v ∈ vs, v.valid = true) ∨
    ∃ before step vs w, FirstFailure t scope steps before step vs w := by
  induction steps with
  | nil => exact Or.inl ⟨[], rfl, by simp⟩
  | cons step steps ih =>
      obtain ⟨⟨v, hrun⟩, h⟩ := List.forall_mem_cons.1 h
      cases hv : v.valid with
      | false => exact Or.inr ⟨[], step, [], v, ⟨steps, rfl⟩, rfl, by simp, hrun, hv⟩
      | true =>
          rcases ih h with ⟨vs, hruns, hvalid⟩ | ⟨before, last, vs, w, hfirst⟩
          · exact Or.inl ⟨v :: vs, by simp [hrun, hruns], List.forall_mem_cons.2 ⟨hv, hvalid⟩⟩
          · obtain ⟨after, rfl⟩ := hfirst.place
            exact Or.inr ⟨step :: before, last, v :: vs, w, ⟨after, rfl⟩,
              by simp [hrun, hfirst.runs], List.forall_mem_cons.2 ⟨hv, hfirst.passes⟩, hfirst.run,
              hfirst.fails⟩

theorem passes_of_verdicts_eq_ok (hverdicts : verdicts t scope steps = .ok vs)
    (hvalid : ∀ v ∈ vs, v.valid = true) :
    ∀ s ∈ steps, ∃ w, s.run t scope = .ok w ∧ w.valid = true := by
  induction steps generalizing vs with
  | nil => simp
  | cons step steps ih =>
      cases hrun : step.run t scope with
      | error fault => simp [verdicts, hrun, bind, Except.bind] at hverdicts
      | ok v =>
          cases hv : v.valid with
          | false =>
              rw [verdicts_cons_of_not_valid hrun hv] at hverdicts
              obtain rfl := Except.ok.inj hverdicts
              simp [hv] at hvalid
          | true =>
              rw [verdicts_cons_of_valid hrun hv] at hverdicts
              obtain ⟨more, hmore, rfl⟩ := map_eq_ok_iff.1 hverdicts
              exact List.forall_mem_cons.2
                ⟨⟨v, hrun, hv⟩, ih hmore (List.forall_mem_cons.1 hvalid).2⟩

/-- A pipeline that passes a task has run every step, and each of them passed. -/
theorem passes_of_valid_run (hrun : run ⟨steps⟩ t scope = .ok v) (hvalid : v.valid = true) :
    ∀ s ∈ steps, ∃ w, s.run t scope = .ok w ∧ w.valid = true := by
  obtain ⟨vs, hverdicts, rfl⟩ := map_eq_ok_iff.1 hrun
  exact passes_of_verdicts_eq_ok hverdicts (Verdict.valid_of_valid_combine hvalid)

theorem map_run_of_runEach_eq_ok {p : Pipeline} {tasks : List Task}
    (h : p.runEach scope tasks = .ok vs) : tasks.map (p.run · scope) = vs.map .ok := by
  induction tasks generalizing vs with
  | nil => simpa [runEach, eq_comm] using h
  | cons t tasks ih =>
      obtain ⟨w, hfirst, h⟩ := bind_eq_ok_iff.1 h
      obtain ⟨more, hmore, h⟩ := bind_eq_ok_iff.1 h
      obtain rfl := Except.ok.inj h
      rw [List.map_cons, List.map_cons, hfirst, ih hmore]

theorem valid_run_of_valid_runMany {p : Pipeline} {tasks : List Task}
    (hrun : p.runMany tasks scope = .ok v) (hvalid : v.valid = true) :
    ∀ t ∈ tasks, ∃ w, p.run t scope = .ok w ∧ w.valid = true := by
  obtain ⟨vs, heach, rfl⟩ := map_eq_ok_iff.1 hrun
  intro t ht
  have hmem : p.run t scope ∈ vs.map .ok :=
    map_run_of_runEach_eq_ok heach ▸ List.mem_map_of_mem ht
  obtain ⟨w, hw, heq⟩ := List.mem_map.1 hmem
  exact ⟨w, heq.symm, Verdict.valid_of_valid_combine hvalid w hw⟩

theorem exists_isClean_run (h : ∀ s ∈ steps, ∃ v, s.run t scope = .ok v ∧ v.IsClean) :
    ∃ v, run ⟨steps⟩ t scope = .ok v ∧ v.IsClean := by
  have hverdicts : ∃ vs, verdicts t scope steps = .ok vs ∧ ∀ v ∈ vs, v.IsClean := by
    induction steps with
    | nil => exact ⟨[], rfl, by simp⟩
    | cons step steps ih =>
        obtain ⟨⟨v, hrun, hclean⟩, hsteps⟩ := List.forall_mem_cons.1 h
        obtain ⟨vs, hvs, hmore⟩ := ih hsteps
        refine ⟨v :: vs, ?_, List.forall_mem_cons.2 ⟨hclean, hmore⟩⟩
        rw [verdicts_cons_of_valid hrun hclean.valid, hvs]
        rfl
  obtain ⟨vs, hvs, hclean⟩ := hverdicts
  exact ⟨_, by rw [run, hvs]; rfl, Verdict.isClean_combine hclean⟩

theorem exists_runEach_of_forall {p : Pipeline} {tasks : List Task} {P : Verdict → Prop}
    (h : ∀ t ∈ tasks, ∃ v, p.run t scope = .ok v ∧ P v) :
    ∃ vs, p.runEach scope tasks = .ok vs ∧ ∀ v ∈ vs, P v := by
  induction tasks with
  | nil => exact ⟨[], rfl, by simp⟩
  | cons t tasks ih =>
      obtain ⟨⟨v, hrun, hv⟩, htasks⟩ := List.forall_mem_cons.1 h
      obtain ⟨vs, hvs, hmore⟩ := ih htasks
      refine ⟨v :: vs, ?_, List.forall_mem_cons.2 ⟨hv, hmore⟩⟩
      rw [runEach, hrun, hvs]
      rfl

theorem exists_isClean_runMany {p : Pipeline} {tasks : List Task}
    (h : ∀ t ∈ tasks, ∃ v, p.run t scope = .ok v ∧ v.IsClean) :
    ∃ v, p.runMany tasks scope = .ok v ∧ v.IsClean := by
  obtain ⟨vs, hvs, hclean⟩ := exists_runEach_of_forall h
  exact ⟨_, by rw [runMany, hvs]; rfl, Verdict.isClean_combine hclean⟩

theorem isConsistent_of_runs (hreports : ∀ s ∈ steps, s.check.ReportsIssues)
    (hruns : steps.map (·.run t scope) = vs.map .ok) : ∀ v ∈ vs, v.IsConsistent := by
  intro v hv
  have hmem : Except.ok v ∈ steps.map (·.run t scope) := hruns ▸ List.mem_map_of_mem hv
  obtain ⟨s, hs, hrun⟩ := List.mem_map.1 hmem
  obtain ⟨issues, rfl⟩ := hreports s hs _ _ _ hrun
  exact Verdict.isConsistent_ofIssues issues

theorem run_of_all_pass (hreports : ∀ s ∈ steps, s.check.ReportsIssues)
    (hruns : steps.map (·.run t scope) = vs.map .ok) (hvalid : ∀ v ∈ vs, v.valid = true) :
    run ⟨steps⟩ t scope = .ok (Verdict.combine vs) ∧ (Verdict.combine vs).valid = true := by
  have hverdicts : verdicts t scope (steps ++ []) = (verdicts t scope []).map (vs ++ ·) :=
    (run_append hruns hvalid).1
  rw [List.append_nil] at hverdicts
  refine ⟨by simp [run, hverdicts, verdicts, Except.map], ?_⟩
  exact (Verdict.valid_combine_iff (isConsistent_of_runs hreports hruns)).2 hvalid

/-- A pipeline reports the errors of the first step that fails, and the warnings up to it. -/
theorem FirstFailure.run_pipeline {w : Verdict} (h : FirstFailure t scope steps before step vs w)
    (hreports : ∀ s ∈ steps, s.check.ReportsIssues) :
    ∃ v, Pipeline.run ⟨steps⟩ t scope = .ok v ∧ v.valid = false ∧ v.errors = w.errors ∧
      v.warnings = vs.flatMap (·.warnings) ++ w.warnings ∧
      started t scope steps = before ++ [step] := by
  obtain ⟨after, rfl⟩ := h.place
  have happend : verdicts t scope (before ++ step :: after) =
      (verdicts t scope (step :: after)).map (vs ++ ·) ∧
      started t scope (before ++ step :: after) = before ++ started t scope (step :: after) :=
    run_append h.runs h.passes
  obtain ⟨hverdicts, hstarted⟩ := happend
  rw [verdicts_cons_of_not_valid h.run h.fails] at hverdicts
  have hconsistent : ∀ v ∈ vs ++ [w], v.IsConsistent := by
    have hruns : (before ++ [step]).map (·.run t scope) = (vs ++ [w]).map .ok := by
      simp [h.runs, h.run]
    refine isConsistent_of_runs (fun s hs => hreports s ?_) hruns
    rw [List.append_cons]
    exact List.mem_append_left _ hs
  have hcombine : (Verdict.combine (vs ++ [w])).valid = false := by
    rw [← Bool.not_eq_true, Verdict.valid_combine_iff hconsistent]
    intro hall
    simpa [h.fails] using hall w (by simp)
  have herrors : vs.flatMap (·.errors) = [] := by
    rw [List.flatMap_eq_nil_iff]
    exact fun v hv => (hconsistent v (List.mem_append_left _ hv)).errors_eq_nil (h.passes v hv)
  refine ⟨Verdict.combine (vs ++ [w]), ?_, hcombine, ?_, ?_, ?_⟩
  · simp [Pipeline.run, hverdicts, Except.map]
  · simp [Verdict.errors_combine, herrors]
  · simp [Verdict.warnings_combine]
  · simp [hstarted, started, h.run, h.fails]

/-- A pipeline of checks that report issues passes a task exactly when each of them does alone. -/
theorem run_eq_ok (hreports : ∀ s ∈ steps, s.check.ReportsIssues)
    (hruns : ∀ s ∈ steps, ∃ v, s.run t scope = .ok v) :
    ∃ v, run ⟨steps⟩ t scope = .ok v ∧
      (v.valid = true ↔ ∀ s ∈ steps, ∃ w, s.run t scope = .ok w ∧ w.valid = true) ∧
      (v.valid = false → ∃ before step vs w, FirstFailure t scope steps before step vs w ∧
        v.errors = w.errors ∧ v.warnings = vs.flatMap (·.warnings) ++ w.warnings ∧
        started t scope steps = before ++ [step]) := by
  rcases exists_first_failure hruns with ⟨vs, hall, hvalid⟩ | ⟨before, step, vs, w, hfirst⟩
  · obtain ⟨hrun, hcombine⟩ := run_of_all_pass hreports hall hvalid
    refine ⟨_, hrun, iff_of_true hcombine fun s hs => ?_, by simp [hcombine]⟩
    have hmem : s.run t scope ∈ vs.map .ok := hall ▸ List.mem_map_of_mem hs
    obtain ⟨w, hw, heq⟩ := List.mem_map.1 hmem
    exact ⟨w, heq.symm, hvalid w hw⟩
  · obtain ⟨v, hrun, hv, hreported⟩ := hfirst.run_pipeline hreports
    refine ⟨v, hrun, iff_of_false (by simp [hv]) fun h => ?_,
      fun _ => ⟨before, step, vs, w, hfirst, hreported⟩⟩
    obtain ⟨after, rfl⟩ := hfirst.place
    obtain ⟨u, hu, huvalid⟩ := h step (by simp)
    rw [hfirst.run, Except.ok.injEq] at hu
    simp [← hu, hfirst.fails] at huvalid

end Run

/-- **Stopping early keeps the verdict.** For checks that report issues and come to a verdict on a
task, the pipeline passes the task exactly when every check does alone; what it reports is settled
by the first failure in priority order. Permuting the steps never changes whether the task passes,
and changes nothing at all when steps of one rank keep their order. -/
theorem valid_run_ofSteps_iff {t : Task} {scope : Scope} {steps : List Step}
    (hchecks : ∀ s ∈ steps, s.check ∈ Check.named.map Prod.snd ∨ s.check.ReportsIssues)
    (hruns : ∀ s ∈ steps, ∃ v, s.run t scope = .ok v) :
    ∃ ordered v, ofSteps steps = ⟨ordered⟩ ∧ InPriorityOrder steps ordered ∧
      (ofSteps steps).run t scope = .ok v ∧
      (v.valid = true ↔ ∀ s ∈ steps, ∃ w, s.run t scope = .ok w ∧ w.valid = true) ∧
      (v.valid = false → ∃ before step vs w, FirstFailure t scope ordered before step vs w ∧
        v.errors = w.errors ∧ v.warnings = vs.flatMap (·.warnings) ++ w.warnings ∧
        started t scope ordered = before ++ [step]) ∧
      ∀ others : List Step, others.Perm steps →
        (∃ u, (ofSteps others).run t scope = .ok u ∧ u.valid = v.valid) ∧
        ((∀ rank, others.filter (·.check.rank = rank) = steps.filter (·.check.rank = rank)) →
          (ofSteps others).run t scope = .ok v ∧
          started t scope (ofSteps others).steps = started t scope ordered) := by
  have hreports : ∀ s ∈ steps, s.check.ReportsIssues := fun s hs =>
    (hchecks s hs).elim Check.reportsIssues_of_mem_named id
  -- What holds of the steps given holds of them in any order, so of every sorted permutation.
  have hsorted : ∀ others : List Step, others.Perm steps →
      ∀ s, s ∈ (ofSteps others).steps ↔ s ∈ steps := fun others hperm s =>
    ((inPriorityOrder_ofSteps others).perm.trans hperm).mem_iff
  have hrun := fun (others : List Step) (hperm : others.Perm steps) =>
    run_eq_ok (fun s hs => hreports s ((hsorted others hperm s).1 hs))
      (fun s hs => hruns s ((hsorted others hperm s).1 hs))
  obtain ⟨v, hv, hiff, hfailure⟩ := hrun steps (.refl steps)
  simp only [hsorted steps (.refl steps)] at hiff
  refine ⟨(ofSteps steps).steps, v, rfl, inPriorityOrder_ofSteps steps, hv, hiff, hfailure,
    fun others hperm => ⟨?_, fun hranks => ?_⟩⟩
  · obtain ⟨u, hu, huiff, -⟩ := hrun others hperm
    simp only [hsorted others hperm] at huiff
    exact ⟨u, hu, Bool.eq_iff_iff.2 (huiff.trans hiff.symm)⟩
  · have hequal : (ofSteps others).steps = (ofSteps steps).steps := by
      have hothers := inPriorityOrder_ofSteps others
      have hgiven := inPriorityOrder_ofSteps steps
      refine eq_of_descending hothers.descending hgiven.descending fun rank => ?_
      rw [hothers.stable, hgiven.stable, hranks]
    rw [← hequal] at hv
    exact ⟨hv, by rw [hequal]⟩

/-- A check of no name, which finds fault with every task. -/
def faultFinding : Check where
  title := "FaultFinding"
  rank := 60
  run t _ := .ok (.ofIssues [.missingSubtasks t.id])

/-- Two checks of one rank, of which only the first passes, and one of higher rank after them. -/
def mixedSteps : List Step :=
  [⟨Check.status, []⟩, ⟨faultFinding, []⟩, ⟨Check.identity, [("strict_format", .bool true)]⟩]

def plannedTask : Task := { (default : Task) with id := "AB0001", status := Task.plannedStatus }

def standardScope : Scope := ⟨Policy.standard, default, []⟩

theorem exists_run_mixedSteps_eq_ok :
    (∀ s ∈ mixedSteps, s.check ∈ Check.named.map Prod.snd ∨ s.check.ReportsIssues) ∧
      (∀ s ∈ mixedSteps, ∃ v, s.run plannedTask standardScope = .ok v) ∧
      ∃ v, (ofSteps mixedSteps).run plannedTask standardScope = .ok v ∧ v.valid = false := by
  have hchecks : ∀ s ∈ mixedSteps,
      s.check ∈ Check.named.map Prod.snd ∨ s.check.ReportsIssues := by
    simp only [mixedSteps, List.forall_mem_cons]
    refine ⟨Or.inl (by simp [Check.named]), Or.inr ?_, Or.inl (by simp [Check.named]), by simp⟩
    exact Check.reportsIssues_of_run_eq fun _ _ => rfl
  have hruns : ∀ s ∈ mixedSteps, ∃ v, s.run plannedTask standardScope = .ok v := by
    simp only [mixedSteps, List.forall_mem_cons]
    exact ⟨⟨_, rfl⟩, ⟨_, rfl⟩, ⟨_, rfl⟩, by simp⟩
  obtain ⟨_, v, -, -, hrun, hvalid, -, -⟩ := valid_run_ofSteps_iff hchecks hruns
  refine ⟨hchecks, hruns, v, hrun, ?_⟩
  rw [← Bool.not_eq_true, hvalid]
  intro hall
  obtain ⟨w, hw, hpasses⟩ := hall ⟨faultFinding, []⟩ (by simp [mixedSteps])
  have hfails : w = .ofIssues [.missingSubtasks plannedTask.id] := (Except.ok.inj hw).symm
  rw [hfails] at hpasses
  exact absurd hpasses (by decide)

end Pipeline

end TaskAudit
