import TaskAudit.Proofs.Consistency
import TaskAudit.Proofs.CycleCoverage
import TaskAudit.Proofs.Soundness

/-!
# Stricter settings

Settings are stricter than others if they switch on all options that those do. A check other than
that of code quality passes no task under stricter settings that it does not pass under the others,
although a stricter check may look at fewer lines. And a list that passes some checks passes any
selection of them.
-/

namespace TaskAudit

open Document Content

/-- Settings that switch on every option that others do. -/
def Settings.Tightens (s' s : Settings) : Prop :=
  ∀ option default, s.isOn option default = true → s'.isOn option default = true

/-- Where nothing is said an option is as it is by default. -/
theorem Settings.tightens_nil {s : Settings} (h : ∀ entry ∈ s, entry.2.isTruthy = true) :
    s.Tightens [] := by
  intro option default hdefault
  rw [isOn]
  cases hget : s.get? option with
  | none => exact hdefault
  | some v => exact h _ (Catalog.mem_of_get?_eq_some hget)

theorem Preset.tightens_nil_of_mem {name : String} {settings : Settings}
    (h : (name, settings) ∈ strictSettings) : settings.Tightens [] := by
  have hall : ∀ entry ∈ strictSettings, ∀ option ∈ entry.2, option.2.isTruthy = true := by decide
  exact Settings.tightens_nil (hall _ h)

/-! ### Issues that come up under fewer conditions -/

namespace NoErrors

variable {issues more issues₁ more₁ : List Issue}

theorem append_mono (h : NoErrors more → NoErrors issues)
    (h₁ : NoErrors more₁ → NoErrors issues₁) :
    NoErrors (more ++ more₁) → NoErrors (issues ++ issues₁) := by
  rw [append_iff, append_iff]
  exact And.imp h h₁

theorem flatMap_mono {α : Type} {xs : List α} {f g : α → List Issue}
    (h : ∀ x ∈ xs, NoErrors (g x) → NoErrors (f x)) :
    NoErrors (xs.flatMap g) → NoErrors (xs.flatMap f) := by
  simp only [NoErrors, List.forall_mem_flatMap]
  exact fun hg x hx => h x hx (hg x hx)

theorem ite_nil_mono {p q : Prop} [Decidable p] [Decidable q] (h : p → q) :
    NoErrors (if q then more else []) → NoErrors (if p then more else []) := by
  intro hmore
  by_cases hp : p
  · rw [if_pos (h hp)] at hmore
    rwa [if_pos hp]
  · rw [if_neg hp]
    exact List.forall_mem_nil _

theorem ite_mono {p : Prop} [Decidable p] (h : p → NoErrors more → NoErrors issues)
    (h₁ : ¬ p → NoErrors more₁ → NoErrors issues₁) :
    NoErrors (if p then more else more₁) → NoErrors (if p then issues else issues₁) := by
  by_cases hp : p
  · rw [if_pos hp, if_pos hp]
    exact h hp
  · rw [if_neg hp, if_neg hp]
    exact h₁ hp

/-- An error that lists what is missing. -/
theorem missing_mono {α : Type} {missing others : List α} {i j : Issue} (hi : i.isWarning = false)
    (h : missing = [] → others = []) :
    NoErrors (if missing.isEmpty then [] else [i]) →
      NoErrors (if others.isEmpty then [] else [j]) := by
  intro hmissing
  rw [if_pos (List.isEmpty_iff.2 (h (List.isEmpty_iff.1 (of_ite_nil hi hmissing))))]
  exact List.forall_mem_nil _

end NoErrors

theorem Content.missingSections_mono {lines more names others : List String} (hlines : lines ⊆ more)
    (hnames : others ⊆ names) (h : missingSections lines names = []) :
    missingSections more others = [] := by
  rw [missingSections_eq_nil_iff] at h ⊢
  exact fun name hname => hasSection_of_subset hlines (h name (hnames hname))

namespace Check

open NoErrors

variable {policy : Policy} {l : TaskList} {lax strict : Settings} {t : Task}

/-! ### Parts of an error handling section -/

namespace ErrorHandling

variable {lines more : List String}

theorem missingMainParts_eq_nil_iff : missingMainParts lines = [] ↔
    (hasSection lines "Core Principles" = true ∨ hasSection lines "Task Principles" = true) ∧
      missingSections lines ["Error Implementation", "Error Examples"] = [] ∧
      lines.any startsSpecifics = true := by
  simp only [missingMainParts, List.append_eq_nil_iff, ite_eq_left_iff, List.cons_ne_self,
    Bool.or_eq_true, imp_false, not_not, and_assoc]

theorem missingParts_mono (hlines : lines ⊆ more) (h : missingParts t lines = []) :
    missingParts t more = [] := by
  unfold missingParts at h ⊢
  cases hsubtask : t.isSubtask with
  | true =>
      rw [hsubtask] at h
      exact missingSections_mono hlines (List.Subset.refl _) h
  | false =>
    rw [hsubtask, if_neg Bool.false_ne_true, missingMainParts_eq_nil_iff] at h
    rw [if_neg Bool.false_ne_true, missingMainParts_eq_nil_iff]
    obtain ⟨hprinciples, hsections, hspecifics⟩ := h
    refine ⟨hprinciples.imp ?_ ?_, missingSections_mono hlines (List.Subset.refl _) hsections, ?_⟩
    · exact hasSection_of_subset hlines
    · exact hasSection_of_subset hlines
    · obtain ⟨line, hline, hstarts⟩ := List.any_eq_true.1 hspecifics
      exact List.any_eq_true.2 ⟨line, hlines hline, hstarts⟩

theorem incomplete_mono (hlines : lines ⊆ more) :
    NoErrors (incomplete t lines) → NoErrors (incomplete t more) :=
  missing_mono rfl (missingParts_mono hlines)

/-- Where references do not count a task needs a section of its own, and it has fewer lines for the
parts of that section. -/
theorem documentationIssues_mono (references : References) :
    NoErrors (documentationIssues references false t) →
      NoErrors (documentationIssues references true t) := by
  unfold documentationIssues
  refine ite_mono (fun _ => incomplete_mono (subset_expanded references)) fun _ h => ?_
  exact absurd h (not_singleton rfl)

end ErrorHandling

/-! ### Single checks under stricter settings -/

theorem Passes.mono {c : Check} {scope scope' : Scope} {issues more : List Issue}
    (hpasses : c.Passes t scope') (hmore : c.run t scope' = .ok (.ofIssues more))
    (hissues : c.run t scope = .ok (.ofIssues issues)) (h : NoErrors more → NoErrors issues) :
    c.Passes t scope :=
  ⟨_, hissues, (Verdict.valid_ofIssues_iff _).2 (h (hpasses.noErrors hmore))⟩

section Tightens

variable (h : strict.Tightens lax)

include h

theorem Identity.formatIssues_mono (everything : List Task) :
    NoErrors (formatIssues ⟨policy, l, strict⟩ everything t) →
      NoErrors (formatIssues ⟨policy, l, lax⟩ everything t) := by
  unfold formatIssues
  refine ite_mono (fun _ => id) fun _ => ite_mono (fun _ => id) fun _ => ?_
  -- Whether an id may have a dash is all that is left to the settings.
  cases hon : lax.isOn "strict_format" with
  | true =>
      rw [h _ _ hon]
      exact id
  | false =>
      cases TaskId.isDashedMain t.id with
      | true => exact fun _ => List.forall_mem_nil _
      | false =>
          simp only [Bool.and_false]
          exact id

theorem Identity.issues_mono :
    NoErrors (issues t ⟨policy, l, strict⟩) → NoErrors (issues t ⟨policy, l, lax⟩) :=
  append_mono (flatMap_mono fun _ _ =>
    append_mono (append_mono (formatIssues_mono h _) id) id) id

theorem Status.issues_mono :
    NoErrors (issues t ⟨policy, l, strict⟩) → NoErrors (issues t ⟨policy, l, lax⟩) :=
  append_mono id (ite_nil_mono (h _ _))

theorem ErrorHandling.issues_mono :
    NoErrors (issues t ⟨policy, l, strict⟩) → NoErrors (issues t ⟨policy, l, lax⟩) := by
  refine append_mono ?_ id
  cases hlax : lax.isOn "require_comprehensive" with
  | true =>
      rw [h _ _ hlax]
      exact id
  | false =>
      cases strict.isOn "require_comprehensive" with
      | true => exact documentationIssues_mono l.references
      | false => exact id

theorem Sections.required_subset :
    required t (lax.isOn "enforce_all_sections") ⊆
      required t (strict.isOn "enforce_all_sections") := by
  unfold required
  split
  · refine List.append_subset.2 ⟨List.subset_append_left _ _, ?_⟩
    cases hon : lax.isOn "enforce_all_sections" with
    | true =>
        rw [h _ _ hon]
        exact List.subset_append_right _ _
    | false => exact List.nil_subset _
  · exact List.Subset.refl _

theorem Sections.issues_mono :
    NoErrors (issues t ⟨policy, l, strict⟩) → NoErrors (issues t ⟨policy, l, lax⟩) := by
  refine append_mono (append_mono (fun hmissing => ?_) id) id
  rw [NoErrors, List.forall_mem_map] at hmissing ⊢
  intro name hname
  exact hmissing name (List.filter_subset _ (required_subset h) hname)

theorem Subtasks.missing_eq_nil_mono {references : References}
    (hmissing : missing references (strict.isOn "strict_formatting") t = []) :
    missing references (lax.isOn "strict_formatting") t = [] := by
  rw [missing, List.append_eq_nil_iff] at hmissing ⊢
  refine ⟨missingSections_mono (List.Subset.refl _) ?_ hmissing.1, hmissing.2⟩
  refine List.append_subset.2 ⟨?_, List.subset_append_right _ _⟩
  cases hon : lax.isOn "strict_formatting" with
  | true =>
      rw [h _ _ hon]
      exact List.subset_append_left _ _
  | false => exact List.nil_subset _

theorem Subtasks.issues_mono :
    NoErrors (issues t ⟨policy, l, strict⟩) → NoErrors (issues t ⟨policy, l, lax⟩) := by
  refine flatMap_mono fun u _ => append_mono (append_mono id ?_) id
  exact ite_mono (fun _ => append_mono (missing_mono rfl (missing_eq_nil_mono h)) id) fun _ => id

theorem Dependencies.issues_mono :
    NoErrors (issues t ⟨policy, l, strict⟩) → NoErrors (issues t ⟨policy, l, lax⟩) :=
  ite_mono (fun _ => append_mono (append_mono id (ite_nil_mono (h _ _))) id) fun _ => id

theorem Category.issues_mono :
    NoErrors (issues t ⟨policy, l, strict⟩) → NoErrors (issues t ⟨policy, l, lax⟩) := by
  unfold issues
  cases TaskId.number? t.id with
  | none => exact id
  | some number =>
      cases hcategory : policy.categoryOf? number with
      | none =>
          simp only [hcategory]
          exact id
      | some category =>
          simp only [hcategory]
          refine ite_nil_mono ?_
          simp only [Bool.and_eq_true, Bool.or_eq_true]
          exact And.imp_left (Or.imp_right (h _ _))

theorem Passes.mono_errorHandling (hpasses : errorHandling.Passes t ⟨policy, l, strict⟩) :
    errorHandling.Passes t ⟨policy, l, lax⟩ := by
  by_cases hmarker : t.marker = some .checkbox
  · exact ⟨.passed [] 0, by simp [errorHandling, hmarker], rfl⟩
  · have hrun : ∀ s, errorHandling.run t ⟨policy, l, s⟩ =
        .ok (.ofIssues (ErrorHandling.issues t ⟨policy, l, s⟩)) := by
      simp [errorHandling, hmarker]
    exact hpasses.mono (hrun _) (hrun _) (ErrorHandling.issues_mono h)

theorem Passes.mono_subtasks (hpasses : subtasks.Passes t ⟨policy, l, strict⟩) :
    subtasks.Passes t ⟨policy, l, lax⟩ := by
  by_cases hmain : t.isMain = true
  · have hrun : ∀ s, subtasks.run t ⟨policy, l, s⟩ =
        .ok (.ofIssues (Subtasks.issues t ⟨policy, l, s⟩)) := by
      simp [subtasks, hmain]
    exact hpasses.mono (hrun _) (hrun _) (Subtasks.issues_mono h)
  · exact ⟨.passed [] 0, by simp [subtasks, hmain], rfl⟩

/-- A check but that of code quality passes under other settings what it passes under stricter
ones. -/
theorem Passes.mono_of_tightens {name : String} {c : Check} (hc : (name, c) ∈ named)
    (hname : name ≠ "kpi") (hpasses : c.Passes t ⟨policy, l, strict⟩) :
    c.Passes t ⟨policy, l, lax⟩ := by
  simp only [named, List.mem_cons, Prod.mk.injEq, List.not_mem_nil, or_false] at hc
  rcases hc with ⟨-, rfl⟩ | ⟨-, rfl⟩ | ⟨-, rfl⟩ | ⟨-, rfl⟩ | ⟨-, rfl⟩ | ⟨-, rfl⟩ | ⟨-, rfl⟩ |
    ⟨rfl, -⟩
  · exact hpasses.mono rfl rfl (Identity.issues_mono h)
  · exact hpasses.mono rfl rfl (Status.issues_mono h)
  · exact Passes.mono_errorHandling h hpasses
  · exact hpasses.mono rfl rfl (Sections.issues_mono h)
  · exact Passes.mono_subtasks h hpasses
  · exact hpasses.mono rfl rfl (Dependencies.issues_mono h)
  · exact hpasses.mono rfl rfl (Category.issues_mono h)
  · exact absurd rfl hname

end Tightens

end Check

/-! ### Audits with fewer checks -/

namespace Pipeline

variable {p : Pipeline} {t : Task} {scope : Scope}

theorem exists_valid_run (hp : ∀ s ∈ p.steps, s.check ∈ Check.named.map Prod.snd)
    (h : ∀ s ∈ p.steps, ∃ v, s.run t scope = .ok v ∧ v.valid = true) :
    ∃ v, p.run t scope = .ok v ∧ v.valid = true := by
  have hreports : ∀ s ∈ p.steps, s.check.ReportsIssues :=
    fun s hs => Check.reportsIssues_of_mem_named (hp s hs)
  obtain ⟨v, hrun, hvalid, -⟩ := run_eq_ok hreports fun s hs => (h s hs).imp fun _ => And.left
  exact ⟨v, hrun, hvalid.2 h⟩

theorem exists_valid_runMany {tasks : List Task}
    (hp : ∀ s ∈ p.steps, s.check ∈ Check.named.map Prod.snd)
    (h : ∀ t ∈ tasks, ∀ s ∈ p.steps, ∃ v, s.run t scope = .ok v ∧ v.valid = true) :
    ∃ v, p.runMany tasks scope = .ok v ∧ v.valid = true := by
  obtain ⟨vs, hvs, hvalid⟩ :=
    exists_runEach_of_forall fun t ht => exists_valid_run hp (h t ht)
  have hconsistent : ∀ v ∈ vs, v.IsConsistent :=
    fun v hv => (isSorted_of_mem_runEach hp hvs v hv).isConsistent
  exact ⟨_, by rw [runMany, hvs]; rfl, (Verdict.valid_combine_iff hconsistent).2 hvalid⟩

end Pipeline

namespace Audit

variable {policy : Policy} {l : TaskList} {p q : Pipeline} {v : Verdict}

/-- An audit passes where the references are in order and every step passes. -/
theorem exists_valid_verdict (hp : ∀ s ∈ p.steps, s.check ∈ Check.named.map Prod.snd)
    (hreferences : (Usage.checkList l none).valid = true)
    (hsteps : ∀ t ∈ l.mainTasks, ∀ s ∈ p.steps,
      ∃ v, s.run t ⟨policy, l, []⟩ = .ok v ∧ v.valid = true) :
    ∃ v, verdict policy p l = .ok v ∧ v.valid = true := by
  obtain ⟨tasks, htasks, hvalid⟩ := Pipeline.exists_valid_runMany hp hsteps
  have hboth : ∀ w ∈ [Usage.checkList l none, tasks], w.IsConsistent := by
    simp only [List.forall_mem_cons]
    exact ⟨(Usage.isSorted_check _ _).isConsistent,
      (Pipeline.isSorted_of_runMany hp htasks).isConsistent, by simp⟩
  refine ⟨(Verdict.combine [Usage.checkList l none, tasks]).withTaskCount l.size, ?_, ?_⟩
  · rw [verdict, htasks]
    rfl
  · exact (Verdict.valid_combine_iff hboth).2 (by simp [hreferences, hvalid])

/-- What passes an audit passes one with some of its steps. -/
theorem exists_valid_verdict_of_subset (hp : ∀ s ∈ p.steps, s.check ∈ Check.named.map Prod.snd)
    (hsteps : p.steps ⊆ q.steps) (h : verdict policy q l = .ok v) (hvalid : v.valid = true) :
    ∃ w, verdict policy p l = .ok w ∧ w.valid = true := by
  obtain ⟨hreferences, hpasses⟩ := steps_pass_of_verdict h hvalid
  exact exists_valid_verdict hp hreferences fun t ht s hs => hpasses t ht s (hsteps hs)

/-- What passes by default passes with the checks of ids and statuses alone. -/
theorem exists_valid_minimal (h : verdictByPreset policy "default" l = .ok v)
    (hvalid : v.valid = true) :
    ∃ w, verdictByPreset policy "minimal" l = .ok w ∧ w.valid = true := by
  have hminimal : ("minimal", Preset.minimal) ∈ Preset.all := by simp [Preset.all]
  have hnamed : ∀ s ∈ Preset.minimal, s.check ∈ Check.named.map Prod.snd := by
    simp [Preset.minimal, Check.named]
  have hsubset : Preset.minimal ⊆ Preset.default := by
    simp [Preset.minimal, Preset.default, Check.named]
  simp only [verdictByPreset_eq_ok_iff hminimal]
  refine exists_valid_verdict_of_subset (fun s hs => hnamed s (Pipeline.mem_ofSteps.1 hs)) ?_
    (verdictByPreset_default_eq_ok_iff.1 h) hvalid
  exact fun s hs => Pipeline.mem_ofSteps.2 (hsubset (Pipeline.mem_ofSteps.1 hs))

/-- **Stricter never passes more.** Each check but that of code quality passes a task without
settings if it does with those of the strict preset, whatever the policy, the list and the task. A
list that is valid by the default preset is valid by the minimal one. -/
theorem passes_of_strict_and_minimal_of_default (policy : Policy) (l : TaskList) :
    (∀ name check settings, (name, check) ∈ Check.named →
      (name, settings) ∈ Preset.strictSettings → name ≠ "kpi" →
      ∀ t, check.Passes t ⟨policy, l, settings⟩ → check.Passes t ⟨policy, l, []⟩) ∧
    ∀ v, verdictByPreset policy "default" l = .ok v → v.valid = true →
      ∃ w, verdictByPreset policy "minimal" l = .ok w ∧ w.valid = true :=
  ⟨fun _ _ _ hcheck hsettings hname _ =>
      Check.Passes.mono_of_tightens (Preset.tightens_nil_of_mem hsettings) hcheck hname,
    fun _ => exists_valid_minimal⟩

open Check in
theorem passes_of_strict_and_minimal_of_default_subtaskCycle :
    (∃ t ∈ subtaskCycleList.mainTasks,
      errorHandling.Passes t
          ⟨.standard, subtaskCycleList, [("require_comprehensive", .bool true)]⟩ ∧
        errorHandling.Passes t ⟨.standard, subtaskCycleList, []⟩) ∧
    ∃ v w, verdictByPreset .standard "default" subtaskCycleList = .ok v ∧ v.valid = true ∧
      verdictByPreset .standard "minimal" subtaskCycleList = .ok w ∧ w.valid = true := by
  obtain ⟨hsingle, hpresets⟩ :=
    passes_of_strict_and_minimal_of_default .standard subtaskCycleList
  obtain ⟨v, hv, hclean, -⟩ :=
    exists_isClean_verdict contains_references_subtaskCycle isSilent_subtaskCycle
  obtain ⟨w, hw, hvalid⟩ := hpresets v hv hclean.valid
  refine ⟨?_, v, w, hv, hclean.valid, hw, hvalid⟩
  have hstrict : ∃ t ∈ subtaskCycleList.mainTasks, (errorHandling.run t
      ⟨.standard, subtaskCycleList, [("require_comprehensive", .bool true)]⟩).toOption.map
        (·.valid) = some true := by
    decide +kernel
  obtain ⟨t, ht, hrun⟩ := hstrict
  have hpasses := Passes.of_toOption hrun
  refine ⟨t, ht, hpasses, hsingle "error_handling" errorHandling _ ?_ ?_ (by decide) t hpasses⟩
  · simp [named]
  · simp [Preset.strictSettings]

end Audit

end TaskAudit
