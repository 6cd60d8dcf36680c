import TaskAudit.Proofs.Dependencies
import TaskAudit.Proofs.Pipeline

/-!
# The kinds of issues that a check reports

Each check has its own kinds of issues, so the kind of an issue tells which check it is from. Only
ratings and the sections of categories are the business of two checks each: tasks are rated as well
as subtasks, and the sections of a category are asked for among all sections and by the category.
-/

namespace TaskAudit

theorem Verdict.mem_ofIssues_iff {issues : List Issue} {i : Issue} :
    i ∈ (ofIssues issues).errors ++ (ofIssues issues).warnings ↔ i ∈ issues := by
  rw [ofIssues, ofLists, List.mem_append, List.mem_filter, List.mem_filter]
  cases i.isWarning <;> simp

namespace Check

section Lists

variable {i a : Issue} {p : Prop} [Decidable p]

theorem eq_of_mem_ite_nil (h : i ∈ if p then [] else [a]) : i = a := by
  by_cases hp : p
  · simp [hp] at h
  · simpa [hp] using h

theorem eq_of_mem_ite_singleton (h : i ∈ if p then [a] else []) : i = a := by
  by_cases hp : p
  · simpa [hp] using h
  · simp [hp] at h

end Lists

section Issues

variable {t : Task} {scope : Scope} {policy : Policy} {references : References} {i : Issue}

/-! ### Ids -/

namespace Identity

def kinds : List IssueKind :=
  [.invalidIdFormat, .invalidSubtaskId, .duplicateTaskId, .mixedCodes, .codeMismatch,
    .unrecognizedCode]

theorem kind_of_mem_formatIssues {everything : List Task}
    (h : i ∈ formatIssues scope everything t) :
    i.kind = .invalidIdFormat ∨ i.kind = .invalidSubtaskId := by
  rw [formatIssues] at h
  split at h
  · split at h
    · split at h
      · rw [List.mem_singleton.1 h]
        exact Or.inl rfl
      · rw [eq_of_mem_ite_nil h]
        exact Or.inr rfl
    · rw [List.mem_singleton.1 h]
      exact Or.inl rfl
  · split at h
    · simp at h
    · rw [eq_of_mem_ite_nil h]
      exact Or.inl rfl

/-- A repetition is an error and names the id. -/
theorem of_mem_duplicateIssues {everything : List Task} (h : i ∈ duplicateIssues everything t) :
    i.kind = .duplicateTaskId ∧ i.taskId = some t.id ∧ i.isWarning = false := by
  rw [duplicateIssues] at h
  split at h
  · simp at h
  · dsimp only at h
    split at h
    · simp at h
    · rw [eq_of_mem_ite_nil h]
      exact ⟨rfl, rfl, rfl⟩

/-- The warning about codes lists those of the whole list. -/
theorem eq_of_mem_codeIssues {everything : List Task} (h : i ∈ codeIssues everything t) :
    i = .mixedCodes t.id (codes everything) := by
  rw [codeIssues] at h
  split at h
  · simp at h
  · split at h
    · simp at h
    · split at h
      · exact eq_of_mem_ite_singleton h
      · exact List.mem_singleton.1 h

theorem kind_of_mem_codeIssues {everything : List Task} (h : i ∈ codeIssues everything t) :
    i.kind = .mixedCodes := by
  rw [eq_of_mem_codeIssues h]
  rfl

theorem kind_of_mem_meaningIssues (h : i ∈ meaningIssues policy t) :
    i.kind = .codeMismatch ∨ i.kind = .unrecognizedCode := by
  rw [meaningIssues] at h
  split at h
  · simp at h
  · split at h
    · simp at h
    · split at h
      · rw [List.mem_singleton.1 h]
        exact Or.inr rfl
      · rw [eq_of_mem_ite_nil h]
        exact Or.inl rfl

/-- The issues of a task are those of it and of each of its subtasks, and those of its category. -/
theorem mem_issues_iff : i ∈ issues t scope ↔
    (∃ u ∈ if t.isMain then t :: t.subtasks else [t],
      i ∈ formatIssues scope scope.list.allTasks u ∨
        i ∈ duplicateIssues scope.list.allTasks u ∨ i ∈ codeIssues scope.list.allTasks u) ∨
    (t.isMain = true ∧ scope.policy.checkCodes = true ∧ i ∈ meaningIssues scope.policy t) := by
  simp [issues, and_assoc]

theorem kind_of_mem_issues (h : i ∈ issues t scope) : i.kind ∈ kinds := by
  rcases mem_issues_iff.1 h with ⟨u, -, h | h | h⟩ | ⟨-, -, h⟩
  · rcases kind_of_mem_formatIssues h with h | h <;> simp [h, kinds]
  · simp [(of_mem_duplicateIssues h).1, kinds]
  · simp [kind_of_mem_codeIssues h, kinds]
  · rcases kind_of_mem_meaningIssues h with h | h <;> simp [h, kinds]

end Identity

/-! ### Statuses -/

namespace Status

def kinds : List IssueKind :=
  [.invalidStatus, .invalidPriority, .missingSubtasks, .missingReviewRating, .invalidReviewRating,
    .inconsistentSubtaskStatus]

theorem kind_of_mem_ratingIssues (h : i ∈ ratingIssues policy t) :
    i.kind = .missingReviewRating ∨ i.kind = .invalidReviewRating := by
  rw [ratingIssues] at h
  split at h
  · simp at h
  · split at h
    · rw [List.mem_singleton.1 h]
      exact Or.inl rfl
    · rw [eq_of_mem_ite_nil h]
      exact Or.inr rfl

theorem kind_of_mem_issues (h : i ∈ issues t scope) : i.kind ∈ kinds := by
  simp only [issues, List.mem_append] at h
  rcases h with (((h | h) | h) | h) | h
  · have hkind : i.kind = .invalidStatus := by rw [eq_of_mem_ite_nil h]; rfl
    simp [hkind, kinds]
  · have hkind : i.kind = .invalidPriority := by
      rw [priorityIssues] at h
      split at h
      · simp at h
      · rw [eq_of_mem_ite_nil h]
        rfl
    simp [hkind, kinds]
  · have hkind : i.kind = .missingSubtasks := by rw [eq_of_mem_ite_singleton h]; rfl
    simp [hkind, kinds]
  · rcases kind_of_mem_ratingIssues h with h | h <;> simp [h, kinds]
  · have hkind : i.kind = .inconsistentSubtaskStatus := by
      split at h
      · rw [eq_of_mem_ite_singleton h]
        rfl
      · simp at h
    simp [hkind, kinds]

end Status

/-! ### Error handling -/

namespace ErrorHandling

def kinds : List IssueKind :=
  [.missingErrorHandling, .incompleteErrorHandling, .missingErrorImplementation]

theorem kind_of_mem_documentationIssues {accept : Bool}
    (h : i ∈ documentationIssues references accept t) :
    i.kind = .missingErrorHandling ∨ i.kind = .incompleteErrorHandling := by
  have hincomplete : ∀ {evidence}, i ∈ incomplete t evidence →
      i.kind = .incompleteErrorHandling := by
    intro evidence h
    rw [eq_of_mem_ite_nil h]
    rfl
  rw [documentationIssues] at h
  dsimp only at h
  split at h
  · exact Or.inr (hincomplete h)
  · generalize (if accept then referenceNames t.ownLines else []) = names at h
    split at h
    · rw [List.mem_singleton.1 h]
      exact Or.inl rfl
    · exact Or.inr (hincomplete h)

theorem kind_of_mem_issues (h : i ∈ issues t scope) : i.kind ∈ kinds := by
  rcases List.mem_append.1 h with h | h
  · rcases kind_of_mem_documentationIssues h with h | h <;> simp [h, kinds]
  · have hkind : i.kind = .missingErrorImplementation := by rw [eq_of_mem_ite_singleton h]; rfl
    simp [hkind, kinds]

end ErrorHandling

/-! ### Sections -/

namespace Sections

def kinds : List IssueKind :=
  [.missingSection, .missingCompletionSections, .missingCategorySections]

theorem kind_of_mem_categoryIssues {lines : List String} {category : String}
    (h : i ∈ categoryIssues policy lines t category) : i.kind = .missingCategorySections := by
  rw [eq_of_mem_ite_nil h]
  rfl

theorem kind_of_mem_issues (h : i ∈ issues t scope) : i.kind ∈ kinds := by
  simp only [issues, List.mem_append] at h
  rcases h with (h | h) | h
  · obtain ⟨name, -, rfl⟩ := List.mem_map.1 h
    exact .head _
  · have hkind : i.kind = .missingCompletionSections := by rw [eq_of_mem_ite_singleton h]; rfl
    simp [hkind, kinds]
  · have hkind : i.kind = .missingCategorySections := by
      split at h
      · split at h
        · exact kind_of_mem_categoryIssues h
        · simp at h
      · simp at h
    simp [hkind, kinds]

end Sections

/-! ### Subtasks -/

namespace Subtasks

def kinds : List IssueKind :=
  [.invalidSubtaskStatus, .missingSubtaskSections, .missingReviewRating, .invalidReviewRating,
    .inconsistentSubtaskCode]

theorem kind_of_mem_issues (h : i ∈ issues t scope) : i.kind ∈ kinds := by
  obtain ⟨u, -, h⟩ := List.mem_flatMap.1 h
  simp only [List.mem_append] at h
  rcases h with (h | h) | h
  · have hkind : i.kind = .invalidSubtaskStatus := by rw [eq_of_mem_ite_nil h]; rfl
    simp [hkind, kinds]
  · rw [numberedIssues] at h
    split at h
    · rcases List.mem_append.1 h with h | h
      · have hkind : i.kind = .missingSubtaskSections := by rw [eq_of_mem_ite_nil h]; rfl
        simp [hkind, kinds]
      · rcases Status.kind_of_mem_ratingIssues h with h | h <;> simp [h, kinds]
    · simp at h
  · have hkind : i.kind = .inconsistentSubtaskCode := by rw [eq_of_mem_ite_singleton h]; rfl
    simp [hkind, kinds]

end Subtasks

/-! ### Dependencies -/

namespace Dependencies

def kinds : List IssueKind :=
  [.missingDependenciesSection, .missingDependencyReference, .invalidDependencyReference,
    .circularDependency]

theorem kind_of_mem_issues (h : i ∈ issues t scope) : i.kind ∈ kinds := by
  rw [issues] at h
  split at h
  · simp only [List.mem_append] at h
    rcases h with (h | h) | h
    · simp [kind_of_mem_referenceIssues h, kinds]
    · split at h
      · simp [kind_of_mem_existenceIssues h, kinds]
      · simp at h
    · obtain ⟨path, rfl⟩ := exists_eq_of_mem_cycleIssues h
      exact List.mem_of_getElem? (i := 3) rfl
  · rw [List.mem_singleton.1 h]
    exact .head _

end Dependencies

/-! ### Categories -/

namespace Category

def kinds : List IssueKind :=
  [.invalidCategoryRange, .invalidIdForCategorization, .missingCategorySections]

theorem kind_of_mem_issues (h : i ∈ issues t scope) : i.kind ∈ kinds := by
  rw [issues] at h
  split at h
  · have hkind : i.kind = .invalidIdForCategorization := by rw [eq_of_mem_ite_nil h]; rfl
    simp [hkind, kinds]
  · split at h
    · rw [List.mem_singleton.1 h]
      exact .head _
    · split at h
      · simp [Sections.kind_of_mem_categoryIssues h, kinds]
      · simp at h

end Category

/-! ### Code quality -/

namespace Kpi

def kinds : List IssueKind :=
  [.missingKpiSection, .missingKpiReference, .missingKpiMetrics, .invalidKpiValue]

/-- An error of the value of one of some metrics. -/
def IsValueIssue (t : Task) (metrics : List Metric) (i : Issue) : Prop :=
  ∃ m ∈ metrics, ∃ value limit least word,
    i = .invalidKpiValue t.id m.label value limit least word

theorem isValueIssue_of_mem_valueIssues {c : Complexity} {m : Metric} {x : Binary64}
    {found : List Issue} (hfound : valueIssues scope t c m x = .ok found) (h : i ∈ found) :
    IsValueIssue t [m] i := by
  obtain ⟨base, -, hfound⟩ := bind_eq_ok_iff.1 hfound
  cases hleast : m.isLeast with
  | true =>
      simp only [hleast, if_true] at hfound
      obtain rfl := Except.ok.inj hfound
      exact ⟨m, .head _, _, _, _, _, eq_of_mem_ite_singleton h⟩
  | false =>
      have hlimited : ∀ {limit : Except Fault Binary64}, (do
          let limit ← limit
          return if limit.lt x then [Issue.invalidKpiValue t.id m.label (.ofNumber x)
            (.ofNumber limit) false (some c.name)] else []) = Except.ok found →
          IsValueIssue t [m] i := by
        intro limit hlimit
        obtain ⟨limit, -, hlimit⟩ := bind_eq_ok_iff.1 hlimit
        obtain rfl := Except.ok.inj hlimit
        exact ⟨m, .head _, _, _, _, _, eq_of_mem_ite_singleton h⟩
      cases hscaled : m.isScaled <;>
        simp only [hleast, hscaled, Bool.false_eq_true, if_false, if_true] at hfound <;>
        exact hlimited hfound

theorem IsValueIssue.mono {metrics more : List Metric} (hsubset : metrics ⊆ more)
    (h : IsValueIssue t metrics i) : IsValueIssue t more i := by
  obtain ⟨m, hm, hissue⟩ := h
  exact ⟨m, hsubset hm, hissue⟩

theorem isValueIssue_of_mem_allValueIssues {c : Complexity} {values : Values}
    {metrics : List Metric} {found : List Issue}
    (hfound : allValueIssues scope t c values metrics = .ok found) (h : i ∈ found) :
    IsValueIssue t metrics i := by
  induction metrics generalizing found with
  | nil =>
      obtain rfl := Except.ok.inj hfound
      simp at h
  | cons m metrics ih =>
      have hmore : ∀ {issues : List Issue},
          (do return issues ++ (← allValueIssues scope t c values metrics)) = .ok found →
          (i ∈ issues → IsValueIssue t [m] i) → IsValueIssue t (m :: metrics) i := by
        intro issues hfound hissues
        obtain ⟨more, hmore, hfound⟩ := bind_eq_ok_iff.1 hfound
        obtain rfl := Except.ok.inj hfound
        rcases List.mem_append.1 h with h | h
        · exact (hissues h).mono (by simp)
        · exact (ih hmore h).mono (by simp)
      rw [allValueIssues] at hfound
      cases hvalue : values.get? m with
      | none =>
          rw [hvalue] at hfound
          exact hmore hfound (by simp)
      | some x =>
          rw [hvalue] at hfound
          obtain ⟨issues, hissues, hfound⟩ := bind_eq_ok_iff.1 hfound
          exact hmore hfound (isValueIssue_of_mem_valueIssues hissues)

/-- A task without metrics has one error, and otherwise every error is of a value. -/
theorem cases_of_mem_issues {found : List Issue} (hfound : issues t scope = .ok found)
    (h : i ∈ found) :
    i = .missingKpiSection t.id ∨
    (undefinedNames scope.references t ≠ [] ∧
      i = .missingKpiReference t.id (undefinedNames scope.references t)) ∨
    (∃ missing, i = .missingKpiMetrics t.id missing) ∨ IsValueIssue t Metric.all i := by
  rw [issues] at hfound
  split at hfound
  · obtain rfl := Except.ok.inj hfound
    exact Or.inl (List.mem_singleton.1 h)
  · dsimp only at hfound
    split at hfound
    · next hundefined =>
      obtain rfl := Except.ok.inj hfound
      exact Or.inr (Or.inl ⟨by simp_all, List.mem_singleton.1 h⟩)
    · split at hfound
      · obtain rfl := Except.ok.inj hfound
        exact Or.inr (Or.inr (Or.inl ⟨_, List.mem_singleton.1 h⟩))
      · obtain ⟨c, -, hfound⟩ := bind_eq_ok_iff.1 hfound
        exact Or.inr (Or.inr (Or.inr (isValueIssue_of_mem_allValueIssues hfound h)))

theorem kind_of_mem_issues {found : List Issue} (hfound : issues t scope = .ok found)
    (h : i ∈ found) : i.kind ∈ kinds := by
  rcases cases_of_mem_issues hfound h with
    rfl | ⟨-, rfl⟩ | ⟨missing, rfl⟩ | ⟨m, -, value, limit, least, word, rfl⟩
  · exact .head _
  · exact .tail _ (.head _)
  · exact .tail _ (.tail _ (.head _))
  · exact .tail _ (.tail _ (.tail _ (.head _)))

end Kpi

end Issues

/-! ### All checks -/

/-- All issues that a check reports, of any task, are of some kinds. -/
def ReportsOnly (c : Check) (kinds : List IssueKind) : Prop :=
  ∀ t scope v, c.run t scope = .ok v → ∀ i ∈ v.errors ++ v.warnings, i.kind ∈ kinds

theorem reportsOnly_of_run_eq {c : Check} {kinds : List IssueKind}
    (h : ∀ t scope v, c.run t scope = .ok v →
      ∃ issues, v = .ofIssues issues ∧ ∀ i ∈ issues, i.kind ∈ kinds) : c.ReportsOnly kinds := by
  intro t scope v hrun i hi
  obtain ⟨issues, rfl, hkinds⟩ := h t scope v hrun
  exact hkinds i (Verdict.mem_ofIssues_iff.1 hi)

/-- The named checks with their kinds of issues. -/
def withKinds : List (Check × List IssueKind) :=
  [(identity, Identity.kinds), (status, Status.kinds), (errorHandling, ErrorHandling.kinds),
    (sections, Sections.kinds), (subtasks, Subtasks.kinds), (dependencies, Dependencies.kinds),
    (category, Category.kinds), (kpi, Kpi.kinds)]

theorem map_fst_withKinds : withKinds.map Prod.fst = named.map Prod.snd := rfl

/-- **Each check has its kinds of issues.** -/
theorem reportsOnly_of_mem_withKinds {entry : Check × List IssueKind} (h : entry ∈ withKinds) :
    entry.1.ReportsOnly entry.2 := by
  simp only [withKinds, List.mem_cons, List.not_mem_nil, or_false] at h
  refine reportsOnly_of_run_eq fun t scope v hrun => ?_
  rcases h with rfl | rfl | rfl | rfl | rfl | rfl | rfl | rfl
  · exact ⟨_, (Except.ok.inj hrun).symm, fun _ => Identity.kind_of_mem_issues⟩
  · exact ⟨_, (Except.ok.inj hrun).symm, fun _ => Status.kind_of_mem_issues⟩
  · simp only [errorHandling, Except.ok.injEq] at hrun
    split at hrun
    · exact ⟨[], hrun.symm, by simp⟩
    · exact ⟨_, hrun.symm, fun _ => ErrorHandling.kind_of_mem_issues⟩
  · exact ⟨_, (Except.ok.inj hrun).symm, fun _ => Sections.kind_of_mem_issues⟩
  · simp only [subtasks, Except.ok.injEq] at hrun
    split at hrun
    · exact ⟨_, hrun.symm, fun _ => Subtasks.kind_of_mem_issues⟩
    · exact ⟨[], hrun.symm, by simp⟩
  · exact ⟨_, (Except.ok.inj hrun).symm, fun _ => Dependencies.kind_of_mem_issues⟩
  · exact ⟨_, (Except.ok.inj hrun).symm, fun _ => Category.kind_of_mem_issues⟩
  · obtain ⟨issues, hissues, rfl⟩ := map_eq_ok_iff.1 hrun
    exact ⟨issues, rfl, fun _ => Kpi.kind_of_mem_issues hissues⟩

/-- A kind of issue that only one check has tells the check. -/
theorem eq_of_kind {kind : IssueKind} {d : Check} {kinds : List IssueKind}
    (honly : withKinds.filter (fun entry => kind ∈ entry.2) = [(d, kinds)]) {c : Check}
    (hc : c ∈ named.map Prod.snd) {t : Task} {scope : Scope} {v : Verdict}
    (hrun : c.run t scope = .ok v) {i : Issue} (hi : i ∈ v.errors ++ v.warnings)
    (hkind : i.kind = kind) : c = d := by
  rw [← map_fst_withKinds] at hc
  obtain ⟨entry, hentry, rfl⟩ := List.mem_map.1 hc
  have hmem := reportsOnly_of_mem_withKinds hentry t scope v hrun i hi
  have hfound : entry ∈ withKinds.filter (fun entry => kind ∈ entry.2) :=
    List.mem_filter.2 ⟨hentry, decide_eq_true (hkind ▸ hmem)⟩
  rw [honly, List.mem_singleton] at hfound
  rw [hfound]

/-- Only the check of ids speaks of repetitions. -/
theorem eq_identity_of_duplicate {c : Check} (hc : c ∈ named.map Prod.snd) {t : Task}
    {scope : Scope} {v : Verdict} (hrun : c.run t scope = .ok v) {i : Issue}
    (hi : i ∈ v.errors ++ v.warnings) (hkind : i.kind = .duplicateTaskId) : c = identity :=
  eq_of_kind rfl hc hrun hi hkind

end Check

end TaskAudit
