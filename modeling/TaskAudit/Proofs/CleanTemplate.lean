import TaskAudit.Proofs.CleanEntry

/-!
# Templates pass the checks

No check has anything to report of the document of a template, whatever the category, its range of
numbers and the letter code of the ids.
-/

namespace TaskAudit

open Text Document Content

namespace Template

/-! ### The three main tasks -/

section Complete

variable {template : Template} {code : String} {n : Nat}

theorem isModest_standard : Check.Kpi.IsModest Policy.standard.limits
    (Check.Kpi.values (Entry.metricLines [use "standard-kpis"] "standard-kpis")) := by
  have hvalues : Check.Kpi.values (Entry.metricLines [use "standard-kpis"] "standard-kpis") =
      [(.functionsPerModule, .ofInt 5), (.linesPerFunction, .ofInt 12),
        (.callDepth, .ofInt 2)] := by
    decide
  rw [hvalues]
  exact ⟨by decide, by decide⟩

def doneMetrics : List String :=
  ["- Functions per module: 4", "- Lines per function: 10", "- Call depth: 2"]

theorem isModest_doneMetrics : Check.Kpi.IsModest Policy.standard.limits
    (Check.Kpi.values (Entry.metricLines doneMetrics "def-no-dependencies")) := by
  have hvalues : Check.Kpi.values (Entry.metricLines doneMetrics "def-no-dependencies") =
      [(.functionsPerModule, .ofInt 4), (.linesPerFunction, .ofInt 10),
        (.callDepth, .ofInt 2)] := by
    decide
  rw [hvalues]
  exact ⟨by decide, by decide⟩

theorem isPassive_of_mem_doneMetrics : ∀ line ∈ doneMetrics, IsPassive line := by
  simp only [doneMetrics, List.forall_mem_cons]
  exact ⟨Or.inl (isQuiet_ofList rfl), Or.inl (isQuiet_ofList rfl), Or.inl (isQuiet_ofList rfl),
    by simp⟩

/-- A section of metrics goes on up to the blank line below them. -/
theorem sectionBlock?_doneMetrics (rest : List String) :
    sectionBlock? Check.Kpi.sectionName
      (label Check.Kpi.sectionName :: (doneMetrics ++ "" :: rest)) = some doneMetrics := by
  have hname : IsName Check.Kpi.sectionName := isName_ofList rfl rfl
  have hmetrics : ∀ line ∈ doneMetrics, (!endsBlock line) = true := by decide
  have hblank : ∀ line, ("" :: rest).head? = some line → (!endsBlock line) = false :=
    stops_at_cons (by decide) rest
  simp only [sectionBlock?, afterName?_label hname hname, if_true, takeWhile_run hmetrics hblank]
  rfl

/-- What the closing lines of a task in progress and of a planned one have in common. -/
theorem isComplete_of_closing_eq {e : Entry} {dependency : String}
    (hstatus : e.status = "In Progress" ∨ e.status = "Planned")
    (hpriority : e.priority = "High" ∨ e.priority = "Medium") (hdependency : IsQuiet dependency)
    (hclosing : e.closing = field "Dependencies" dependency ++
      [label "Code Quality KPIs", use "standard-kpis", ""]) : e.IsComplete "standard-kpis" where
  status := by rcases hstatus with heq | heq <;> rw [heq] <;> decide
  priority := by rcases hpriority with heq | heq <;> rw [heq] <;> decide
  finished := by
    intro hcompleted
    rcases hstatus with heq | heq <;> rw [heq] at hcompleted <;>
      exact absurd hcompleted (by decide)
  references := by
    have hlabel : IsName "Dependencies" := isName_ofList rfl rfl
    have hsection : IsName "Code Quality KPIs" := isName_ofList rfl rfl
    have hempty := isPassive_empty.references_eq_nil
    have hnone := references_of_not_mem hdependency.brace_not_mem
    rw [hclosing]
    simp [field, references_label hlabel, references_label hsection, hempty, hnone,
      (isOwn_use "standard-kpis" (by decide)).2]
  defined := by decide
  unlike := by decide
  dependencies := by
    rw [hclosing]
    exact Or.inl (hasSection_label (isName_ofList rfl rfl) (by simp [field]))
  metrics := by
    have hbefore : ∀ line ∈ field "Dependencies" dependency,
        afterName? Check.Kpi.sectionName line = none := by
      have hlabel : IsName "Dependencies" := isName_ofList rfl rfl
      have hother : IsName Check.Kpi.sectionName := isName_ofList rfl rfl
      simp only [field, List.forall_mem_cons]
      refine ⟨?_, afterName?_of_not_mem hdependency.asterisk_not_mem _,
        afterName?_of_not_mem (by decide) _, by simp⟩
      rw [afterName?_label hlabel hother, if_neg (by decide)]
    have hsection : sectionBlock? Check.Kpi.sectionName
        [label "Code Quality KPIs", use "standard-kpis", ""] = some [use "standard-kpis"] := by
      decide
    exact ⟨_, by rw [hclosing, sectionBlock?_append hbefore, hsection], isModest_standard⟩
  complexity := by
    have hnone : (e.closing.findSome? fun line => Check.Kpi.statedWord? line.toList) = none := by
      rw [hclosing, List.findSome?_eq_none_iff]
      simp only [field, List.forall_mem_append, List.forall_mem_cons]
      exact ⟨⟨statedWord?_label (isName_ofList rfl rfl) (by decide),
          statedWord?_of_not_mem hdependency.asterisk_not_mem,
          statedWord?_of_not_mem (by decide), by simp⟩,
        statedWord?_label (isName_ofList rfl rfl) (by decide), by decide,
        statedWord?_of_not_mem (by decide), by simp⟩
    simp [hnone]

theorem isComplete_activeEntry : (template.activeEntry code n).IsComplete "standard-kpis" :=
  isComplete_of_closing_eq (Or.inl rfl) (Or.inl rfl) (isQuiet_ofList rfl) rfl

theorem isComplete_plannedEntry (hcode : TaskId.IsCode code) (hn : n ≤ 9999) :
    (template.plannedEntry code n).IsComplete "standard-kpis" :=
  isComplete_of_closing_eq (Or.inr rfl) (Or.inr rfl) (TaskId.isQuiet_ofNumber hcode hn) rfl

def assessment : String :=
  label "Complexity Assessment" ++ ": Simple - one module with no shared state"

theorem statedWord?_assessment :
    Check.Kpi.statedWord? assessment.toList = some "Simple".toList := by
  decide

theorem isFinished_doneEntry : (template.doneEntry code n).IsFinished where
  completion := by
    have hassessment : hasSection (template.doneEntry code n).closing "Complexity Assessment" =
        true := by
      have hline : assessment ∈ (template.doneEntry code n).closing := by
        simp [doneEntry, assessment]
      exact hasSection_of_mem hline (by decide)
    simp only [Check.Sections.completion, List.forall_mem_cons]
    refine ⟨?_, hassessment, ?_, ?_, by simp⟩
    all_goals exact hasSection_label (isName_ofList rfl rfl) (by simp [doneEntry, field])
  rated := by
    refine ⟨"4.5", rfl, ?_⟩
    have htrimmed : trimmed "4.5" = "4.5" := trimmed_rating (by decide) (by decide)
    rw [htrimmed]
    exact accepts_rating (by decide) (by decide)

/-- The closing lines of the completed task are passive, but for four of them. -/
theorem closing_doneEntry : ∃ notes remarks, (template.doneEntry code n).closing =
    use "def-no-dependencies" :: "" :: label Check.Kpi.sectionName ::
      (doneMetrics ++ "" :: (notes ++ assessment :: remarks)) ∧
    (∀ line ∈ notes, IsPassive line) ∧ ∀ line ∈ remarks, IsPassive line := by
  refine ⟨field "Implementation Notes"
      "- Kept the first version small and documented the public entry points",
    "" :: (field "Maintenance Impact" "- Low, no other task depends on internal details" ++
      field "Error Handling Implementation"
        "- Inputs are validated up front and failures are logged once"), rfl, ?_, ?_⟩
  · exact isPassive_of_mem_field (IsCalmName.of_ofList rfl rfl) (isQuiet_ofList rfl)
  · refine List.forall_mem_cons.2 ⟨isPassive_empty, List.forall_mem_append.2 ⟨?_, ?_⟩⟩
    · exact isPassive_of_mem_field (IsCalmName.of_ofList rfl rfl) (isQuiet_ofList rfl)
    · exact isPassive_of_mem_field (IsCalmName.of_ofList rfl rfl) (isQuiet_ofList rfl)

theorem isComplete_doneEntry : (template.doneEntry code n).IsComplete "def-no-dependencies" := by
  obtain ⟨notes, remarks, hclosing, hnotes, hremarks⟩ := @closing_doneEntry template code n
  have hname : IsName Check.Kpi.sectionName := isName_ofList rfl rfl
  have hmetrics := isPassive_of_mem_doneMetrics
  constructor
  case status =>
    show "Completed" ∈ _
    decide
  case priority =>
    show "Medium" ∈ _
    decide
  case finished => exact fun _ => isFinished_doneEntry
  case references =>
    have hassessment : Document.references assessment = [] :=
      references_label_append (isName_ofList rfl rfl) (isQuiet_ofList rfl)
    rw [hclosing]
    simp [(isOwn_use "def-no-dependencies" (by decide)).2, isPassive_empty.references_eq_nil,
      references_label hname, flatMap_references_eq_nil hmetrics, flatMap_references_eq_nil hnotes,
      flatMap_references_eq_nil hremarks, hassessment]
  case defined => decide
  case unlike => decide
  case dependencies => exact Or.inr (by decide)
  case metrics =>
    have hbefore : ∀ line ∈ [use "def-no-dependencies", ""],
        afterName? Check.Kpi.sectionName line = none := by
      decide
    refine ⟨_, ?_, isModest_doneMetrics⟩
    rw [hclosing]
    exact (sectionBlock?_append hbefore).trans (sectionBlock?_doneMetrics _)
  case complexity =>
    have hstart : ∀ line ∈ use "def-no-dependencies" :: "" :: label Check.Kpi.sectionName ::
        (doneMetrics ++ "" :: notes), Check.Kpi.statedWord? line.toList = none := by
      have hlabel : dropWord? complexityWord Check.Kpi.sectionName.toList = none := by
        decide
      have hpassive : ∀ line ∈ doneMetrics ++ "" :: notes, IsPassive line :=
        List.forall_mem_append.2 ⟨hmetrics, List.forall_mem_cons.2 ⟨isPassive_empty, hnotes⟩⟩
      simp only [List.forall_mem_cons]
      exact ⟨by decide, isPassive_empty.isCalm.complexity, statedWord?_label hname hlabel,
        fun line hline => (hpassive line hline).isCalm.complexity⟩
    have hlines : (template.doneEntry code n).closing = (use "def-no-dependencies" :: "" ::
        label Check.Kpi.sectionName :: (doneMetrics ++ "" :: notes)) ++ assessment :: remarks := by
      rw [hclosing]
      simp
    intro w hw
    rw [hlines, List.findSome?_append, List.findSome?_eq_none_iff.2 hstart, Option.none_or,
      List.findSome?_cons, statedWord?_assessment, Option.some.injEq] at hw
    rw [← hw]
    decide

end Complete

/-! ### The whole list -/

namespace Reading

variable {policy : Policy} {template : Template} {sections : List String} {code : String} {n : Nat}
  {l : TaskList} (r : Reading policy template sections code n l) (hcode : TaskId.IsCode code)
  (hn : n ≤ 9997)

theorem allTasks_eq : l.allTasks = [r.active, r.first, r.second, r.planned, r.done] := by
  simp [TaskList.allTasks, r.tasks, r.activeSubtasks, r.plannedSubtasks, r.doneSubtasks]

theorem mainTasks_eq : l.mainTasks = [r.active, r.planned, r.done] := by
  simp [TaskList.mainTasks, r.tasks, Task.isMain, r.isRead_active.kind, r.isRead_planned.kind,
    r.isRead_done.kind]

include r

theorem code_eq : ∀ t ∈ l.allTasks, t.code = some code := by
  rw [r.allTasks_eq]
  simp only [List.forall_mem_cons]
  exact ⟨r.isRead_active.code, r.isRead_first.code, r.isRead_second.code, r.isRead_planned.code,
    r.isRead_done.code, by simp⟩

theorem listed : ∀ t ∈ l.allTasks, t.origin ≠ .apart := by
  rw [r.allTasks_eq]
  simp only [List.forall_mem_cons]
  exact ⟨r.isRead_active.listed, r.isRead_first.listed, r.isRead_second.listed,
    r.isRead_planned.listed, r.isRead_done.listed, by simp⟩

theorem ids_eq : l.ids = [TaskId.ofNumber code n, TaskId.ofNumber code n ++ "-" ++ "1",
    TaskId.ofNumber code n ++ "-" ++ "2", TaskId.ofNumber code (n + 1),
    TaskId.ofNumber code (n + 2)] := by
  rw [TaskList.ids, r.allTasks_eq]
  simp only [List.map_cons, List.map_nil, r.isRead_active.id, r.isRead_first.id,
    r.isRead_second.id, r.isRead_planned.id, r.isRead_done.id]
  rfl

include hcode hn

theorem nodup_ids : l.ids.Nodup := by
  have hmain : ∀ m k, m ≤ 9999 → k ≤ 9999 → m ≠ k →
      TaskId.ofNumber code m ≠ TaskId.ofNumber code k := fun _ _ hm hk =>
    TaskId.ofNumber_ne hcode hm hk
  have hpart : ∀ m (part : String), m ≤ 9999 →
      TaskId.ofNumber code n ++ "-" ++ part ≠ TaskId.ofNumber code m := by
    intro m part hm heq
    have hlength := congrArg (fun s : String => s.toList.length) heq
    simp only [String.toList_append, List.length_append, TaskId.length_ofNumber hm,
      TaskId.length_ofNumber (by omega : n ≤ 9999)] at hlength
    have hdash : "-".toList.length = 1 := rfl
    omega
  have hnumber : TaskId.ofNumber code n ++ "-" ++ "1" ≠ TaskId.ofNumber code n ++ "-" ++ "2" := by
    intro heq
    simp at heq
  rw [r.ids_eq]
  simp only [List.nodup_cons, List.mem_cons, List.not_mem_nil, or_false, not_or,
    not_false_eq_true, List.nodup_nil, and_true]
  exact ⟨⟨(hpart n "1" (by omega)).symm, (hpart n "2" (by omega)).symm,
      hmain n (n + 1) (by omega) (by omega) (by omega),
      hmain n (n + 2) (by omega) (by omega) (by omega)⟩,
    ⟨hnumber, hpart (n + 1) "1" (by omega), hpart (n + 2) "1" (by omega)⟩,
    ⟨hpart (n + 1) "2" (by omega), hpart (n + 2) "2" (by omega)⟩,
    hmain (n + 1) (n + 2) (by omega) (by omega) (by omega)⟩

end Reading

section Checks

variable {ranges : Catalog NumberRange} {template : Template} {category code : String} {n : Nat}
  {l : TaskList}
  (r : Reading (policyWith ranges) template (Policy.standard.sectionsOf category) code n l)
  (htemplate : template.IsReadable (Policy.standard.sectionsOf category))
  (hcode : TaskId.IsCode code) (hn : n ≤ 9997)

namespace Reading

include r htemplate hcode hn

/-- The task in progress and the completed one depend on nothing. -/
theorem declared_eq_nil : Check.Dependencies.declared givenReferences r.active = [] ∧
    Check.Dependencies.declared givenReferences r.done = [] := by
  have hblocks : ∀ name block, Check.Dependencies.isNoneName name = false →
      givenReferences.find? name = some block → hasSection block "Dependencies" = false :=
    fun _ _ => hasSection_dependencies_of_find?
  obtain ⟨hactive, -, hdone⟩ := isReadable_entries htemplate hcode hn
  constructor
  · refine Check.Dependencies.declared_eq_nil ?_ hblocks
    rw [Entry.fieldIds_ownLines htemplate hactive r.isRead_active rfl]
    decide +kernel
  · refine Check.Dependencies.declared_eq_nil ?_ hblocks
    apply Entry.fieldIds_eq_nil htemplate hdone r.isRead_done
    obtain ⟨notes, remarks, hclosing, hnotes, hremarks⟩ := @closing_doneEntry template code n
    have hname : IsName Check.Kpi.sectionName := isName_ofList rfl rfl
    have hdependencies : IsName "Dependencies" := isName_ofList rfl rfl
    rw [hclosing]
    simp only [List.forall_mem_cons, List.forall_mem_append]
    refine ⟨by decide, isPassive_empty.isCalm.dependencies, ?_,
      fun line hline => (isPassive_of_mem_doneMetrics line hline).isCalm.dependencies,
      isPassive_empty.isCalm.dependencies,
      fun line hline => (hnotes line hline).isCalm.dependencies, by decide,
      fun line hline => (hremarks line hline).isCalm.dependencies⟩
    rw [labelled?_label hname hdependencies, if_neg (by decide)]

theorem declared_planned :
    Check.Dependencies.declared givenReferences r.planned = [TaskId.ofNumber code n] := by
  obtain ⟨-, hplanned, -⟩ := isReadable_entries htemplate hcode hn
  have htrimmed : trimmed (TaskId.ofNumber code n) = TaskId.ofNumber code n := by
    rw [trimmed, (Entry.isCell_ofNumber hcode (by omega)).trimmed, String.ofList_toList]
  have hown : Check.Dependencies.fieldIds r.planned.ownLines = [TaskId.ofNumber code n] := by
    rw [Entry.fieldIds_ownLines htemplate hplanned r.isRead_planned rfl]
    exact (congrArg Check.Dependencies.ids htrimmed).trans
      (Check.Dependencies.ids_ofNumber hcode (by omega))
  simp [Check.Dependencies.declared, hown]

theorem identity_issues {t : Task} (ht : t ∈ l.mainTasks) :
    Check.Identity.issues t ⟨policyWith ranges, l, []⟩ = [] := by
  obtain ⟨hactive, hplanned, hdone⟩ := isReadable_entries htemplate hcode hn
  have hparent : r.active ∈ l.allTasks := by simp [r.allTasks_eq]
  have hformat : ∀ u ∈ l.allTasks,
      Check.Identity.formatIssues ⟨policyWith ranges, l, []⟩ l.allTasks u = [] := by
    have hpart : ∀ (p : Part) (u : Task), p.IsReadable → p.IsRead code n u →
        Check.Identity.formatIssues ⟨policyWith ranges, l, []⟩ l.allTasks u = [] :=
      fun p u hp hu => Part.formatIssues_eq_nil hp hu hcode (by omega) hparent
        (Entry.isMain r.isRead_active) r.isRead_active.id
    intro u hu
    rw [r.allTasks_eq] at hu
    simp only [List.mem_cons, List.not_mem_nil, or_false] at hu
    rcases hu with rfl | rfl | rfl | rfl | rfl
    · exact Entry.formatIssues_eq_nil hactive r.isRead_active
    · exact hpart _ _ Part.isReadable_first r.isRead_first
    · exact hpart _ _ Part.isReadable_second r.isRead_second
    · exact Entry.formatIssues_eq_nil hplanned r.isRead_planned
    · exact Entry.formatIssues_eq_nil hdone r.isRead_done
  have hsubjects : t :: t.subtasks ⊆ l.allTasks := by
    intro u hu
    exact List.mem_flatMap.2 ⟨t, (List.mem_filter.1 ht).1, hu⟩
  have hnone : ((t :: t.subtasks).flatMap fun u =>
      Check.Identity.formatIssues ⟨policyWith ranges, l, []⟩ l.allTasks u ++
        Check.Identity.duplicateIssues l.allTasks u ++
        Check.Identity.codeIssues l.allTasks u) = [] := by
    rw [List.flatMap_eq_nil_iff]
    intro u hu
    have hmem := hsubjects hu
    rw [hformat u hmem,
      Check.Identity.duplicateIssues_eq_nil (r.nodup_ids hcode hn) hmem (r.listed u hmem),
      Check.Identity.codeIssues_eq_nil r.code_eq hmem]
    rfl
  have hoff : (policyWith ranges).checkCodes = false := rfl
  have hmain := (List.mem_filter.1 ht).2
  simp only [Check.Identity.issues, hmain, hoff, if_true, hnone]
  rfl

omit htemplate hcode hn in
theorem subtasks_issues {t : Task} (ht : t ∈ l.mainTasks) :
    Check.Subtasks.issues t ⟨policyWith ranges, l, []⟩ = [] := by
  rw [r.mainTasks_eq] at ht
  simp only [List.mem_cons, List.not_mem_nil, or_false] at ht
  rcases ht with rfl | rfl | rfl
  · rw [Check.Subtasks.issues, r.activeSubtasks, List.flatMap_eq_nil_iff]
    simp only [List.forall_mem_cons]
    exact ⟨Part.subtask_issues Part.isComplete_first r.isRead_first r.isRead_active.code,
      Part.subtask_issues Part.isComplete_second r.isRead_second r.isRead_active.code, by simp⟩
  · rw [Check.Subtasks.issues, r.plannedSubtasks]
    rfl
  · rw [Check.Subtasks.issues, r.doneSubtasks]
    rfl

/-- Nothing that a main task depends on depends on anything. -/
theorem declared_spec {t : Task} (ht : t ∈ l.mainTasks) :
    ∀ id ∈ Check.Dependencies.declared givenReferences t, id ≠ t.id ∧ id ∈ l.ids ∧
      ∀ u ∈ l.allTasks, u.id = id → Check.Dependencies.declared givenReferences u = [] := by
  obtain ⟨hactive, hdone⟩ := r.declared_eq_nil htemplate hcode hn
  rw [r.mainTasks_eq] at ht
  simp only [List.mem_cons, List.not_mem_nil, or_false] at ht
  rcases ht with rfl | rfl | rfl
  · simp [hactive]
  · rw [r.declared_planned htemplate hcode hn]
    intro id hid
    rw [List.mem_singleton.1 hid]
    refine ⟨?_, by simp [r.ids_eq], ?_⟩
    · rw [r.isRead_planned.id]
      exact TaskId.ofNumber_ne hcode (by omega) (by omega) (by omega)
    · intro u hu huid
      have hmem : r.active ∈ l.allTasks := by simp [r.allTasks_eq]
      have heq : u = r.active := List.inj_on_of_nodup_map (r.nodup_ids hcode hn) hu hmem
        (huid.trans r.isRead_active.id.symm)
      rw [heq, hactive]
  · simp [hdone]

theorem isSilent (hcategories : ∀ k ≤ 2, (policyWith ranges).categoryOf? (n + k : Nat) =
    some category) : ∀ t ∈ l.mainTasks, Check.IsSilent t ⟨policyWith ranges, l, []⟩ := by
  have hentry : ∀ (e : Entry) (m : Nat) (used : String) (t : Task), t ∈ l.mainTasks →
      e.IsReadable code m → e.IsComplete used →
      e.IsRead (policyWith ranges) (categoryLines template (Policy.standard.sectionsOf category))
        code m t →
      (policyWith ranges).categoryOf? m = some category →
      (e.status = Task.inProgressStatus → t.subtasks ≠ []) →
      Check.IsSilent t ⟨policyWith ranges, l, []⟩ := by
    intro e m used t ht he hcomplete hread hcategory hprogress
    have htask : t ∈ l.allTasks :=
      List.mem_flatMap.2 ⟨t, (List.mem_filter.1 ht).1, List.mem_cons_self⟩
    exact {
      isMain := Entry.isMain hread
      identity := r.identity_issues htemplate hcode hn ht
      status := Entry.status_issues hcomplete hread hprogress
      errorHandling := Entry.errorHandling_issues htemplate he hcomplete hread r.references
      sections := Entry.sections_issues htemplate hcomplete hread hcategory
      subtasks := r.subtasks_issues ht
      dependencies := Entry.dependencies_issues htemplate he hcomplete hread r.references
        (r.nodup_ids hcode hn) htask (r.declared_spec htemplate hcode hn ht)
      category := Entry.category_issues htemplate he hread hcategory
      kpi := Entry.kpi_issues htemplate he hcomplete hread r.references hcategory }
  have hmem := r.mainTasks_eq
  obtain ⟨hactive, hplanned, hdone⟩ := isReadable_entries htemplate hcode hn
  rw [hmem]
  simp only [List.forall_mem_cons]
  refine ⟨?_, ?_, ?_, by simp⟩
  · refine hentry _ n _ _ (by simp [hmem]) hactive isComplete_activeEntry r.isRead_active
      (hcategories 0 (by omega)) fun _ => ?_
    simp [r.activeSubtasks]
  · refine hentry _ (n + 1) _ _ (by simp [hmem]) hplanned
      (isComplete_plannedEntry hcode (by omega)) r.isRead_planned (hcategories 1 (by omega))
      fun hstatus => ?_
    exact absurd hstatus (by show "Planned" ≠ _; decide)
  · refine hentry _ (n + 2) _ _ (by simp [hmem]) hdone isComplete_doneEntry r.isRead_done
      (hcategories 2 (by omega)) fun hstatus => ?_
    exact absurd hstatus (by show "Completed" ≠ _; decide)

theorem exists_isClean_verdict (hcategories : ∀ k ≤ 2,
    (policyWith ranges).categoryOf? (n + k : Nat) = some category) :
    ∃ v, Audit.verdictByPreset (policyWith ranges) "default" l = .ok v ∧ v.IsClean ∧
      v.taskCount = 5 := by
  have hreferences : ∀ line ∈ l.scannedLines, ∀ name ∈ Document.references line,
      l.references.contains name = true := by
    intro line hline name hname
    rw [r.references]
    exact contains_givenReferences name ((r.isLine line hline).references name hname)
  obtain ⟨v, hv, hclean, hcount⟩ := Audit.exists_isClean_verdict hreferences
    (r.isSilent htemplate hcode hn hcategories)
  refine ⟨v, hv, hclean, ?_⟩
  rw [hcount, TaskList.size, r.allTasks_eq]
  rfl

end Reading

end Checks

end Template

namespace Audit

open Template

/-- **Every template passes.** Whatever ranges of numbers the categories of a policy have, the
template of any of them has nothing that its checks report, for ids of any letter code, as long as
its three main tasks are numbered within the category. -/
theorem valid_verdictOfText_render {ranges : Catalog NumberRange} {category code : String}
    {range : NumberRange} (hcategory : ∀ c ∈ category.toList, c.isAlpha = true ∨ c = '_')
    (hrange : ranges.find? category = some range) (hlow : 0 ≤ range.low) (hhigh : range.low ≤ 9997)
    (hcategories : ∀ k ≤ 2, (policyWith ranges).categoryOf? (range.low + (k : Nat)) = some category)
    (hcode : TaskId.IsCode code) :
    ∃ text v, render (policyWith ranges) category code false = .ok text ∧
      verdictOfText (policyWith ranges) "default" text none = .ok v ∧ v.valid = true ∧
      v.errors = [] ∧ v.warnings = [] ∧ v.taskCount = 5 := by
  obtain ⟨low, high⟩ := range
  obtain ⟨n, rfl⟩ := Int.eq_ofNat_of_zero_le hlow
  have hn : n ≤ 9997 := Int.ofNat_le.1 hhigh
  have htemplate := isReadable_forCategory hcategory
  obtain ⟨l, hread, ⟨r⟩⟩ := exists_reading htemplate hcode hn (policyWith ranges) none
  obtain ⟨v, hv, hclean, hcount⟩ := r.exists_isClean_verdict htemplate hcode hn hcategories
  have hrender : render (policyWith ranges) category code false = .ok ("\n".intercalate
      ((forCategory category).lines (Policy.standard.sectionsOf category) code n ++ [""])) := by
    have hrange : (policyWith ranges).categoryRanges.find? category = some ⟨n, high⟩ := hrange
    rw [render, hrange]
    rfl
  refine ⟨_, v, hrender, ?_, hclean.valid, hclean.errors, hclean.warnings, hcount⟩
  simp only [verdictOfText, read, hread]
  exact hv

/-- Two categories that the standard policy does not know, the second with the greatest numbers that
a template can have. -/
def shopRanges : Catalog NumberRange :=
  Catalog.ofPairs [("billing", ⟨0, 9⟩), ("order_intake", ⟨9997, 12000⟩)]

theorem exists_verdict_orderIntake : ∃ text v,
    render (policyWith shopRanges) "order_intake" "SHOP" false = .ok text ∧
      verdictOfText (policyWith shopRanges) "default" text none = .ok v ∧ v.valid = true ∧
      v.errors = [] ∧ v.warnings = [] ∧ v.taskCount = 5 := by
  have hrange : shopRanges.find? "order_intake" = some ⟨9997, 12000⟩ := by decide
  exact valid_verdictOfText_render (by simp) hrange (by decide) (by decide)
    (by decide) (by decide)

end Audit

end TaskAudit
