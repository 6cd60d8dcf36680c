import TaskAudit.Proofs.CleanChecks

/-!
# Main tasks that pass the checks

Each check is gone through for a main task that was read back from a document, given what its
closing lines say of its dependencies, metrics, complexity and completion.
-/

namespace TaskAudit

open Text Document Content

namespace Template

/-! ### The references of a template -/

theorem contains_givenReferences : ∀ name ∈ definedNames, givenReferences.contains name = true := by
  decide +kernel

theorem find?_givenReferences_iff {name : String} {block : List String} :
    givenReferences.find? name = some block ↔ (name, block) ∈ blocks := by
  have hnames : (blocks.reverse.map Prod.fst).Nodup := by decide +kernel
  rw [givenReferences, Catalog.find?_ofPairs, Catalog.get?_eq_some_iff_mem hnames, List.mem_reverse]

theorem exists_errorHandling : ∃ block, givenReferences.find? "error-handling" = some block ∧
    ∀ name ∈ ["Core Principles", "Error Implementation", "Error Examples", "Framework Specifics"],
      label name ∈ block := by
  refine ⟨_, find?_givenReferences_iff.2 List.mem_cons_self, ?_⟩
  simp

theorem hasSection_eq_false {name : String} {lines : List String}
    (h : ∀ line ∈ lines, afterName? name line = none) : hasSection lines name = false := by
  rw [hasSection, List.any_eq_false]
  intro line hline
  simp [h line hline]

/-- Only the reference that says so is about dependencies. -/
theorem hasSection_dependencies_of_find? {name : String} {block : List String}
    (hname : Check.Dependencies.isNoneName name = false)
    (hblock : givenReferences.find? name = some block) :
    hasSection block "Dependencies" = false := by
  have hother : IsName "Dependencies" := isName_ofList rfl rfl
  have hnone : Check.Dependencies.isNoneName "def-no-dependencies" = true := by decide +kernel
  refine hasSection_eq_false fun line hline => ?_
  cases isBlockLine_of_mem_blocks _ (find?_givenReferences_iff.1 hblock) line hline with
  | quiet hquiet => exact afterName?_of_not_mem hquiet.asterisk_not_mem _
  | label hlabel heq =>
      rw [afterName?_label hlabel hother, if_neg]
      intro hdependencies
      have hdefined : name = "def-no-dependencies" := heq hdependencies.symm
      rw [hdefined, hnone] at hname
      exact Bool.noConfusion hname

/-! ### Ratings -/

open Pattern in
/-- The pattern of ratings in the standard policy: a digit from one to five, perhaps with a tenth,
and perhaps a remark. -/
theorem ratingPattern_standard : ∃ remark, Policy.standard.ratingPattern.expr =
    .seq (.anchor .start) (.seq
      (.group 1 (.seq (.oneOf ⟨false, false⟩ false [.run 49 53])
        (.rep .greedy (.group 2 (.seq (.oneOf ⟨false, false⟩ false [.char 46])
          (.oneOf ⟨false, false⟩ false [.kind .digit false]))) 0 (some 1))))
      (.seq (.rep .greedy (.oneOf ⟨false, false⟩ false [.kind .blank false]) 0 none)
        (.seq (.rep .greedy remark 0 (some 1)) (.anchor .finish)))) := by
  let letter (code : Nat) : Expr := .oneOf ⟨false, false⟩ false [.char code]
  refine ⟨.group 3 (.seq (letter 40) (.seq (letter 112) (.seq (letter 97) (.seq (letter 114)
    (.seq (letter 116) (.seq (letter 105) (.seq (letter 97) (.seq (letter 108)
    (letter 41))))))))), ?_⟩
  decide +kernel

open Pattern in
theorem accepts_rating {whole tenth : Char} (hwhole : ('1' ≤ whole && whole ≤ '5') = true)
    (htenth : isDigit tenth = true) :
    Policy.standard.ratingPattern.accepts (String.ofList [whole, '.', tenth]) = true := by
  obtain ⟨remark, hexpr⟩ := ratingPattern_standard
  rw [accepts_iff, hexpr, String.toList_ofList]
  generalize htext : [whole, '.', tenth].toArray = text
  have hrange : 49 ≤ whole.toNat ∧ whole.toNat ≤ 53 := by
    rw [Bool.and_eq_true, decide_eq_true_eq, decide_eq_true_eq] at hwhole
    exact hwhole
  have hfirst : Spot.start.goto 1 ∈
      Expr.ways text (.oneOf ⟨false, false⟩ false [.run 49 53]) .start :=
    Expr.goto_mem_ways_oneOf (by simp [← htext, Spot.start, inSet_run, hrange])
  have hpoint : Spot.start.goto 2 ∈
      Expr.ways text (.oneOf ⟨false, false⟩ false [.char 46]) (Spot.start.goto 1) :=
    Expr.goto_mem_ways_oneOf (by simp [← htext, Spot.goto, inSet_char])
  have hlast : Spot.start.goto 3 ∈
      Expr.ways text (.oneOf ⟨false, false⟩ false [.kind .digit false]) (Spot.start.goto 2) :=
    Expr.goto_mem_ways_oneOf (by simp [← htext, Spot.goto, inSet_kind, Kind.holds, htenth])
  have hfraction := Expr.mem_ways_rep_of_mem
    (Expr.mark_mem_ways_group 2 (Expr.mem_ways_seq hpoint hlast))
  have hnumber := Expr.mark_mem_ways_group 1 (Expr.mem_ways_seq hfirst hfraction)
  refine Expr.exists_mem_ways_seq (List.mem_singleton_self Spot.start) ?_
  refine Expr.exists_mem_ways_seq hnumber ?_
  refine Expr.exists_mem_ways_seq Expr.self_mem_ways_rep ?_
  refine Expr.exists_mem_ways_seq Expr.self_mem_ways_rep (Expr.exists_mem_ways_anchor ?_)
  simp [← htext, Anchor.holds, Spot.goto, Spot.mark]

theorem trimmed_rating {whole tenth : Char} (hwhole : isBlank whole = false)
    (htenth : isBlank tenth = false) :
    trimmed (String.ofList [whole, '.', tenth]) = String.ofList [whole, '.', tenth] := by
  rw [trimmed, String.toList_ofList]
  exact congrArg String.ofList (trim_between hwhole htenth ['.'])

/-! ### One main task -/

/-- The standard policy with categories of its own. -/
def policyWith (ranges : Catalog NumberRange) : Policy :=
  { Policy.standard with categoryRanges := ranges }

namespace Entry

/-- What a completed task's lines and rating have to be. -/
structure IsFinished (e : Entry) : Prop where
  completion : ∀ name ∈ Check.Sections.completion, hasSection e.closing name = true
  rated : ∃ rating, e.rating = some rating ∧
    Policy.standard.ratingPattern.accepts (trimmed rating) = true

/-- The lines in which a task with the given lines on metrics of its own, and one more name, states
its metrics. -/
def metricLines (inline : List String) (used : String) : List String :=
  inline ++ (([used].filter Check.Kpi.isKpiName).filterMap givenReferences.find?).flatMap
    Check.Kpi.blockLines

/-- What is needed of a main task besides the lines that all have in common. It uses one more name
than that of error handling. -/
structure IsComplete (e : Entry) (used : String) : Prop where
  status : e.status ∈ Policy.standard.statuses
  priority : e.priority ∈ Policy.standard.priorities
  finished : e.status = Task.completedStatus → e.IsFinished
  references : e.closing.flatMap Document.references = [used]
  defined : used ∈ definedNames
  unlike : used ≠ "error-handling"
  dependencies : hasSection e.closing "Dependencies" = true ∨
    Check.Dependencies.isNoneName used = true
  metrics : ∃ inline, sectionBlock? Check.Kpi.sectionName e.closing = some inline ∧
    Check.Kpi.IsModest Policy.standard.limits (Check.Kpi.values (metricLines inline used))
  complexity : ∀ w, (e.closing.findSome? fun line => Check.Kpi.statedWord? line.toList) = some w →
    (Complexity.ofName? (lowered (String.ofList w))).isSome = true

section OneTask

variable {ranges : Catalog NumberRange} {template : Template} {category code used : String}
  {n : Nat} {l : TaskList} {e : Entry} {t : Task}
  (htemplate : template.IsReadable (Policy.standard.sectionsOf category))
  (he : e.IsReadable code n) (hcomplete : e.IsComplete used)
  (ht : e.IsRead (policyWith ranges)
    (categoryLines template (Policy.standard.sectionsOf category)) code n t)

include ht

theorem isMain : t.isMain = true := by simp [Task.isMain, ht.kind]

theorem isSubtask : t.isSubtask = false := by simp [Task.isSubtask, ht.kind]

theorem isCompleted_iff : t.isCompleted = true ↔ e.status = Task.completedStatus := by
  simp [Task.isCompleted, ht.status]

theorem hasSection_ownLines {name : String} (hname : IsName name)
    (h : label name ∈ e.opening (categoryLines template (Policy.standard.sectionsOf category))) :
    hasSection t.ownLines name = true := by
  apply hasSection_label hname
  rw [ht.ownLines, lines, List.cons_append]
  exact List.mem_cons_of_mem _ (List.mem_append_left _ h)

theorem hasSection_closing {name : String} (h : hasSection e.closing name = true) :
    hasSection t.ownLines name = true := by
  refine hasSection_of_subset ?_ h
  rw [ht.ownLines, lines]
  exact List.subset_append_right _ _

include htemplate in
theorem hasSection_category : ∀ name ∈ Policy.standard.sectionsOf category,
    hasSection t.ownLines name = true := by
  intro name hname
  refine hasSection_ownLines ht (htemplate.names name hname).toIsName ?_
  have hmem : label name ∈ categoryLines template (Policy.standard.sectionsOf category) :=
    List.mem_flatMap.2 ⟨name, hname, List.mem_cons_self⟩
  simp [opening, hmem]

theorem hasSection_opening :
    ∀ name ∈ ["Description", "Status", "Priority", "Error Handling"],
      hasSection t.ownLines name = true := by
  simp only [List.forall_mem_cons]
  refine ⟨?_, ?_, ?_, ?_, by simp⟩
  all_goals exact hasSection_ownLines ht (isName_ofList rfl rfl) (by simp [opening, field])

include htemplate in
theorem categoryIssues_eq_nil :
    Check.Sections.categoryIssues (policyWith ranges) (expanded l.references t.ownLines) t
      category = [] := by
  have hnone : missingSections (expanded l.references t.ownLines)
      ((policyWith ranges).sectionsOf category) = [] :=
    missingSections_eq_nil fun name hname =>
      hasSection_expanded _ (hasSection_category htemplate ht name hname)
  rw [Check.Sections.categoryIssues, hnone]
  rfl

include htemplate he in
theorem category_issues (hcategory : (policyWith ranges).categoryOf? n = some category) :
    Check.Category.issues t ⟨policyWith ranges, l, []⟩ = [] := by
  have hnumber : TaskId.number? t.id = some n := by
    rw [ht.id]
    exact TaskId.number?_ofNumber he.isCode he.number_le
  have hnone := categoryIssues_eq_nil (l := l) htemplate ht
  simp only [Check.Category.issues, hnumber, hcategory]
  split
  · exact hnone
  · rfl

include htemplate hcomplete in
theorem sections_issues (hcategory : (policyWith ranges).categoryOf? n = some category) :
    Check.Sections.issues t ⟨policyWith ranges, l, []⟩ = [] := by
  have hrequired : missingSections (expanded l.references t.ownLines)
      (Check.Sections.required t false) = [] := by
    refine missingSections_eq_nil fun name hname => hasSection_expanded _ ?_
    rw [Check.Sections.required, if_pos (isMain ht)] at hname
    exact hasSection_opening ht name (by simp at hname ⊢; tauto)
  have hcompletion : t.isCompleted = true → missingSections (expanded l.references t.ownLines)
      Check.Sections.completion = [] := by
    intro hcompleted
    have hfinished := hcomplete.finished ((isCompleted_iff ht).1 hcompleted)
    exact missingSections_eq_nil fun name hname =>
      hasSection_expanded _ (hasSection_closing ht (hfinished.completion name hname))
  have hnone := categoryIssues_eq_nil (l := l) htemplate ht
  have hoff : Settings.isOn [] "enforce_all_sections" = false := rfl
  simp only [Check.Sections.issues, Scope.references, hoff, hrequired, ht.category, hcategory,
    hnone]
  cases hcompleted : t.isCompleted with
  | false => simp
  | true => simp [hcompletion hcompleted]

include he htemplate hcomplete in
theorem flatMap_references_ownLines :
    t.ownLines.flatMap Document.references = ["error-handling", used] := by
  rw [ht.ownLines, flatMap_references_lines he htemplate.isPassive, hcomplete.references]

include he htemplate hcomplete in
theorem mem_referencesIn_iff {name : String} :
    name ∈ referencesIn t.ownLines ↔ name = "error-handling" ∨ name = used := by
  rw [referencesIn, mem_firstSeen, flatMap_references_ownLines htemplate he hcomplete ht]
  simp

include he htemplate hcomplete in
theorem errorHandling_issues (hreferences : l.references = givenReferences) :
    Check.ErrorHandling.issues t ⟨policyWith ranges, l, []⟩ = [] := by
  obtain ⟨block, hblock, hlabels⟩ := exists_errorHandling
  have hused : "error-handling" ∈ referencesIn t.ownLines :=
    (mem_referencesIn_iff htemplate he hcomplete ht).2 (Or.inl rfl)
  have hevidence : block ⊆ expanded givenReferences t.ownLines := block_subset_expanded hused hblock
  have hparts : ∀ name ∈ ["Core Principles", "Error Implementation", "Error Examples"],
      hasSection (expanded givenReferences t.ownLines) name = true := by
    have hmem : ∀ name ∈ ["Core Principles", "Error Implementation", "Error Examples"],
        label name ∈ expanded givenReferences t.ownLines := fun name hname =>
      hevidence (hlabels name (by simp at hname ⊢; tauto))
    simp only [List.forall_mem_cons] at hmem ⊢
    obtain ⟨hprinciples, himplementation, hexamples, -⟩ := hmem
    exact ⟨hasSection_label (isName_ofList rfl rfl) hprinciples,
      hasSection_label (isName_ofList rfl rfl) himplementation,
      hasSection_label (isName_ofList rfl rfl) hexamples, by simp⟩
  have hspecifics : (expanded givenReferences t.ownLines).any Check.ErrorHandling.startsSpecifics =
      true := by
    refine List.any_eq_true.2 ⟨label "Framework Specifics", hevidence (hlabels _ (by simp)), ?_⟩
    decide +kernel
  have hmissing :
      Check.ErrorHandling.missingParts t (expanded givenReferences t.ownLines) = [] := by
    have hmore : missingSections (expanded givenReferences t.ownLines)
        ["Error Implementation", "Error Examples"] = [] :=
      missingSections_eq_nil fun name hname => hparts name (List.mem_cons_of_mem _ hname)
    rw [Check.ErrorHandling.missingParts, if_neg (by simp [isSubtask ht]),
      Check.ErrorHandling.missingMainParts, hmore, hspecifics, hparts _ List.mem_cons_self]
    rfl
  have himplemented : t.isCompleted = true →
      hasSection (expanded givenReferences t.ownLines) "Error Handling Implementation" = true := by
    intro hcompleted
    have hfinished := hcomplete.finished ((isCompleted_iff ht).1 hcompleted)
    have hclosing := hfinished.completion "Error Handling Implementation" (by decide)
    exact hasSection_expanded _ (hasSection_closing ht hclosing)
  have hsection : hasSection t.ownLines "Error Handling" = true :=
    hasSection_opening ht _ (by simp)
  have hoff : Settings.isOn [] "require_comprehensive" = false := rfl
  simp only [Check.ErrorHandling.issues, Scope.references, hreferences, hoff,
    List.append_eq_nil_iff]
  constructor
  · simp [Check.ErrorHandling.documentationIssues, hsection, Check.ErrorHandling.incomplete,
      hmissing]
  · cases hcompleted : t.isCompleted with
    | false => simp [Check.ErrorHandling.implementationIssues, hcompleted]
    | true =>
        simp [Check.ErrorHandling.implementationIssues, hcompleted, himplemented hcompleted]

include hcomplete in
theorem status_issues (hprogress : e.status = Task.inProgressStatus → t.subtasks ≠ []) :
    Check.Status.issues t ⟨policyWith ranges, l, []⟩ = [] := by
  have hstatus : Check.Status.statusIssues (policyWith ranges) t = [] := by
    rw [Check.Status.statusIssues, ht.status, if_pos]
    exact List.contains_iff_mem.2 hcomplete.status
  have hpriority : Check.Status.priorityIssues (policyWith ranges) t = [] := by
    simp only [Check.Status.priorityIssues, ht.priority]
    exact if_pos (List.contains_iff_mem.2 hcomplete.priority)
  have hsubtasks : Check.Status.progressIssues t = [] := by
    refine if_neg fun h => ?_
    simp only [Bool.and_eq_true, decide_eq_true_eq, List.isEmpty_iff, ht.status] at h
    exact hprogress h.1.2 h.2
  have hrating : Check.Status.ratingIssues (policyWith ranges) t = [] := by
    refine Check.Status.ratingIssues_eq_nil fun hcompleted => ?_
    obtain ⟨rating, heq, haccepts⟩ :=
      (hcomplete.finished ((isCompleted_iff ht).1 hcompleted)).rated
    exact ⟨rating, ht.rating rating heq, haccepts⟩
  have hoff : Settings.isOn [] "strict_transitions" = false := rfl
  simp [Check.Status.issues, hstatus, hpriority, hsubtasks, hrating, hoff]

include he htemplate hcomplete in
theorem referencesIn_ownLines : referencesIn t.ownLines = ["error-handling", used] := by
  rw [referencesIn, flatMap_references_ownLines htemplate he hcomplete ht]
  simp [firstSeen, hcomplete.unlike]

include he htemplate hcomplete in
theorem contains_of_mem_referencesIn :
    ∀ name ∈ referencesIn t.ownLines, givenReferences.contains name = true := by
  rw [referencesIn_ownLines htemplate he hcomplete ht]
  simp only [List.forall_mem_cons]
  exact ⟨contains_givenReferences _ (by decide), contains_givenReferences _ hcomplete.defined,
    by simp⟩

include he htemplate hcomplete in
theorem dependencies_issues (hreferences : l.references = givenReferences) (hids : l.ids.Nodup)
    (htask : t ∈ l.allTasks)
    (hdeclared : ∀ id ∈ Check.Dependencies.declared givenReferences t, id ≠ t.id ∧ id ∈ l.ids ∧
      ∀ u ∈ l.allTasks, u.id = id → Check.Dependencies.declared givenReferences u = []) :
    Check.Dependencies.issues t ⟨policyWith ranges, l, []⟩ = [] := by
  have hcontains := contains_of_mem_referencesIn htemplate he hcomplete ht
  have hstated : Check.Dependencies.isDeclared t = true := by
    rw [Check.Dependencies.isDeclared, Bool.or_eq_true]
    rcases hcomplete.dependencies with hsection | hnone
    · exact Or.inl (hasSection_closing ht hsection)
    · have hmem : used ∈ Check.Dependencies.noneNames t := by
        refine List.mem_filter.2 ⟨?_, hnone⟩
        exact (mem_referencesIn_iff htemplate he hcomplete ht).2 (Or.inr rfl)
      right
      simp [List.ne_nil_of_mem hmem]
  have hundefined : Check.Dependencies.referenceIssues givenReferences t = [] := by
    have hnone : (Check.Dependencies.noneNames t).filter (!givenReferences.contains ·) = [] := by
      rw [List.filter_eq_nil_iff]
      intro name hname
      simp [hcontains name (List.mem_filter.1 hname).1]
    rw [Check.Dependencies.referenceIssues, hnone]
    rfl
  have hknown : Check.Dependencies.existenceIssues l t = [] := by
    have hnone :
        (Check.Dependencies.declared givenReferences t).filter (!l.ids.contains ·) = [] := by
      rw [List.filter_eq_nil_iff]
      intro id hid
      simp [(hdeclared id hid).2.1]
    rw [Check.Dependencies.existenceIssues, hreferences, hnone]
    rfl
  have hcycle : Check.Dependencies.cycleIssues l t = [] := by
    apply Check.Dependencies.cycleIssues_eq_nil hids htask
    rw [hreferences]
    exact fun id hid => ⟨(hdeclared id hid).1, (hdeclared id hid).2.2⟩
  simp [Check.Dependencies.issues, hstated, Scope.references, hreferences, hundefined, hknown,
    hcycle]

include he htemplate hcomplete in
theorem kpi_issues (hreferences : l.references = givenReferences)
    (hcategory : (policyWith ranges).categoryOf? n = some category) :
    Check.Kpi.issues t ⟨policyWith ranges, l, []⟩ = .ok [] := by
  have hcalm := isCalm_of_mem_opening he htemplate.isPassive
  obtain ⟨inline, hinline, hmodest⟩ := hcomplete.metrics
  have hsection : sectionBlock? Check.Kpi.sectionName t.ownLines = some inline := by
    rw [ht.ownLines, lines, sectionBlock?_append fun line hline => (hcalm line hline).metrics,
      hinline]
  have hnames : Check.Kpi.kpiNames t = [used].filter Check.Kpi.isKpiName := by
    have hother : Check.Kpi.isKpiName "error-handling" = false := by decide +kernel
    rw [Check.Kpi.kpiNames, referencesIn_ownLines htemplate he hcomplete ht,
      List.filter_cons_of_neg (by simp [hother])]
  have hlines : Check.Kpi.lines? givenReferences t = some (metricLines inline used) := by
    simp [Check.Kpi.lines?, hsection, hnames, metricLines]
  have hdefined : Check.Kpi.undefinedNames givenReferences t = [] := by
    rw [Check.Kpi.undefinedNames, List.filter_eq_nil_iff]
    intro name hname
    have hused := (List.mem_filter.1 hname).1
    simp [contains_of_mem_referencesIn htemplate he hcomplete ht name hused]
  have hcomplexity : ∃ c, Check.Kpi.complexity (policyWith ranges) t = .ok c := by
    have hopening : (e.heading :: e.opening
        (categoryLines template (Policy.standard.sectionsOf category))).findSome?
        (fun line => Check.Kpi.statedWord? line.toList) = none :=
      List.findSome?_eq_none_iff.2 fun line hline => (hcalm line hline).complexity
    simp only [Check.Kpi.complexity, ht.ownLines, lines, List.findSome?_append, hopening,
      Option.none_or]
    split
    · next w hw =>
      obtain ⟨c, hc⟩ := Option.isSome_iff_exists.1 (hcomplete.complexity w hw)
      exact ⟨c, by simp [hc]⟩
    · exact ⟨(policyWith ranges).complexityOf category, by rw [ht.category, hcategory]⟩
  obtain ⟨c, hc⟩ := hcomplexity
  refine Check.Kpi.issues_eq_nil ?_ ?_ hmodest rfl hc
  · rw [Scope.references, hreferences, hlines]
  · rw [Scope.references, hreferences, hdefined]

include he in
theorem formatIssues_eq_nil {everything : List Task} :
    Check.Identity.formatIssues ⟨policyWith ranges, l, []⟩ everything t = [] := by
  have haccepts : (policyWith ranges).idPattern.accepts t.id = true := by
    rw [ht.id]
    exact TaskId.accepts_ofNumber he.isCode he.number_le
  simp [Check.Identity.formatIssues, isSubtask ht, haccepts]

include he htemplate in
/-- The dependency field of a task is the one that its closing lines start with. -/
theorem fieldIds_ownLines {value : String} {rest : List String}
    (hclosing : e.closing = field "Dependencies" value ++ rest) :
    Check.Dependencies.fieldIds t.ownLines = Check.Dependencies.ids (trimmed value) := by
  have hname : IsName "Dependencies" := isName_ofList rfl rfl
  have hcalm := isCalm_of_mem_opening he htemplate.isPassive
  have hfield : field? "Dependencies" t.ownLines = some (trimmed value) := by
    rw [ht.ownLines, lines, field?_append fun line hline => (hcalm line hline).dependencies,
      hclosing]
    exact field?_label hname
  simp [Check.Dependencies.fieldIds, hfield]

include he htemplate in
theorem fieldIds_eq_nil
    (hclosing : ∀ line ∈ e.closing, labelled? "Dependencies".toList line.toList = none) :
    Check.Dependencies.fieldIds t.ownLines = [] := by
  have hcalm := isCalm_of_mem_opening he htemplate.isPassive
  have hfield : field? "Dependencies" t.ownLines = none := by
    rw [ht.ownLines, lines, field?_append fun line hline => (hcalm line hline).dependencies,
      ← List.append_nil e.closing, field?_append hclosing]
    rfl
  simp [Check.Dependencies.fieldIds, hfield]

end OneTask

end Entry

/-! ### One subtask -/

namespace Part

/-- What is needed of a subtask besides the lines that all have in common. -/
structure IsComplete (p : Part) : Prop where
  status : p.status ∈ Policy.standard.statuses
  rated : p.status = Task.completedStatus → ∃ rating, p.rating = some rating ∧
    Policy.standard.ratingPattern.accepts (trimmed rating) = true

theorem isComplete_first : first.IsComplete where
  status := by decide
  rated := by
    intro _
    have htrimmed : trimmed "4.0" = "4.0" := trimmed_rating (by decide) (by decide)
    refine ⟨"4.0", rfl, ?_⟩
    rw [htrimmed]
    exact accepts_rating (by decide) (by decide)

theorem isComplete_second : second.IsComplete where
  status := by decide
  rated := fun h => absurd h (by decide)

section OneSubtask

variable {ranges : Catalog NumberRange} {code : String} {n : Nat} {l : TaskList} {p : Part}
  {t : Task} (hp : p.IsReadable) (hcomplete : p.IsComplete) (ht : p.IsRead code n t)
  (hcode : TaskId.IsCode code) (hn : n ≤ 9999)

include ht

theorem isSubtask : t.isSubtask = true := by simp [Task.isSubtask, ht.kind]

include hcode hn in
theorem hasReadableId : t.hasReadableId = true := by
  have hnone : TaskId.code? Task.unreadableId = none := by decide
  rw [Task.hasReadableId, bne_iff_ne]
  intro heq
  simp [← heq, ht.id, TaskId.code?_part hcode hn] at hnone

include hp hcode hn in
theorem formatIssues_eq_nil {everything : List Task} {parent : Task} (hparent : parent ∈ everything)
    (hmain : parent.isMain = true) (hid : parent.id = TaskId.ofNumber code n) :
    Check.Identity.formatIssues ⟨policyWith ranges, l, []⟩ everything t = [] := by
  have hdigits : ∀ c ∈ p.number.toList, isDigit c = true := fun c hc =>
    isDigit_of_isDigit (hp.number c hc)
  have hread : TaskId.parent? t.id = some (TaskId.ofNumber code n) := by
    rw [ht.id]
    exact TaskId.parent?_part hcode hn hdigits hp.numbered
  have hany : (everything.any fun u => u.isMain && u.id = TaskId.ofNumber code n) = true :=
    List.any_eq_true.2 ⟨parent, hparent, by simp [hmain, hid]⟩
  simp only [Check.Identity.formatIssues, isSubtask ht, hread, hasReadableId ht hcode hn, hany]
  simp

include hcomplete in
theorem ratingIssues_eq_nil : Check.Status.ratingIssues (policyWith ranges) t = [] := by
  refine Check.Status.ratingIssues_eq_nil fun hcompleted => ?_
  have hstatus : p.status = Task.completedStatus := by
    simpa [Task.isCompleted, ht.status] using hcompleted
  obtain ⟨rating, heq, haccepts⟩ := hcomplete.rated hstatus
  exact ⟨rating, ht.rating rating heq, haccepts⟩

theorem missing_eq_nil (references : References) :
    Check.Subtasks.missing references false t = [] := by
  have hlabels : ∀ name ∈ ["Status", "Error Handling"], hasSection t.content name = true := by
    rw [ht.content]
    simp only [List.forall_mem_cons]
    refine ⟨?_, ?_, by simp⟩
    all_goals exact hasSection_label (isName_ofList rfl rfl) (by simp [body, field])
  have hstatus : hasSection (expanded references t.content) "Status" = true :=
    hasSection_expanded _ (hlabels _ (by simp))
  have hdocumented : Check.ErrorHandling.isDocumented references t.content = true := by
    rw [Check.ErrorHandling.isDocumented, hlabels _ (by simp), Bool.true_or]
  simp [Check.Subtasks.missing, missingSections, hstatus, hdocumented]

include hcomplete in
theorem subtask_issues {parent : Task} (hparent : parent.code = some code) :
    Check.Subtasks.statusIssues (policyWith ranges) t ++
      Check.Subtasks.numberedIssues ⟨policyWith ranges, l, []⟩ t ++
      Check.Subtasks.codeIssues parent t = [] := by
  have hstatus : Check.Subtasks.statusIssues (policyWith ranges) t = [] := by
    rw [Check.Subtasks.statusIssues, ht.status]
    exact if_pos (List.contains_iff_mem.2 hcomplete.status)
  have hnumbered : Check.Subtasks.numberedIssues ⟨policyWith ranges, l, []⟩ t = [] := by
    have hoff : Settings.isOn [] "strict_formatting" = false := rfl
    simp [Check.Subtasks.numberedIssues, ht.marker, hoff, missing_eq_nil ht,
      ratingIssues_eq_nil hcomplete ht]
  have hcode : Check.Subtasks.codeIssues parent t = [] := by
    simp [Check.Subtasks.codeIssues, ht.code, hparent]
  simp [hstatus, hnumbered, hcode]

end OneSubtask

end Part

end Template

end TaskAudit
