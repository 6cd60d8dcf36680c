import TaskAudit.Proofs.Audit
import TaskAudit.Proofs.Closure
import TaskAudit.Proofs.Dependencies
import TaskAudit.Proofs.Rendered

/-!
# Checks that find nothing

What is enough for a check to have nothing to report of a task.
-/

namespace TaskAudit

open Text Document Content

/-! ### Sections -/

theorem Content.hasSection_label {lines : List String} {name : String}
    (hname : Template.IsName name) (h : Template.label name ∈ lines) :
    hasSection lines name = true := by
  apply hasSection_of_mem h
  rw [Template.afterName?_label hname hname, if_pos rfl]
  rfl

/-! ### References -/

theorem Usage.isClean_check {references : References} {lines : List String}
    (h : ∀ line ∈ lines, ∀ name ∈ Document.references line, references.contains name = true) :
    (Usage.check references lines).IsClean := by
  have hvalid := (Usage.valid_check_iff_contains references lines).2 h
  exact ⟨hvalid, List.isEmpty_iff.1 hvalid, rfl⟩

namespace Check

/-! ### Identity -/

namespace Identity

variable {everything : List Task} {t : Task}

theorem duplicateIssues_eq_nil (hids : (everything.map (·.id)).Nodup) (ht : t ∈ everything)
    (hlisted : t.origin ≠ .apart) : duplicateIssues everything t = [] := by
  have hsame : t.isSame t = true := by simp [Task.isSame, hlisted]
  have hfirst : ∀ first ∈ everything.filter (·.id = t.id), first = t := by
    intro first hfirst
    obtain ⟨hmem, hid⟩ := List.mem_filter.1 hfirst
    exact List.inj_on_of_nodup_map hids hmem ht (by simpa using hid)
  simp only [duplicateIssues]
  split
  · rfl
  · split
    · rfl
    · next first rest heq =>
      rw [hfirst first (heq ▸ List.mem_cons_self), if_pos hsame]

theorem codeIssues_eq_nil {code : String} (hcodes : ∀ u ∈ everything, u.code = some code)
    (ht : t ∈ everything) : codeIssues everything t = [] := by
  have hmem : ∀ c, c ∈ codes everything → c = code := by
    intro c hc
    obtain ⟨hc, -⟩ := List.mem_filter.1 (mem_firstSeen.1 hc)
    obtain ⟨u, hu, heq⟩ := List.mem_filterMap.1 hc
    rw [hcodes u hu, Option.some.injEq] at heq
    exact heq.symm
  rw [codeIssues, hcodes t ht]
  apply if_pos
  cases hempty : code.isEmpty with
  | true => simp
  | false =>
      have hcode : code ∈ codes everything := by
        refine mem_firstSeen.2 (List.mem_filter.2 ⟨?_, by simp [hempty]⟩)
        exact List.mem_filterMap.2 ⟨t, ht, hcodes t ht⟩
      cases hcodes : codes everything with
      | nil => simp [hcodes] at hcode
      | cons first rest =>
          have hfirst : first = code := hmem first (hcodes ▸ List.mem_cons_self)
          simp [hfirst]

end Identity

/-! ### Status -/

theorem Status.ratingIssues_eq_nil {policy : Policy} {t : Task} (h : t.isCompleted = true →
    ∃ rating, t.rating = some rating ∧ policy.ratingPattern.accepts (trimmed rating) = true) :
    Status.ratingIssues policy t = [] := by
  rw [Status.ratingIssues]
  cases hcompleted : t.isCompleted with
  | false => rfl
  | true =>
      obtain ⟨rating, heq, haccepts⟩ := h hcompleted
      simp [heq, haccepts]

/-! ### Dependencies -/

namespace Dependencies

/-- A task whose dependencies depend on nothing lies on no cycle. -/
theorem cycleIssues_eq_nil {l : TaskList} {t : Task} (hids : l.ids.Nodup) (ht : t ∈ l.allTasks)
    (h : ∀ id ∈ declared l.references t, id ≠ t.id ∧
      ∀ u ∈ l.allTasks, u.id = id → declared l.references u = []) : cycleIssues l t = [] := by
  have htask : ∀ u ∈ l.allTasks, u.id = t.id → u = t := fun u hu hid =>
    List.inj_on_of_nodup_map hids hu ht hid
  rcases cycleIssues_spec hids ht with ⟨path, -, hcycle⟩ | ⟨hnone, -⟩
  · exfalso
    -- The second task on the cycle is not the first, so that it depends on the third.
    obtain ⟨first, ⟨u, hu, hid, hfirst⟩, hrest⟩ := Relation.TransGen.head'_iff.1 hcycle.transGen
    rw [htask u hu hid] at hfirst
    obtain ⟨hne, hdone⟩ := h first hfirst
    rcases Relation.ReflTransGen.cases_head hrest with heq | ⟨next, ⟨w, hw, hwid, hnext⟩, -⟩
    · exact hne heq
    · simp [hdone w hw hwid] at hnext
  · exact hnone

theorem dropReferences_of_not_mem {cs : List Char} (h : '{' ∉ cs) : dropReferences cs = cs := by
  induction cs with
  | nil => rw [dropReferences]
  | cons c rest ih =>
      rw [dropReferences, usage?_of_not_mem h]
      exact congrArg (c :: ·) (ih fun hc => h (List.mem_cons_of_mem _ hc))

theorem ids_ofNumber {code : String} {n : Nat} (hcode : TaskId.IsCode code) (hn : n ≤ 9999) :
    ids (TaskId.ofNumber code n) = [TaskId.ofNumber code n] := by
  have hquiet := TaskId.isQuiet_ofNumber hcode hn
  have htrim := (Template.Entry.isCell_ofNumber hcode hn).trimmed
  have hlength : (TaskId.ofNumber code n).toList.length = code.length + 4 :=
    TaskId.length_ofNumber hn
  have hleast := hcode.least
  have hwords : ["", "none", "n/a", "-"].contains
      (String.ofList ((TaskId.ofNumber code n).toList.map asciiLower)) = false := by
    have hshort : ∀ word ∈ ["", "none", "n/a", "-"], word.length ≤ 4 := by decide
    rw [← Bool.not_eq_true, List.contains_iff_mem]
    intro hmem
    have := hshort _ hmem
    rw [String.length_ofList, List.length_map, hlength] at this
    omega
  have hbold : after? boldMark (TaskId.ofNumber code n).toList = none :=
    after?_eq_none_of_not_mem (by simp [boldMark]) hquiet.asterisk_not_mem
  have hcomma : ',' ∉ (TaskId.ofNumber code n).toList := fun hc =>
    absurd (TaskId.range_of_mem_ofNumber hcode hn hc) (by decide)
  have hpadding : trimOf isIdPadding (TaskId.ofNumber code n).toList =
      (TaskId.ofNumber code n).toList := by
    refine trimOf_eq_self fun c hc => ?_
    have hrange := TaskId.range_of_mem_ofNumber hcode hn hc
    simp only [isIdPadding, Bool.or_eq_false_iff, decide_eq_false_iff_not]
    constructor
    · rintro rfl
      exact absurd hrange (by decide)
    · rintro rfl
      exact absurd hrange (by decide)
  have hne : (TaskId.ofNumber code n).toList ≠ [] := by
    rw [← List.length_pos_iff_ne_nil, hlength]
    omega
  simp only [ids, dropReferences_of_not_mem hquiet.brace_not_mem, htrim, hwords, hbold]
  simp [splitOn_of_not_mem hcomma, hpadding, hne]

/-- A task without ids in its own field depends on nothing, unless a reference that it uses does. -/
theorem declared_eq_nil {references : References} {t : Task} (hown : fieldIds t.ownLines = [])
    (hblocks : ∀ name block, isNoneName name = false → references.find? name = some block →
      hasSection block "Dependencies" = false) : declared references t = [] := by
  simp only [declared, hown]
  split
  · next block hfind =>
    obtain ⟨name, -, hname⟩ := List.mem_filterMap.1 (List.mem_of_find?_eq_some hfind)
    rw [Option.ite_none_left_eq_some, Bool.not_eq_true] at hname
    have hsection := List.find?_some hfind
    simp [hblocks name block hname.1 hname.2] at hsection
  · rfl

end Dependencies

/-! ### Metrics -/

namespace Kpi

variable {scope : Scope} {t : Task} {c : Complexity} {values : Values}

/-- Whether a value is within the bound that grows with the complexity of a task. -/
def isWithin (limits : Limits) (c : Complexity) (m : Metric) (x : Binary64) : Bool :=
  !m.isLeast && m.isScaled &&
    match numberOf (limits.bound m) with
    | .error _ => false
    | .ok base =>
      match scaledLimit base c with
      | .error _ => false
      | .ok limit => !(Binary64.ofInt limit).lt x

theorem valueIssues_eq_nil {m : Metric} {x : Binary64} (hsettings : scope.settings = [])
    (hx : isWithin scope.policy.limits c m x = true) : valueIssues scope t c m x = .ok [] := by
  rw [isWithin, Bool.and_eq_true, Bool.and_eq_true, Bool.not_eq_true'] at hx
  obtain ⟨⟨hleast, hscaled⟩, hx⟩ := hx
  have hbase : baseLimit scope m = numberOf (scope.policy.limits.bound m) := by
    rw [baseLimit, hsettings]
    cases m.option? <;> rfl
  split at hx
  · simp at hx
  · next base hnumber =>
    split at hx
    · simp at hx
    · next limit hlimit =>
      simp only [Bool.not_eq_true'] at hx
      simp [valueIssues, hbase, hnumber, hleast, hscaled, hlimit, hx, bind, Except.bind, pure,
        Except.pure, Except.map]

theorem allValueIssues_eq_nil {ms : List Metric}
    (h : ∀ m ∈ ms, ∀ x, values.get? m = some x → valueIssues scope t c m x = .ok []) :
    allValueIssues scope t c values ms = .ok [] := by
  induction ms with
  | nil => rfl
  | cons m ms ih =>
      obtain ⟨hm, hms⟩ := List.forall_mem_cons.1 h
      have hmore := ih hms
      cases hvalue : values.get? m with
      | none => simp [allValueIssues, hvalue, hmore, bind, Except.bind, pure, Except.pure]
      | some x =>
          simp [allValueIssues, hvalue, hm x hvalue, hmore, bind, Except.bind, pure, Except.pure]

/-- The required metrics are there, and every value is within its bound for any complexity. -/
structure IsModest (limits : Limits) (values : Values) : Prop where
  complete : missingLabels values = []
  within : ∀ entry ∈ values, ∀ c ∈ Complexity.all, isWithin limits c entry.1 entry.2 = true

theorem IsModest.allValueIssues_eq_nil (h : IsModest scope.policy.limits values)
    (hsettings : scope.settings = []) : allValueIssues scope t c values Metric.all = .ok [] := by
  refine Kpi.allValueIssues_eq_nil fun m _ x hx => valueIssues_eq_nil hsettings ?_
  obtain ⟨before, after, rfl, -⟩ := List.lookup_eq_some_iff.1 hx
  refine h.within (m, x) (by simp) c ?_
  cases c <;> decide

/-- A task that states modest metrics and a complexity that can be read has nothing to report. -/
theorem issues_eq_nil {lines : List String} (hlines : lines? scope.references t = some lines)
    (hdefined : undefinedNames scope.references t = [])
    (hmodest : IsModest scope.policy.limits (Kpi.values lines)) (hsettings : scope.settings = [])
    (hcomplexity : complexity scope.policy t = .ok c) : issues t scope = .ok [] := by
  simp only [issues, hlines, hdefined, hmodest.complete, hcomplexity]
  exact hmodest.allValueIssues_eq_nil hsettings

end Kpi

/-! ### All checks -/

/-- A main task of which no check has anything to report. -/
structure IsSilent (t : Task) (scope : Scope) : Prop where
  isMain : t.isMain = true
  identity : Identity.issues t scope = []
  status : Status.issues t scope = []
  errorHandling : ErrorHandling.issues t scope = []
  sections : Sections.issues t scope = []
  subtasks : Subtasks.issues t scope = []
  dependencies : Dependencies.issues t scope = []
  category : Category.issues t scope = []
  kpi : Kpi.issues t scope = .ok []

theorem IsSilent.exists_isClean {t : Task} {scope : Scope} (h : IsSilent t scope) :
    ∀ c ∈ named.map Prod.snd, ∃ v, c.run t scope = .ok v ∧ v.IsClean := by
  have hreport : ∀ issues : List Issue, issues = [] → ∃ v,
      (.ok (.ofIssues issues) : Except Fault Verdict) = .ok v ∧ v.IsClean := by
    rintro _ rfl
    exact ⟨_, rfl, Verdict.isClean_ofIssues_nil⟩
  simp only [named, List.map_cons, List.map_nil, List.forall_mem_cons]
  refine ⟨hreport _ h.identity, hreport _ h.status, ?_, hreport _ h.sections, ?_,
    hreport _ h.dependencies, hreport _ h.category, ?_, by simp⟩
  · simp only [Check.errorHandling]
    split
    · exact ⟨_, rfl, Verdict.isClean_passed 0⟩
    · exact hreport _ h.errorHandling
  · simp only [Check.subtasks, h.isMain, if_true]
    exact hreport _ h.subtasks
  · simp only [Check.kpi, h.kpi]
    exact ⟨_, rfl, Verdict.isClean_ofIssues_nil⟩

end Check

/-- Where no check has anything to report of any main task and all references used are defined,
the audit has nothing to report. -/
theorem Audit.exists_isClean_verdict {policy : Policy} {l : TaskList}
    (hreferences : ∀ line ∈ l.scannedLines, ∀ name ∈ Document.references line,
      l.references.contains name = true)
    (hsilent : ∀ t ∈ l.mainTasks, Check.IsSilent t ⟨policy, l, []⟩) :
    ∃ v, verdictByPreset policy "default" l = .ok v ∧ v.IsClean ∧ v.taskCount = l.size := by
  simp only [verdictByPreset_default_eq_ok_iff]
  refine exists_isClean_verdict_of_steps (Usage.isClean_check hreferences) fun t ht s hs => ?_
  obtain ⟨entry, hentry, rfl⟩ := List.mem_map.1 (Pipeline.mem_ofSteps.1 hs)
  exact (hsilent t ht).exists_isClean _ (List.mem_map_of_mem hentry)

end TaskAudit
