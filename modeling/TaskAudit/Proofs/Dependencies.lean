import TaskAudit.Check.Dependencies
import TaskAudit.Proofs.Cycle

/-!
# Circular dependencies

In a list whose ids are distinct, the check of dependencies reports a cycle for a task exactly when
the task lies on one, and it reports a path around it. Of the three groups of issues of a task that
declares its dependencies, only the last is about cycles.
-/

namespace TaskAudit.Check.Dependencies

open Relation

/-- Some task of the list with the one id depends on the other. -/
def DependsOn (l : TaskList) (id target : String) : Prop :=
  ∃ t ∈ l.allTasks, t.id = id ∧ target ∈ declared l.references t

/-! ### The graph of a list -/

section Graph

variable {l : TaskList} {t : Task}

theorem find?_graph_eq_some_iff (hids : l.ids.Nodup) {id : String} {targets : List String} :
    (graph l).find? id = some targets ↔
      ∃ t ∈ l.allTasks, t.id = id ∧ declared l.references t = targets := by
  have hpairs : ((l.allTasks.map fun t => (t.id, declared l.references t)).reverse.map
      Prod.fst).Nodup := by
    rw [List.map_reverse, List.nodup_reverse, List.map_map]
    exact hids
  rw [graph, Catalog.find?_ofPairs, Catalog.get?_eq_some_iff_mem hpairs, List.mem_reverse,
    List.mem_map]
  simp only [Prod.mk.injEq]

theorem edge_graph_iff (hids : l.ids.Nodup) {id target : String} :
    (graph l).Edge id target ↔ DependsOn l id target := by
  rw [Graph.Edge, Graph.next]
  constructor
  · intro h
    cases hfind : (graph l).find? id with
    | none => simp [hfind] at h
    | some targets =>
        obtain ⟨t, ht, hid, rfl⟩ := (find?_graph_eq_some_iff hids).1 hfind
        exact ⟨t, ht, hid, by simpa [hfind] using h⟩
  · rintro ⟨t, ht, hid, htarget⟩
    rw [(find?_graph_eq_some_iff hids).2 ⟨t, ht, hid, rfl⟩]
    exact htarget

/-- Entering the dependencies of a task of the list changes nothing. -/
theorem edge_insert_graph_iff (hids : l.ids.Nodup) (ht : t ∈ l.allTasks) {id target : String} :
    Graph.Edge ((graph l).insert t.id (declared l.references t)) id target ↔
      DependsOn l id target := by
  rw [← edge_graph_iff hids, Graph.Edge, Graph.Edge, Graph.next, Graph.next, Catalog.find?_insert]
  by_cases hid : id = t.id
  · rw [if_pos hid, (find?_graph_eq_some_iff hids).2 ⟨t, ht, hid.symm, rfl⟩]
  · rw [if_neg hid]

end Graph

/-! ### What is reported -/

/-- A task on a cycle has one issue, with a path around it, and any other task has none. -/
theorem cycleIssues_spec {l : TaskList} {t : Task} (hids : l.ids.Nodup) (ht : t ∈ l.allTasks) :
    (∃ path, cycleIssues l t = [.circularDependency t.id path] ∧
      Graph.IsCycle (DependsOn l) t.id path) ∨
    (cycleIssues l t = [] ∧ ¬ TransGen (DependsOn l) t.id t.id) := by
  have hedge : Graph.Edge ((graph l).insert t.id (declared l.references t)) = DependsOn l := by
    funext id target
    exact propext (edge_insert_graph_iff hids ht)
  by_cases hself : (declared l.references t).contains t.id
  · refine Or.inl ⟨[t.id, t.id], by rw [cycleIssues, if_pos hself], ⟨[], by simp⟩, ?_⟩
    rw [List.isChain_pair]
    exact ⟨t, ht, rfl, by simpa using hself⟩
  · rw [cycleIssues, if_neg hself, cycle?, if_neg hself]
    cases hcycle : Graph.cycle? ((graph l).insert t.id (declared l.references t)) t.id with
    | some path => exact Or.inl ⟨path, rfl, hedge ▸ Graph.isCycle_of_cycle?_eq_some hcycle⟩
    | none => exact Or.inr ⟨rfl, hedge ▸ Graph.cycle?_eq_none_iff.1 hcycle⟩

theorem kind_of_mem_referenceIssues {references : References} {t : Task} {i : Issue}
    (h : i ∈ referenceIssues references t) : i.kind = .missingDependencyReference := by
  simp only [referenceIssues] at h
  split at h
  · simp at h
  · rw [List.mem_singleton.1 h]
    rfl

theorem kind_of_mem_existenceIssues {l : TaskList} {t : Task} {i : Issue}
    (h : i ∈ existenceIssues l t) : i.kind = .invalidDependencyReference := by
  simp only [existenceIssues] at h
  split at h
  · simp at h
  · rw [List.mem_singleton.1 h]
    rfl

theorem exists_eq_of_mem_cycleIssues {l : TaskList} {t : Task} {i : Issue}
    (h : i ∈ cycleIssues l t) : ∃ path, i = .circularDependency t.id path := by
  simp only [cycleIssues] at h
  split at h
  · exact ⟨_, List.mem_singleton.1 h⟩
  · split at h
    · exact ⟨_, List.mem_singleton.1 h⟩
    · simp at h

/-- Of the errors of a task that declares its dependencies, those about cycles are the cycle
issues. -/
theorem filter_errors_issues {t : Task} {scope : Scope} (hdeclared : isDeclared t = true) :
    (Verdict.ofIssues (issues t scope)).errors.filter (·.kind = .circularDependency) =
      cycleIssues scope.list t := by
  have hreferences : (referenceIssues scope.references t).filter (·.kind = .circularDependency) =
      [] := by
    rw [List.filter_eq_nil_iff]
    intro i hi
    simp [kind_of_mem_referenceIssues hi]
  have hexistence : (if scope.settings.isOn "validate_existence" true then
      existenceIssues scope.list t else []).filter (·.kind = .circularDependency) = [] := by
    rw [List.filter_eq_nil_iff]
    intro i hi
    split at hi
    · simp [kind_of_mem_existenceIssues hi]
    · simp at hi
  have hcycles : (cycleIssues scope.list t).filter
      (fun i => !i.isWarning && decide (i.kind = .circularDependency)) =
      cycleIssues scope.list t := by
    rw [List.filter_eq_self]
    intro i hi
    obtain ⟨path, rfl⟩ := exists_eq_of_mem_cycleIssues hi
    rfl
  calc (Verdict.ofIssues (issues t scope)).errors.filter (·.kind = .circularDependency)
      = ((issues t scope).filter (·.kind = .circularDependency)).filter (!·.isWarning) := by
        rw [Verdict.ofIssues, Verdict.ofLists, List.filter_comm]
    _ = ((cycleIssues scope.list t).filter (·.kind = .circularDependency)).filter
          (!·.isWarning) := by
        rw [issues, if_pos hdeclared]
        simp only [List.filter_append, hreferences, hexistence, List.nil_append]
    _ = cycleIssues scope.list t := by rw [List.filter_filter, hcycles]

/-- **Cycles are reported exactly.** In a list whose ids are distinct, a task that declares its
dependencies has an error about a cycle exactly when it lies on one; then it is the only such error,
and its path goes around a cycle. -/
theorem circularDependency_mem_errors_iff {t : Task} {scope : Scope} (hids : scope.list.ids.Nodup)
    (ht : t ∈ scope.list.allTasks) (hdeclared : isDeclared t = true) :
    ∃ v, Check.dependencies.run t scope = .ok v ∧
      ((∃ i ∈ v.errors, i.kind = .circularDependency) ↔
        TransGen (DependsOn scope.list) t.id t.id) ∧
      ∀ i ∈ v.errors, i.kind = .circularDependency →
        v.errors.filter (·.kind = .circularDependency) = [i] ∧ i.taskId = some t.id ∧
          ∃ path, i.details = [("cycle_path", .texts path)] ∧
            Graph.IsCycle (DependsOn scope.list) t.id path := by
  refine ⟨.ofIssues (issues t scope), rfl, ?_⟩
  have hfilter : (Verdict.ofIssues (issues t scope)).errors.filter (·.kind = .circularDependency) =
      cycleIssues scope.list t := filter_errors_issues hdeclared
  have hmem : ∀ i, (i ∈ (Verdict.ofIssues (issues t scope)).errors ∧
      i.kind = .circularDependency) ↔ i ∈ cycleIssues scope.list t := by
    intro i
    rw [← hfilter, List.mem_filter, decide_eq_true_iff]
  rcases cycleIssues_spec hids ht with ⟨path, hissues, hpath⟩ | ⟨hissues, hnone⟩
  · constructor
    · refine ⟨fun _ => hpath.transGen, fun _ => ⟨.circularDependency t.id path, ?_⟩⟩
      rw [hmem, hissues]
      exact List.mem_singleton_self _
    · intro i hi hkind
      have heq : i = .circularDependency t.id path := by
        have := (hmem i).1 ⟨hi, hkind⟩
        rwa [hissues, List.mem_singleton] at this
      subst heq
      exact ⟨hfilter.trans hissues, rfl, path, rfl, hpath⟩
  · have hempty : ∀ i ∈ (Verdict.ofIssues (issues t scope)).errors,
        i.kind ≠ .circularDependency := by
      intro i hi hkind
      have := (hmem i).1 ⟨hi, hkind⟩
      simp [hissues] at this
    constructor
    · exact ⟨fun ⟨i, hi, hkind⟩ => absurd hkind (hempty i hi), fun hcycle => absurd hcycle hnone⟩
    · exact fun i hi hkind => absurd hkind (hempty i hi)

def inlineDependent : Task :=
  { (default : Task) with id := "AB0001", content := ["**Dependencies**", "AB0002"] }

/-- A task that says it depends on nothing, and uses a block that says on what it depends. -/
def blockDependent : Task :=
  { (default : Task) with
    id := "AB0002"
    content := ["\x7b\x7bno-dependencies\x7d\x7d", "\x7b\x7bshared\x7d\x7d"] }

def entangled : TaskList where
  tasks := [inlineDependent, blockDependent]
  references := Catalog.ofPairs [("shared", ["**Dependencies**: AB0001"])]
  path := none
  totalLines := 0
  lines := []

def entangledScope : Scope := ⟨default, entangled, []⟩

theorem exists_circularDependency_blockDependent :
    entangled.ids.Nodup ∧ blockDependent ∈ entangled.allTasks ∧
      isDeclared blockDependent = true ∧
      ∃ v, Check.dependencies.run blockDependent entangledScope = .ok v ∧
        ∃ i ∈ v.errors, i.kind = .circularDependency := by
  have hids : entangledScope.list.ids.Nodup := by decide
  have hall : entangled.allTasks = [inlineDependent, blockDependent] := rfl
  have ht : blockDependent ∈ entangled.allTasks := by simp [hall]
  have hdeclared : isDeclared blockDependent = true := by decide +kernel
  have hinline : declared entangled.references inlineDependent = ["AB0002"] := by decide +kernel
  have hblock : declared entangled.references blockDependent = ["AB0001"] := by decide +kernel
  have hforth : DependsOn entangled "AB0001" "AB0002" :=
    ⟨inlineDependent, by simp [hall], rfl, by simp [hinline]⟩
  have hback : DependsOn entangled "AB0002" "AB0001" := ⟨blockDependent, ht, rfl, by simp [hblock]⟩
  obtain ⟨v, hrun, hiff, -⟩ := circularDependency_mem_errors_iff hids ht hdeclared
  exact ⟨hids, ht, hdeclared, v, hrun, hiff.2 (.tail (.single hback) hforth)⟩

end TaskAudit.Check.Dependencies
