import TaskAudit.Proofs.Consistency
import TaskAudit.Proofs.Course

/-!
# Verdicts of groups

Two verdicts are joined part by part, and a verdict without issues changes nothing. Combining a list
of verdicts is joining them one after the other, if none of them passes with an error in it; so the
list can be cut into groups anywhere, empty groups among them, and a run over tasks with it.
-/

namespace TaskAudit

namespace Verdict

/-- A verdict that passes has no errors. One that fails may have none either. -/
def HidesNone (v : Verdict) : Prop := v.valid = true → v.errors = []

/-- Two verdicts as one. -/
def join (v w : Verdict) : Verdict where
  valid := v.valid && w.valid
  errors := v.errors ++ w.errors
  warnings := v.warnings ++ w.warnings
  taskCount := v.taskCount + w.taskCount

/-! ### Joining -/

theorem join_assoc (u v w : Verdict) : (u.join v).join w = u.join (v.join w) := by
  simp [join, Bool.and_assoc, Int.add_assoc]

theorem join_passed (v : Verdict) : v.join (passed [] 0) = v := by simp [join, passed]

theorem passed_join (v : Verdict) : (passed [] 0).join v = v := by simp [join, passed]

/-- Verdicts joined one after the other. -/
def joinAll (vs : List Verdict) : Verdict := vs.foldr join (passed [] 0)

theorem joinAll_append (vs ws : List Verdict) :
    joinAll (vs ++ ws) = (joinAll vs).join (joinAll ws) := by
  induction vs with
  | nil => exact (passed_join _).symm
  | cons v vs ih =>
      calc joinAll (v :: vs ++ ws)
          = v.join ((joinAll vs).join (joinAll ws)) := by rw [← ih]; rfl
        _ = (joinAll (v :: vs)).join (joinAll ws) := (join_assoc _ _ _).symm

theorem joinAll_map_joinAll (vss : List (List Verdict)) :
    joinAll (vss.map joinAll) = joinAll vss.flatten := by
  induction vss with
  | nil => rfl
  | cons vs vss ih =>
      rw [List.flatten_cons, joinAll_append, ← ih]
      rfl

theorem joinAll_eq (vs : List Verdict) : joinAll vs =
    { valid := vs.all (·.valid)
      errors := vs.flatMap (·.errors)
      warnings := vs.flatMap (·.warnings)
      taskCount := vs.foldl (fun n v => n + v.taskCount) 0 } := by
  have hcount : ∀ (n : Int) (ws : List Verdict),
      ws.foldl (fun n v => n + v.taskCount) n = n + ws.foldl (fun n v => n + v.taskCount) 0 := by
    intro n ws
    induction ws generalizing n with
    | nil => exact (Int.add_zero n).symm
    | cons w ws ih =>
        rw [List.foldl_cons, List.foldl_cons, ih (n + w.taskCount), ih (0 + w.taskCount)]
        omega
  induction vs with
  | nil => rfl
  | cons v vs ih =>
      have hcons : joinAll (v :: vs) = v.join (joinAll vs) := rfl
      rw [hcons, ih]
      simp [join, hcount v.taskCount]

theorem hidesNone_joinAll {vs : List Verdict} (h : ∀ v ∈ vs, v.HidesNone) :
    (joinAll vs).HidesNone := by
  rw [joinAll_eq]
  intro hvalid
  rw [List.flatMap_eq_nil_iff]
  exact fun v hv => h v hv (List.all_eq_true.1 hvalid v hv)

/-! ### Combining -/

/-- Combining is joining: what it looks at besides, whether there are errors, changes nothing. -/
theorem combine_eq_joinAll {vs : List Verdict} (h : ∀ v ∈ vs, v.HidesNone) :
    combine vs = joinAll vs := by
  match vs with
  | [] => rfl
  | [v] => exact (join_passed v).symm
  | v :: w :: rest =>
      have hclean := hidesNone_joinAll h
      rw [joinAll_eq] at hclean ⊢
      simp only [combine, Verdict.mk.injEq, and_true]
      rw [Bool.eq_iff_iff, Bool.and_eq_true]
      exact ⟨And.left, fun hvalid => ⟨hvalid, List.isEmpty_iff.2 (hclean hvalid)⟩⟩

theorem combine_map_combine {vss : List (List Verdict)}
    (h : ∀ vs ∈ vss, ∀ v ∈ vs, v.HidesNone) :
    combine (vss.map combine) = combine vss.flatten := by
  have heach : vss.map combine = vss.map joinAll :=
    List.map_congr_left fun vs hvs => combine_eq_joinAll (h vs hvs)
  have hgroups : ∀ v ∈ vss.map joinAll, v.HidesNone := by
    intro v hv
    obtain ⟨vs, hvs, rfl⟩ := List.mem_map.1 hv
    exact hidesNone_joinAll (h vs hvs)
  have hall : ∀ v ∈ vss.flatten, v.HidesNone := by
    intro v hv
    obtain ⟨vs, hvs, hmem⟩ := List.mem_flatten.1 hv
    exact h vs hvs v hmem
  calc combine (vss.map combine)
      = joinAll (vss.map joinAll) := by rw [heach, combine_eq_joinAll hgroups]
    _ = joinAll vss.flatten := joinAll_map_joinAll vss
    _ = combine vss.flatten := (combine_eq_joinAll hall).symm

theorem IsSorted.hidesNone {v : Verdict} (h : v.IsSorted) : v.HidesNone := h.valid_iff.1

end Verdict

namespace Pipeline

variable {p : Pipeline} {scope : Scope} {xs ys : List Task}

theorem runEach_append_eq : p.runEach scope (xs ++ ys) = do
    return (← p.runEach scope xs) ++ (← p.runEach scope ys) := by
  induction xs with
  | nil =>
      have hnil : p.runEach scope [] = .ok [] := rfl
      rw [hnil, List.nil_append]
      cases p.runEach scope ys <;> rfl
  | cons t xs ih =>
      rw [List.cons_append, runEach, runEach, ih]
      cases p.run t scope with
      | error fault => rfl
      | ok v =>
          cases p.runEach scope xs with
          | error fault => rfl
          | ok vs => cases p.runEach scope ys <;> rfl

/-- A run over tasks is the runs over two parts of them, one after the other. -/
theorem runMany_append (hp : ∀ s ∈ p.steps, s.check ∈ Check.named.map Prod.snd) :
    p.runMany (xs ++ ys) scope = do
      return Verdict.combine [← p.runMany xs scope, ← p.runMany ys scope] := by
  rw [runMany, runMany, runMany, runEach_append_eq]
  cases hxs : p.runEach scope xs with
  | error fault => rfl
  | ok vs =>
      cases hys : p.runEach scope ys with
      | error fault => rfl
      | ok ws =>
          have hgroups : ∀ us ∈ [vs, ws], ∀ v ∈ us, v.HidesNone := by
            simp only [List.forall_mem_cons]
            exact ⟨fun v hv => (isSorted_of_mem_runEach hp hxs v hv).hidesNone,
              fun v hv => (isSorted_of_mem_runEach hp hys v hv).hidesNone, by simp⟩
          have hcombined := Verdict.combine_map_combine hgroups
          rw [List.flatten_cons, List.flatten_cons, List.flatten_nil, List.append_nil] at hcombined
          exact congrArg Except.ok hcombined.symm

end Pipeline

/-- **Verdicts can be combined in any groups.** Group by group or all at once, the result is the
same, as long as no verdict passes with an error in it. So the run of built-in checks over tasks can
be split anywhere, and it fails where one of its parts does. Combining counts every issue once. -/
theorem Verdict.combine_groups :
    (∀ vss : List (List Verdict), (∀ vs ∈ vss, ∀ v ∈ vs, v.valid = true → v.errors = []) →
      combine (vss.map combine) = combine vss.flatten) ∧
    (∀ (p : Pipeline) (scope : Scope) (xs ys : List Task),
      (∀ s ∈ p.steps, s.check ∈ Check.named.map Prod.snd) →
        p.runMany (xs ++ ys) scope = do
          return combine [← p.runMany xs scope, ← p.runMany ys scope]) ∧
    ∀ vs : List Verdict, (combine vs).issueCount = (vs.map (·.issueCount)).sum :=
  ⟨fun _ h => combine_map_combine h, fun _ _ _ _ hp => Pipeline.runMany_append hp,
    issueCount_combine⟩

namespace Audit

/-- One verdict that fails, none at all, and one that passes with a warning. -/
def verdictGroups : List (List Verdict) :=
  [[.failed (.missingSubtasks "AB0001"), .passed [] 2], [],
    [.passed [.unrecognizedCode "AB0002" "AB"] 1]]

theorem combine_groups_verdictGroups :
    (∀ vs ∈ verdictGroups, ∀ v ∈ vs, v.valid = true → v.errors = []) ∧
    (∀ s ∈ statusTwice.steps, s.check ∈ Check.named.map Prod.snd) ∧
    Verdict.combine (verdictGroups.map Verdict.combine) =
      Verdict.combine verdictGroups.flatten ∧
    (∃ v w, statusTwice.runMany [openTask] ⟨.standard, openList, []⟩ = .ok v ∧
      statusTwice.runMany [openTask, Pipeline.plannedTask] ⟨.standard, openList, []⟩ = .ok w ∧
      statusTwice.runMany ([openTask] ++ [openTask, Pipeline.plannedTask])
        ⟨.standard, openList, []⟩ = .ok (Verdict.combine [v, w])) ∧
    (Verdict.combine verdictGroups.flatten).issueCount = 2 := by
  have hgroups : ∀ vs ∈ verdictGroups, ∀ v ∈ vs, v.valid = true → v.errors = [] := by
    simp [verdictGroups, Verdict.failed, Verdict.ofLists, Verdict.passed]
  have hnamed : ∀ s ∈ statusTwice.steps, s.check ∈ Check.named.map Prod.snd := by
    simp [statusTwice, Check.named]
  obtain ⟨hcombine, hrun, hcount⟩ := Verdict.combine_groups
  exact ⟨hgroups, hnamed, hcombine _ hgroups,
    ⟨_, _, rfl, rfl, hrun statusTwice ⟨.standard, openList, []⟩ [openTask]
      [openTask, Pipeline.plannedTask] hnamed⟩, hcount _⟩

end Audit

end TaskAudit
