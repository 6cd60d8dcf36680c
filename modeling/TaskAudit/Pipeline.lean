import TaskAudit.Check.Category
import TaskAudit.Check.Dependencies
import TaskAudit.Check.ErrorHandling
import TaskAudit.Check.Identity
import TaskAudit.Check.Kpi
import TaskAudit.Check.Sections
import TaskAudit.Check.Status
import TaskAudit.Check.Subtasks
import TaskAudit.Failure

/-!
# Pipelines

A pipeline runs checks over a task, those of higher rank first and those of one rank in the order
given, and leaves out what comes after the first check that fails the task.
-/

namespace TaskAudit

namespace Check

def named : List (String × Check) :=
  [("id", identity), ("status", status), ("error_handling", errorHandling), ("section", sections),
    ("subtask", subtasks), ("dependency", dependencies), ("category", category), ("kpi", kpi)]

def ofName (name : String) : Except ConfigFault Check :=
  match Catalog.get? name named with
  | some c => .ok c
  | none =>
    .error (.unknownCheck name ((named.map Prod.fst).mergeSort fun a b => decide (a ≤ b)))

end Check

/-- A check with the settings it runs with. -/
structure Step where
  check : Check
  settings : Settings

namespace Step

def ofName (name : String) (settings : Settings) : Except ConfigFault Step :=
  (Check.ofName name).map fun check => { check, settings }

def run (s : Step) (t : Task) (scope : Scope) : Except Fault Verdict :=
  s.check.run t (scope.withSettings s.settings)

end Step

structure Pipeline where
  steps : List Step

namespace Pipeline

/-- Steps in the order of their ranks. -/
def ofSteps (steps : List Step) : Pipeline where
  steps := steps.mergeSort fun a b => decide (b.check.rank ≤ a.check.rank)

/-- The verdicts of steps up to the first one that does not pass. -/
def verdicts (t : Task) (scope : Scope) : List Step → Except Fault (List Verdict)
  | [] => .ok []
  | step :: more => do
    let v ← step.run t scope
    if v.valid then return v :: (← verdicts t scope more) else return [v]

def run (p : Pipeline) (t : Task) (scope : Scope) : Except Fault Verdict :=
  (verdicts t scope p.steps).map Verdict.combine

def runEach (p : Pipeline) (scope : Scope) : List Task → Except Fault (List Verdict)
  | [] => .ok []
  | t :: more => do return (← p.run t scope) :: (← runEach p scope more)

def runMany (p : Pipeline) (tasks : List Task) (scope : Scope) : Except Fault Verdict :=
  (p.runEach scope tasks).map Verdict.combine

/-! ### The course of a run -/

/-- The steps that are started for a task: up to the first one that does not pass. -/
def started (t : Task) (scope : Scope) : List Step → List Step
  | [] => []
  | step :: more =>
    match step.run t scope with
    | .ok v => if v.valid then step :: started t scope more else [step]
    | .error _ => [step]

/-- The tasks that a run over several of them gets to the end of, with their verdicts. -/
def finished (p : Pipeline) (scope : Scope) : List Task → List (Task × Verdict)
  | [] => []
  | t :: more =>
    match p.run t scope with
    | .ok v => (t, v) :: finished p scope more
    | .error _ => []

/-- The steps that a run over several tasks starts, with the task of each. -/
def startedMany (p : Pipeline) (scope : Scope) : List Task → List (Task × Step)
  | [] => []
  | t :: more =>
    (started t scope p.steps).map (t, ·) ++
      match p.run t scope with
      | .ok _ => startedMany p scope more
      | .error _ => []

def notes (t : Task) (scope : Scope) : List Step → List Note
  | [] => []
  | step :: more =>
    step.check.notes t (scope.withSettings step.settings) ++
      match step.run t scope with
      | .ok v =>
        if v.valid then notes t scope more
        else [.taskFailed t.id step.check.title (more.map (·.check.title))]
      | .error _ => []

end Pipeline

/-! ### Presets -/

namespace Preset

def strictSettings : List (String × Settings) :=
  [("id", [("strict_format", .bool true)]),
    ("status", [("strict_transitions", .bool true)]),
    ("error_handling", [("require_comprehensive", .bool true)]),
    ("section", [("enforce_all_sections", .bool true)]),
    ("subtask", [("strict_formatting", .bool true)]),
    ("dependency", [("validate_existence", .bool true)]),
    ("category", [("enforce_categories", .bool true)]),
    ("kpi", [("max_functions_per_module", .int 5), ("max_lines_per_function", .int 10),
      ("max_call_depth", .int 3)])]

/-- All checks without settings. -/
def default : List Step := Check.named.map fun entry => ⟨entry.2, []⟩

/-- Only ids and statuses. -/
def minimal : List Step := [⟨Check.identity, []⟩, ⟨Check.status, []⟩]

/-- All checks with tightened options, some of them replaced. -/
def strict (overrides : List (String × Settings) := []) : List Step :=
  strictSettings.filterMap fun (name, settings) =>
    (Catalog.get? name Check.named).map fun check =>
      ⟨check, settings.merge ((Catalog.get? name overrides).getD [])⟩

def all : List (String × List Step) :=
  [("default", default), ("minimal", minimal), ("strict", strict)]

def ofName (name : String) : Except ConfigFault Pipeline :=
  match Catalog.get? name all with
  | some steps => .ok (.ofSteps steps)
  | none => .error (.unknownPreset name (all.map Prod.fst))

end Preset

end TaskAudit
