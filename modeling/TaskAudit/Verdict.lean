import TaskAudit.Issue

/-!
# Verdicts

The outcome of one or more checks: whether they passed, the errors and warnings in the order in
which they came up, and the number of tasks looked at. Combining verdicts joins their issues in
order and passes only if all of them passed.
-/

namespace TaskAudit

structure Verdict where
  valid : Bool
  errors : List Issue
  warnings : List Issue
  taskCount : Int
  deriving Repr, Inhabited

namespace Verdict

/-- A verdict without errors. -/
def passed (warnings : List Issue) (taskCount : Int) : Verdict :=
  { valid := true, errors := [], warnings, taskCount }

/-- A verdict that passes only if the list of errors is empty. -/
def ofLists (errors warnings : List Issue) : Verdict :=
  { valid := errors.isEmpty, errors, warnings, taskCount := 0 }

def failed (error : Issue) : Verdict := ofLists [error] []

def ofIssues (issues : List Issue) : Verdict :=
  ofLists (issues.filter fun i => !i.isWarning) (issues.filter (·.isWarning))

/-- No verdict at all passes, and one alone stays as it is. -/
def combine : List Verdict → Verdict
  | [] => passed [] 0
  | [v] => v
  | vs =>
    let errors := vs.flatMap (·.errors)
    { valid := vs.all (·.valid) && errors.isEmpty
      errors
      warnings := vs.flatMap (·.warnings)
      taskCount := vs.foldl (fun n v => n + v.taskCount) 0 }

def addError (v : Verdict) (i : Issue) : Verdict :=
  { v with valid := false, errors := v.errors ++ [i] }

def addWarning (v : Verdict) (i : Issue) : Verdict := { v with warnings := v.warnings ++ [i] }

def withTaskCount (v : Verdict) (n : Int) : Verdict := { v with taskCount := n }

def issueCount (v : Verdict) : Nat := v.errors.length + v.warnings.length

def hasIssues (v : Verdict) : Bool := 0 < v.issueCount

/-- The kinds of errors, in the order of their first occurrence. -/
def errorKinds (v : Verdict) : List IssueKind :=
  v.errors.foldl (fun kinds i => if kinds.contains i.kind then kinds else kinds ++ [i.kind]) []

/-- The errors of each kind. -/
def errorsByKind (v : Verdict) : List (IssueKind × List Issue) :=
  v.errorKinds.map fun kind => (kind, v.errors.filter (·.kind = kind))

def errorsFor (v : Verdict) (taskId : String) : List Issue :=
  v.errors.filter (·.taskId = some taskId)

def hasError (v : Verdict) (kindName : String) : Bool := v.errors.any (·.kind.name = kindName)

def hasWarning (v : Verdict) (kindName : String) : Bool := v.warnings.any (·.kind.name = kindName)

/-! ### Reports -/

def issueLines (issues : List Issue) : String := "\n".intercalate (issues.map Issue.text)

/-- The report for people: a headline, and below it every error and every warning. -/
def report (v : Verdict) : String :=
  let warnings := v.warnings.length
  if v.valid && warnings = 0 then s!"✓ TaskList validation passed! ({v.taskCount} tasks validated)"
  else if v.valid then
    s!"✓ TaskList validation passed with {warnings} warning(s)! " ++
      s!"({v.taskCount} tasks validated)\n\nWarnings:\n{issueLines v.warnings}"
  else
    let headline := s!"✗ TaskList validation failed with {v.errors.length} error(s)" ++
      (if warnings = 0 then "" else s!" and {warnings} warning(s)")
    "\n\n".intercalate (
      [s!"{headline} ({v.taskCount} tasks processed)", s!"Errors:\n{issueLines v.errors}"] ++
      (if warnings = 0 then [] else [s!"Warnings:\n{issueLines v.warnings}"]))

/-- The text that lists the errors of a verdict which did not pass. -/
def failureText (v : Verdict) : String :=
  "Task list validation failed:\n" ++ "\n".intercalate (v.errors.map fun i => s!"  - {i.text}")

end Verdict

end TaskAudit
