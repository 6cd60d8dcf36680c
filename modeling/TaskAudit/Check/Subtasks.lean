import TaskAudit.Check.ErrorHandling
import TaskAudit.Check.Status

/-!
# Subtasks

The subtasks of a main task have statuses in use and the parent's letter code; numbered ones
document their status and error handling and are rated once completed.
-/

namespace TaskAudit.Check.Subtasks

open Content

/-- The sections that a numbered subtask lacks, given whether it needs a description. -/
def missing (references : References) (describe : Bool) (t : Task) : List String :=
  let lines := expanded references t.content
  missingSections lines ((if describe then ["Description"] else []) ++ ["Status"]) ++
    (if ErrorHandling.isDocumented references t.content then [] else ["Error Handling"])

def statusIssues (policy : Policy) (t : Task) : List Issue :=
  if policy.statuses.contains t.status then []
  else [.invalidSubtaskStatus t.id t.status policy.statuses (some t.line)]

def numberedIssues (scope : Scope) (t : Task) : List Issue :=
  if t.marker = some .numbered then
    let missing := missing scope.references (scope.settings.isOn "strict_formatting") t
    (if missing.isEmpty then [] else [.missingSubtaskSections t.id missing (some t.line)]) ++
      Status.ratingIssues scope.policy t
  else []

def codeIssues (parent t : Task) : List Issue :=
  if t.hasReadableId && t.code != parent.code then
    [.inconsistentSubtaskCode t.id t.code parent.id parent.code (some t.line)]
  else []

def issues (parent : Task) (scope : Scope) : List Issue :=
  parent.subtasks.flatMap fun t =>
    statusIssues scope.policy t ++ numberedIssues scope t ++ codeIssues parent t

end TaskAudit.Check.Subtasks

namespace TaskAudit.Check

/-- A subtask is looked at with its parent, so by itself it passes. -/
def subtasks : Check where
  title := "SubtaskValidator"
  rank := 45
  run t scope := .ok (if t.isMain then .ofIssues (Subtasks.issues t scope) else .passed [] 0)

end TaskAudit.Check
