import TaskAudit.Check

/-!
# Status

Statuses and priorities are in use, work in progress has subtasks, and completed work has a rating.
-/

namespace TaskAudit.Check.Status

open Text

/-- A completed task has a rating of the policy's form. -/
def ratingIssues (policy : Policy) (t : Task) : List Issue :=
  if !t.isCompleted then []
  else
    match t.rating with
    | none => [.missingReviewRating t.id (some t.line)]
    | some rating =>
      if policy.ratingPattern.accepts (trimmed rating) then []
      else [.invalidReviewRating t.id rating (some t.line)]

def statusIssues (policy : Policy) (t : Task) : List Issue :=
  if policy.statuses.contains t.status then [] else [.invalidStatus t.id t.status policy.statuses]

def priorityIssues (policy : Policy) (t : Task) : List Issue :=
  match t.priority with
  | none => []
  | some priority =>
    if policy.priorities.contains priority then []
    else [.invalidPriority t.id priority policy.priorities]

def progressIssues (t : Task) : List Issue :=
  if t.isMain && t.status = Task.inProgressStatus && t.subtasks.isEmpty then
    [.missingSubtasks t.id]
  else []

/-- A completed main task has no unfinished subtasks. -/
def completionIssues (t : Task) : List Issue :=
  let unfinished := (t.subtasks.filter (!·.isCompleted)).map (·.id)
  if t.isMain && t.isCompleted && !unfinished.isEmpty then
    [.inconsistentSubtaskStatus t.id unfinished]
  else []

def issues (t : Task) (scope : Scope) : List Issue :=
  statusIssues scope.policy t ++ priorityIssues scope.policy t ++ progressIssues t ++
    ratingIssues scope.policy t ++
    (if scope.settings.isOn "strict_transitions" then completionIssues t else [])

end TaskAudit.Check.Status

namespace TaskAudit.Check

def status : Check where
  title := "StatusValidator"
  rank := 60
  run t scope := .ok (.ofIssues (Status.issues t scope))

end TaskAudit.Check
