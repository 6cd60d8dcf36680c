import TaskAudit.Check
import TaskAudit.Document.Reference
import TaskAudit.Task.Id

/-!
# Identity

Ids have the right form, belong to a parent that exists, and occur once; a list keeps to one letter
code. Of several tasks with one id, or several codes, the first is not at fault.
-/

namespace TaskAudit.Check.Identity

def subtaskFormat : String := "PREFIX####-N or PREFIX####a"

/-- The distinct letter codes of tasks, in the order of their first occurrence. -/
def codes (tasks : List Task) : List String :=
  Document.firstSeen ((tasks.filterMap (·.code)).filter (!·.isEmpty))

def formatIssues (scope : Scope) (everything : List Task) (t : Task) : List Issue :=
  if t.isSubtask then
    match TaskId.parent? t.id with
    | some parent =>
      if !t.hasReadableId then [.invalidIdFormat t.id subtaskFormat true]
      else if everything.any fun u => u.isMain && u.id = parent then []
      else [.invalidSubtaskId t.id (some parent)]
    | none => [.invalidIdFormat t.id subtaskFormat true]
  else if scope.policy.idPattern.accepts t.id then []
  else if !scope.settings.isOn "strict_format" && TaskId.isDashedMain t.id then []
  else [.invalidIdFormat t.id scope.policy.idPattern.source false]

/-- A task whose id an earlier entry has. A task that is no entry of the list is a repetition of
every entry with its id. -/
def duplicateIssues (everything : List Task) (t : Task) : List Issue :=
  if !t.hasReadableId then []
  else
    let same := everything.filter (·.id = t.id)
    match same with
    | [] => []
    | first :: _ =>
      if first.isSame t then []
      else
        let count := if same.any (·.isSame t) then same.length else same.length + 1
        [.duplicateTaskId t.id count (some t.line)]

/-- The first task with a code other than the list's first one. -/
def codeIssues (everything : List Task) (t : Task) : List Issue :=
  let codes := codes everything
  match t.code with
  | none => []
  | some code =>
    if codes.length < 2 || code.isEmpty || codes.head? = some code then []
    else
      match everything.find? (·.code = some code) with
      | some u => if u.isSame t then [.mixedCodes t.id codes] else []
      | none => [.mixedCodes t.id codes]

/-- Whether the code of a main task stands for its category. -/
def meaningIssues (policy : Policy) (t : Task) : List Issue :=
  match t.code with
  | none => []
  | some code =>
    if code.isEmpty then []
    else
      match policy.codeCategories.find? code with
      | none => [.unrecognizedCode t.id code]
      | some expected =>
        if t.category = some expected then []
        else [.codeMismatch t.id code expected t.category]

def issues (t : Task) (scope : Scope) : List Issue :=
  let everything := scope.list.allTasks
  let subjects := if t.isMain then t :: t.subtasks else [t]
  (subjects.flatMap fun subject =>
    formatIssues scope everything subject ++ duplicateIssues everything subject ++
      codeIssues everything subject) ++
  (if t.isMain && scope.policy.checkCodes then meaningIssues scope.policy t else [])

end TaskAudit.Check.Identity

namespace TaskAudit.Check

def identity : Check where
  title := "IdValidator"
  rank := 90
  run t scope := .ok (.ofIssues (Identity.issues t scope))

end TaskAudit.Check
