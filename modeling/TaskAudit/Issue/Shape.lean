import TaskAudit.Shape
import TaskAudit.Verdict

/-!
# Issues and verdicts as data

Reading issues and verdicts from maps of their fields; keys of no field are passed over.
-/

namespace TaskAudit

open Shape

/-- The details of an issue are any map. -/
private def detailsOf : Value → Reading (List (String × Value))
  | .map entries => .ok entries
  | _ => .fail .notMap

def Issue.ofValue : Value → Reading Issue
  | .map entries =>
    (fun kind message taskId line topic severity details =>
      { kind, message, taskId, line, topic, severity, details })
      <$> field entries "type" (.fail .absent) (choice IssueKind.ofName?)
      <*> field entries "message" (.fail .absent) Shape.text
      <*> field entries "task_id" (.ok none) (Shape.optional Shape.text)
      <*> field entries "line_number" (.ok none) (Shape.optional integer)
      <*> field entries "section" (.ok none) (Shape.optional Shape.text)
      <*> field entries "severity" (.ok .error) (choice Severity.ofName?)
      <*> field entries "context" (.ok []) detailsOf
  | _ => .fail .notRecord

def Verdict.ofValue : Value → Reading Verdict
  | .map entries =>
    (fun valid errors warnings taskCount => { valid, errors, warnings, taskCount })
      <$> field entries "valid" (.ok true) bool
      <*> field entries "errors" (.ok []) (list Issue.ofValue)
      <*> field entries "warnings" (.ok []) (list Issue.ofValue)
      <*> field entries "task_count" (.ok 0) integer
  | _ => .fail .notRecord

end TaskAudit
