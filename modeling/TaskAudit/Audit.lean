import TaskAudit.Document
import TaskAudit.Pipeline
import TaskAudit.Usage

/-!
# Audits

An audit first looks whether every reference of a task list is defined and then runs a pipeline over
its main tasks. Beside the verdict it tells what it did: events for an observer, notes for a log.
-/

namespace TaskAudit

inductive Phase where
  | references
  | tasks
  deriving DecidableEq, Repr

def Phase.name : Phase → String
  | references => "References"
  | tasks => "Tasks"

inductive Event where
  | started (phase : Phase) (total : Option Nat)
  | checked (id : String) (issues : Nat)
  | finished (phase : Phase) (issues : Nat)
  | interrupted (phase : Phase) (fault : Fault)
  deriving DecidableEq, Repr

namespace Audit

/-- The verdict on a task list: its references, its main tasks in order, and the number of all
tasks. -/
def verdict (policy : Policy) (p : Pipeline) (l : TaskList) : Except Fault Verdict := do
  let tasks ← p.runMany l.mainTasks { policy, list := l, settings := [] }
  return (Verdict.combine [Usage.checkList l none, tasks]).withTaskCount l.size

/-- What an observer is told, in order. -/
def events (policy : Policy) (p : Pipeline) (l : TaskList) : List Event :=
  let scope : Scope := { policy, list := l, settings := [] }
  [.started .references none, .finished .references (Usage.checkList l none).issueCount,
    .started .tasks (some l.mainTasks.length)] ++
  (p.finished scope l.mainTasks).map (fun (t, v) => .checked t.id v.issueCount) ++
  match p.runMany l.mainTasks scope with
  | .ok v => [.finished .tasks v.issueCount]
  | .error fault => [.interrupted .tasks fault]

def taskNotes (p : Pipeline) (scope : Scope) : List Task → List Note
  | [] => []
  | t :: more =>
    Pipeline.notes t scope p.steps ++
      match p.run t scope with
      | .ok v => .taskChecked t.id v.errors.length v.warnings.length :: taskNotes p scope more
      | .error _ => []

/-- What a log is told, in order. -/
def notes (policy : Policy) (p : Pipeline) (l : TaskList) : List Note :=
  .referencesChecked (Usage.checkList l none).errors.length ::
    taskNotes p { policy, list := l, settings := [] } l.mainTasks ++
    match verdict policy p l with
    | .ok v => [.audited v.taskCount v.errors.length v.warnings.length]
    | .error _ => []

end Audit

/-! ### Documents -/

namespace Document

/-- The definitions whose name an earlier one has. -/
def replacements : List Definition → List String → List Definition
  | [], _ => []
  | d :: more, names =>
    if names.contains d.name then d :: replacements more names
    else replacements more (d.name :: names)

/-- The notes on the table under a heading, if there is one. -/
def tableNotes (table : TaskTable) (lines : List String) : List Note :=
  if lines.any (Text.trimmed · = table.heading) then
    let rows := (tableRows lines table.heading).2
    let skipped := rows.filter fun row => TaskId.isNumbered row.id
    skipped.map (fun row => .rowSkipped row.id row.line) ++
      [.tableRead table.heading (rows.length - skipped.length)]
  else []

def notes (policy : Policy) (text : String) : List Note :=
  let lines := Text.lines text
  (replacements (definitions lines) []).map (fun d => .definitionReplaced d.name d.line) ++
    tableNotes .current lines ++ tableNotes .completed lines ++
    [.documentRead (referenceBlocks lines).size (rowTasks policy lines).length
      (sections policy lines).length (tasks policy lines).length]

end Document

namespace Audit

def read (policy : Policy) (text : String) (path : Option String) : Except Failure TaskList :=
  match TaskList.ofText? policy text path with
  | some l => .ok l
  | none => .error .noTasks

def verdictByPreset (policy : Policy) (preset : String) (l : TaskList) :
    Except Failure Verdict := do
  let p ← (Preset.ofName preset).mapError .config
  (verdict policy p l).mapError .check

def verdictOfText (policy : Policy) (preset text : String) (path : Option String) :
    Except Failure Verdict := do
  verdictByPreset policy preset (← read policy text path)

end Audit

end TaskAudit
