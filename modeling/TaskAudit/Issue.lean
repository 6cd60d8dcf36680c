import TaskAudit.Number.Quantity
import TaskAudit.Policy
import TaskAudit.Value

/-!
# Issues

What an audit finds: a kind, a message for people, and the details for programs. There is one
function for each kind, which writes its message and fills in what it is about.
-/

namespace TaskAudit

/-- Errors make an audit fail, warnings do not. -/
inductive Severity where
  | error
  | warning
  deriving DecidableEq, Repr, Inhabited

namespace Severity

def name : Severity → String
  | error => "error"
  | warning => "warning"

def label : Severity → String
  | error => "ERROR"
  | warning => "WARNING"

def ofName? (name : String) : Option Severity :=
  if name = "error" then some error else if name = "warning" then some warning else none

end Severity

inductive IssueKind where
  | invalidIdFormat
  | invalidSubtaskId
  | duplicateTaskId
  | mixedCodes
  | codeMismatch
  | unrecognizedCode
  | invalidStatus
  | invalidPriority
  | missingSubtasks
  | missingReviewRating
  | invalidReviewRating
  | inconsistentSubtaskStatus
  | missingErrorHandling
  | incompleteErrorHandling
  | missingErrorImplementation
  | missingSection
  | missingCompletionSections
  | invalidSubtaskStatus
  | missingSubtaskSections
  | inconsistentSubtaskCode
  | missingDependenciesSection
  | invalidDependencyReference
  | missingDependencyReference
  | circularDependency
  | invalidCategoryRange
  | invalidIdForCategorization
  | missingCategorySections
  | missingKpiSection
  | missingKpiMetrics
  | missingKpiReference
  | invalidKpiValue
  | missingReference
  deriving DecidableEq, Repr, Inhabited

namespace IssueKind

def all : List IssueKind :=
  [invalidIdFormat, invalidSubtaskId, duplicateTaskId, mixedCodes, codeMismatch, unrecognizedCode,
    invalidStatus, invalidPriority, missingSubtasks, missingReviewRating, invalidReviewRating,
    inconsistentSubtaskStatus, missingErrorHandling, incompleteErrorHandling,
    missingErrorImplementation, missingSection, missingCompletionSections, invalidSubtaskStatus,
    missingSubtaskSections, inconsistentSubtaskCode, missingDependenciesSection,
    invalidDependencyReference, missingDependencyReference, circularDependency,
    invalidCategoryRange, invalidIdForCategorization, missingCategorySections, missingKpiSection,
    missingKpiMetrics, missingKpiReference, invalidKpiValue, missingReference]

def name : IssueKind → String
  | invalidIdFormat => "invalid_id_format"
  | invalidSubtaskId => "invalid_subtask_id"
  | duplicateTaskId => "duplicate_task_id"
  | mixedCodes => "mixed_prefixes"
  | codeMismatch => "semantic_prefix_mismatch"
  | unrecognizedCode => "unrecognized_semantic_prefix"
  | invalidStatus => "invalid_status"
  | invalidPriority => "invalid_priority"
  | missingSubtasks => "missing_subtasks_for_in_progress"
  | missingReviewRating => "missing_review_rating"
  | invalidReviewRating => "invalid_review_rating"
  | inconsistentSubtaskStatus => "inconsistent_subtask_status"
  | missingErrorHandling => "missing_error_handling"
  | incompleteErrorHandling => "incomplete_error_handling"
  | missingErrorImplementation => "missing_error_implementation"
  | missingSection => "missing_section"
  | missingCompletionSections => "missing_completion_sections"
  | invalidSubtaskStatus => "invalid_subtask_status"
  | missingSubtaskSections => "missing_subtask_sections"
  | inconsistentSubtaskCode => "inconsistent_subtask_prefix"
  | missingDependenciesSection => "missing_dependencies_section"
  | invalidDependencyReference => "invalid_dependency_reference"
  | missingDependencyReference => "missing_dependency_reference"
  | circularDependency => "circular_dependency"
  | invalidCategoryRange => "invalid_category_range"
  | invalidIdForCategorization => "invalid_id_for_categorization"
  | missingCategorySections => "missing_category_sections"
  | missingKpiSection => "missing_kpi_section"
  | missingKpiMetrics => "missing_kpi_metrics"
  | missingKpiReference => "missing_kpi_reference"
  | invalidKpiValue => "invalid_kpi_value"
  | missingReference => "missing_reference"

def ofName? (name : String) : Option IssueKind := all.find? (·.name = name)

end IssueKind

structure Issue where
  kind : IssueKind
  message : String
  taskId : Option String
  line : Option Int
  /-- Name of the section that the issue is about. -/
  topic : Option String
  severity : Severity
  details : List (String × Value)
  deriving Repr, Inhabited

namespace Issue

def isWarning (i : Issue) : Bool := i.severity = .warning

/-- One line for people: severity, task and line as far as they are known, and the message. -/
def text (i : Issue) : String :=
  let place := i.taskId.toList ++ (i.line.map fun n => s!"line {n}").toList
  let place := if place.isEmpty then "" else " (" ++ ", ".intercalate place ++ ")"
  s!"{i.severity.label}{place}: {i.message}"

private def listed (items : List String) : String := ", ".intercalate items

private def error (kind : IssueKind) (taskId message : String) (details : List (String × Value))
    (line : Option Int := none) (topic : Option String := none) : Issue :=
  { kind, message, taskId := some taskId, line, topic, severity := .error, details }

private def warning (kind : IssueKind) (taskId message : String) (details : List (String × Value)) :
    Issue :=
  { kind, message, taskId := some taskId, line := none, topic := none, severity := .warning,
    details }

/-! ### Ids -/

def invalidIdFormat (taskId expected : String) (subtask : Bool) : Issue :=
  let noun := if subtask then "Subtask" else "Task"
  error .invalidIdFormat taskId
    s!"{noun} ID '{taskId}' does not match expected format {expected}"
    [("expected", .text expected), ("task_type", .text (if subtask then "subtask" else "main"))]

def invalidSubtaskId (taskId : String) (parentId : Option String) : Issue :=
  let message :=
    match parentId with
    | none => s!"Could not extract parent ID from subtask '{taskId}'"
    | some parent => s!"Subtask '{taskId}' references non-existent parent task '{parent}'"
  error .invalidSubtaskId taskId message [("parent_id", .ofText? parentId)]

def duplicateTaskId (taskId : String) (count : Int) (line : Option Int) : Issue :=
  error .duplicateTaskId taskId s!"Duplicate task ID '{taskId}' found {count} times"
    [("duplicate_count", .int count)] line

def mixedCodes (taskId : String) (codes : List String) : Issue :=
  warning .mixedCodes taskId
    s!"Multiple task prefixes detected: {listed codes}. Consider using consistent prefixes"
    [("prefixes", .texts codes)]

def codeMismatch (taskId code suggested : String) (current : Option String) : Issue :=
  let actual :=
    match current with
    | none => "has no category assigned"
    | some category => s!"is categorized as '{category}'"
  warning .codeMismatch taskId
    (s!"Task '{taskId}' uses semantic prefix '{code}' which suggests category " ++
      s!"'{suggested}', but {actual}")
    [("prefix", .text code), ("suggested_category", .text suggested),
      ("current_category", .ofText? current)]

def unrecognizedCode (taskId code : String) : Issue :=
  warning .unrecognizedCode taskId
    s!"Task '{taskId}' uses prefix '{code}' which is not in the semantic prefix map"
    [("prefix", .text code)]

/-! ### Status and rating -/

def invalidStatus (taskId status : String) (valid : List String) : Issue :=
  error .invalidStatus taskId
    s!"Invalid status '{status}' for task '{taskId}'. Valid statuses: {listed valid}"
    [("status", .text status), ("valid_statuses", .texts valid)]

def invalidPriority (taskId priority : String) (valid : List String) : Issue :=
  error .invalidPriority taskId
    s!"Invalid priority '{priority}' for task '{taskId}'. Valid priorities: {listed valid}"
    [("priority", .text priority), ("valid_priorities", .texts valid)]

def missingSubtasks (taskId : String) : Issue :=
  error .missingSubtasks taskId s!"Task '{taskId}' is 'In Progress' but has no subtasks defined" []

def missingReviewRating (taskId : String) (line : Option Int) : Issue :=
  error .missingReviewRating taskId s!"Completed task '{taskId}' is missing a review rating" [] line

def invalidReviewRating (taskId rating : String) (line : Option Int) : Issue :=
  error .invalidReviewRating taskId
    (s!"Invalid review rating '{rating}' for task '{taskId}'. " ++
      "Expected N.N between 1.0 and 5.0 with optional (partial) suffix")
    [("rating", .text rating)] line

def inconsistentSubtaskStatus (taskId : String) (unfinished : List String) : Issue :=
  error .inconsistentSubtaskStatus taskId
    s!"Completed task '{taskId}' has unfinished subtasks: {listed unfinished}"
    [("open_subtasks", .texts unfinished)]

/-! ### Error handling -/

def missingErrorHandling (taskId : String) (undefined : List String) (subtask : Bool) : Issue :=
  let shorthand :=
    if subtask then "\x7b\x7berror-handling-subtask\x7d\x7d" else "\x7b\x7berror-handling\x7d\x7d"
  let message :=
    if undefined.isEmpty then
      s!"Task '{taskId}' is missing an **Error Handling** section or {shorthand} reference"
    else s!"Task '{taskId}' references undefined error handling: {listed undefined}"
  error .missingErrorHandling taskId message [("missing_references", .texts undefined)] none
    (some "Error Handling")

def incompleteErrorHandling (taskId : String) (missing : List String) : Issue :=
  error .incompleteErrorHandling taskId
    s!"Task '{taskId}' has incomplete error handling documentation. Missing: {listed missing}"
    [("missing_sections", .texts missing)] none (some "Error Handling")

def missingErrorImplementation (taskId : String) : Issue :=
  error .missingErrorImplementation taskId
    s!"Completed task '{taskId}' is missing an **Error Handling Implementation** section"
    [] none (some "Error Handling Implementation")

/-! ### Sections -/

def missingSection (taskId name : String) : Issue :=
  error .missingSection taskId s!"Missing required section '{name}' in task {taskId}" [] none
    (some name)

def missingCompletionSections (taskId : String) (missing : List String) : Issue :=
  error .missingCompletionSections taskId
    s!"Completed task '{taskId}' is missing required completion sections: {listed missing}"
    [("missing_sections", .texts missing)]

/-! ### Subtasks -/

def invalidSubtaskStatus (taskId status : String) (valid : List String) (line : Option Int) :
    Issue :=
  error .invalidSubtaskStatus taskId
    s!"Subtask '{taskId}' has invalid status '{status}'. Valid statuses: {listed valid}"
    [("status", .text status), ("valid_statuses", .texts valid)] line

def missingSubtaskSections (taskId : String) (missing : List String) (line : Option Int) : Issue :=
  error .missingSubtaskSections taskId
    s!"Subtask '{taskId}' is missing required sections: {listed missing}"
    [("missing_sections", .texts missing)] line

private def orNone (s : Option String) : String := s.getD "None"

def inconsistentSubtaskCode (taskId : String) (code : Option String) (parentId : String)
    (parentCode : Option String) (line : Option Int) : Issue :=
  error .inconsistentSubtaskCode taskId
    (s!"Subtask '{taskId}' has prefix '{orNone code}' which doesn't match " ++
      s!"parent task '{parentId}' prefix '{orNone parentCode}'")
    [("prefix", .ofText? code), ("parent_id", .text parentId),
      ("parent_prefix", .ofText? parentCode)] line

/-! ### Dependencies -/

def missingDependenciesSection (taskId : String) : Issue :=
  error .missingDependenciesSection taskId
    (s!"Task '{taskId}' is missing a **Dependencies** section or " ++
      "\x7b\x7bdef-no-dependencies\x7d\x7d reference")
    [] none (some "Dependencies")

def invalidDependencyReference (taskId : String) (unknown : List String) : Issue :=
  error .invalidDependencyReference taskId
    s!"Task '{taskId}' references non-existent dependencies: {listed unknown}"
    [("invalid_dependencies", .texts unknown)]

def missingDependencyReference (taskId : String) (names : List String) : Issue :=
  error .missingDependencyReference taskId
    s!"Task '{taskId}' references undefined dependency definitions: {listed names}"
    [("missing_references", .texts names)]

/-- A path of dependencies that closes. Of one or two equal ids it is a dependency of a task on
itself. -/
def circularDependency (taskId : String) (path : List String) : Issue :=
  let message :=
    if path.length ≤ 2 ∧ path.head? = path.getLast? then
      s!"Task '{taskId}' has a circular dependency on itself"
    else "Circular dependency detected: " ++ " -> ".intercalate path
  error .circularDependency taskId message [("cycle_path", .texts path)]

/-! ### Categories -/

def invalidCategoryRange (taskId : String) (number : Int) (ranges : Catalog NumberRange) : Issue :=
  let available := ranges.entries.map fun (name, r) => s!"{name} ({r.low}-{r.high})"
  error .invalidCategoryRange taskId
    (s!"Task '{taskId}' number {number} doesn't fit any category range. " ++
      s!"Available ranges: {listed available}")
    [("task_number", .int number)]

def invalidIdForCategorization (taskId : String) : Issue :=
  error .invalidIdForCategorization taskId
    s!"Cannot categorize task '{taskId}': no task number could be extracted from the ID" []

def missingCategorySections (taskId category : String) (missing : List String) : Issue :=
  error .missingCategorySections taskId
    s!"Task '{taskId}' ({category} category) is missing required sections: {listed missing}"
    [("category", .text category), ("missing_sections", .texts missing)]

/-! ### Code quality -/

def missingKpiSection (taskId : String) : Issue :=
  error .missingKpiSection taskId
    s!"Task '{taskId}' is missing a **Code Quality KPIs** section or KPI reference"
    [] none (some "Code Quality KPIs")

def missingKpiMetrics (taskId : String) (metrics : List String) : Issue :=
  error .missingKpiMetrics taskId
    s!"Task '{taskId}' is missing required KPI metrics: {listed metrics}"
    [("missing_metrics", .texts metrics)] none (some "Code Quality KPIs")

def missingKpiReference (taskId : String) (names : List String) : Issue :=
  error .missingKpiReference taskId
    s!"Task '{taskId}' references undefined KPI definitions: {listed names}"
    [("missing_references", .texts names)]

private def ofQuantity : Quantity → Value
  | .whole n => .int n
  | .real x => .float x

/-- A metric beyond its bound, from below if the bound is the least value allowed. -/
def invalidKpiValue (taskId metric : String) (value limit : Quantity) (least : Bool)
    (complexity : Option String) : Issue :=
  let message :=
    if least then s!"Task '{taskId}' has {metric} below minimum: {value.text} < {limit.text}"
    else s!"Task '{taskId}' exceeds {metric} limit: {value.text} > {limit.text}"
  error .invalidKpiValue taskId message
    [("metric", .text metric), ("value", ofQuantity value), ("limit", ofQuantity limit),
      ("complexity", .ofText? complexity)]

/-! ### References -/

/-- A reference without a definition, first used on a line; the lines of its uses, if any are given,
or else that line. -/
def missingReference (name : String) (line : Int) (usageLines : List Int) : Issue where
  kind := .missingReference
  message := s!"Missing reference definition: '\x7b\x7b{name}\x7d\x7d'"
  taskId := none
  line := some line
  topic := none
  severity := .error
  details := [("reference_name", .text name),
    ("usage_lines", .list ((if usageLines.isEmpty then [line] else usageLines).map .int))]

end Issue

end TaskAudit
