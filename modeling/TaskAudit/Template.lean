import TaskAudit.Failure
import TaskAudit.Text.Case

/-!
# Templates

Documents to start from, one for each category. A template shows every part of a document: both task
tables, a task in progress with two subtasks, a planned one and a completed one, the sections of the
category, and the references that they use.
-/

namespace TaskAudit

/-- The wording of a category's template. -/
structure Template where
  title : String
  /-- What the tasks in progress, planned and completed are. -/
  active : String
  planned : String
  done : String
  /-- The lines of the category's sections. -/
  sections : List (String × List String)

namespace Template

def standard : List (String × Template) :=
  [("stateful_worker",
      { title := "Session Worker"
        active := "Implement session worker"
        planned := "Add idle timeout handling"
        done := "Scaffold worker supervision tree"
        sections := [
          ("Process Design", ["- One worker per session, registered by session id"]),
          ("State Management",
            ["- State holds the session id, last activity and pending requests"]),
          ("Supervision Strategy",
            ["- Restart transient workers one for one, at most 3 times in 5 seconds"])] }),
    ("web_layer",
      { title := "Account Pages"
        active := "Build account settings page"
        planned := "Add profile avatar upload"
        done := "Add account routes"
        sections := [
          ("Route Design", ["- `GET /account` renders settings, `POST /account` saves them"]),
          ("Context Integration",
            ["- Calls the accounts context only, never the repository directly"]),
          ("Template/Component Strategy",
            ["- One form component shared by create and edit views"])] }),
    ("business_logic",
      { title := "Billing Rules"
        active := "Implement invoice calculation"
        planned := "Add discount rules"
        done := "Define billing context API"
        sections := [
          ("API Design",
            ["- `create_invoice(account, items)` returns the invoice or a validation error"]),
          ("Data Access", ["- Reads prices through the catalog repository"]),
          ("Validation Strategy",
            ["- Reject empty item lists and negative quantities before pricing"])] }),
    ("data_layer",
      { title := "Order Storage"
        active := "Create orders schema"
        planned := "Add order search queries"
        done := "Add initial migrations"
        sections := [
          ("Schema Design", ["- `orders` table with customer id, status and total columns"]),
          ("Migration Strategy",
            ["- Additive migrations only, backfills run as separate jobs"]),
          ("Query Optimization",
            ["- Index on (customer_id, inserted_at) for the order history query"])] }),
    ("infrastructure",
      { title := "Release Pipeline"
        active := "Configure production release"
        planned := "Add health check endpoint"
        done := "Set up build image"
        sections := [
          ("Release Configuration", ["- Single release artifact built once per commit"]),
          ("Environment Variables",
            ["- `DATABASE_URL` and `SECRET_KEY` are required at boot"]),
          ("Deployment Strategy",
            ["- Rolling deploy, one instance at a time behind the load balancer"])] }),
    ("testing",
      { title := "Checkout Tests"
        active := "Write checkout integration tests"
        planned := "Add payment failure scenarios"
        done := "Set up test fixtures"
        sections := [
          ("Test Strategy", ["- Integration tests drive checkout through the public API"]),
          ("Coverage Requirements", ["- Every checkout error branch has at least one test"])] })]

def plain (category : String) : Template where
  title := Text.titled (String.ofList (category.toList.map fun c => if c = '_' then ' ' else c))
  active := "Implement core"
  planned := "Extend core"
  done := "Scaffold"
  sections := []

def forCategory (category : String) : Template :=
  (Catalog.get? category standard).getD (plain category)

def use (name : String) : String := "\x7b\x7b" ++ name ++ "\x7d\x7d"

def define (name : String) : String := "## #" ++ use name

def label (name : String) : String := "**" ++ name ++ "**"

/-- The references that the sections of a template use, with the lines that they stand for. -/
def blocks : List (String × List String) :=
  [("error-handling",
      [label "Error Handling",
        label "Core Principles",
        "- Let unexpected errors propagate to the caller",
        "- Return explicit error values for expected failures",
        label "Error Implementation",
        "- Wrap lower-level errors with the failing operation's context",
        label "Error Examples",
        "- Missing input returns a validation error naming the field",
        label "Framework Specifics",
        "- Failures are logged once at the boundary that handles them",
        ""]),
    ("error-handling-subtask",
      [label "Error Handling",
        label "Task-Specific Approach",
        "- Follow the parent task's error handling principles",
        label "Error Reporting",
        "- Report failures with the subtask id in the log context",
        ""]),
    ("standard-kpis",
      [label "Code Quality KPIs",
        "- Functions per module: 5",
        "- Lines per function: 12",
        "- Call depth: 2",
        ""]),
    ("def-no-dependencies", [label "Dependencies", "None"])]

def definitions : List String :=
  "## Reference Definitions" :: "" :: blocks.flatMap fun block => define block.1 :: block.2

def field (label value : String) : List String := [Template.label label, value, ""]

def categoryLines (template : Template) (names : List String) : List String :=
  names.flatMap fun name =>
    label name ::
      ((Catalog.get? name template.sections).getD ["- Describe the approach for this section"] ++
        [""])

/-- A task number in four digits or more, a minus counting as one. -/
def numberText (n : Int) : String :=
  let digits := Nat.toDigits 10 n.natAbs
  let sign : List Char := if n < 0 then ['-'] else []
  String.ofList (sign ++ List.replicate (4 - digits.length - sign.length) '0' ++ digits)

/-! ### Main tasks -/

/-- A main task of a template: its row, and the section that says more about it. -/
structure Entry where
  id : String
  title : String
  description : String
  status : String
  priority : String
  rating : Option String
  requirement : String
  /-- The lines of its section after those on error handling. -/
  closing : List String

namespace Entry

/-- The row of a table with the given cells. -/
def row (cells : List String) : String := "| " ++ " | ".intercalate cells ++ " |"

def cells (e : Entry) : List String :=
  [e.id, e.title, e.status, e.priority] ++ e.rating.toList

def heading (e : Entry) : String := "### " ++ e.id ++ ": " ++ e.title

/-- The fields of a section and its lines on requirements, category and error handling. -/
def opening (e : Entry) (ofCategory : List String) : List String :=
  "" :: field "Description" e.description ++
  field "Status" e.status ++
  field "Priority" e.priority ++
  (match e.rating with
    | some rating => field "Review Rating" rating
    | none => []) ++
  [label "Requirements", e.requirement, ""] ++
  ofCategory ++
  [label "Error Handling", use "error-handling", ""]

/-- The lines of a section, without subtasks. -/
def lines (e : Entry) (ofCategory : List String) : List String :=
  e.heading :: e.opening ofCategory ++ e.closing

end Entry

section Tasks

variable (template : Template) (code : String) (low : Int)

def activeEntry : Entry where
  id := code ++ numberText low
  title := template.active
  description := template.active ++ " for the " ++ Text.lowered template.title ++ " area."
  status := "In Progress"
  priority := "High"
  rating := none
  requirement := "- " ++ template.active ++ " end to end"
  closing := field "Dependencies" "None" ++ [label "Code Quality KPIs", use "standard-kpis", ""]

def plannedEntry : Entry where
  id := code ++ numberText (low + 1)
  title := template.planned
  description := template.planned ++ "."
  status := "Planned"
  priority := "Medium"
  rating := none
  requirement := "- " ++ template.planned ++ " without changing existing behaviour"
  closing :=
    field "Dependencies" (code ++ numberText low) ++
      [label "Code Quality KPIs", use "standard-kpis", ""]

def doneEntry : Entry where
  id := code ++ numberText (low + 2)
  title := template.done
  description := template.done ++ "."
  status := "Completed"
  priority := "Medium"
  rating := some "4.5"
  requirement := "- " ++ template.done ++ " so later tasks can build on it"
  closing :=
    [use "def-no-dependencies",
      "",
      label "Code Quality KPIs",
      "- Functions per module: 4",
      "- Lines per function: 10",
      "- Call depth: 2",
      ""] ++
    field "Implementation Notes"
      "- Kept the first version small and documented the public entry points" ++
    [label "Complexity Assessment" ++ ": Simple - one module with no shared state", ""] ++
    field "Maintenance Impact" "- Low, no other task depends on internal details" ++
    field "Error Handling Implementation"
      "- Inputs are validated up front and failures are logged once"

end Tasks

/-! ### Subtasks -/

/-- A numbered subtask of a template. -/
structure Part where
  number : String
  description : String
  status : String
  rating : Option String

namespace Part

def first : Part := ⟨"1", "Define the public interface", "Completed", some "4.0"⟩

def second : Part := ⟨"2", "Implement the main flow", "In Progress", none⟩

def heading (p : Part) (parentId : String) : String :=
  "#### " ++ p.number ++ ". " ++ p.description ++ " (" ++ parentId ++ "-" ++ p.number ++ ")"

def body (p : Part) : List String :=
  "" :: field "Description" p.description ++
  field "Status" p.status ++
  (match p.rating with
    | some rating => field "Review Rating" rating
    | none => []) ++
  [label "Error Handling", use "error-handling-subtask", ""]

end Part

/-- The lines before the sections of tasks: the two tables. -/
def tables (title : String) (active planned done : Entry) : List String :=
  ["# " ++ title ++ " Task List",
    "",
    "## Current Tasks",
    "| ID | Description | Status | Priority |",
    "|----|-------------|--------|----------|",
    Entry.row active.cells,
    Entry.row planned.cells,
    "",
    "## Completed Tasks",
    "| ID | Description | Status | Priority | Review Rating |",
    "|----|-------------|--------|----------|---------------|",
    Entry.row done.cells,
    "",
    "## Task Details",
    ""]

/-- The lines of a document with ids of a code, numbered from the lowest of a category. -/
def lines (template : Template) (sections : List String) (code : String) (low : Int) :
    List String :=
  let active := template.activeEntry code low
  let planned := template.plannedEntry code low
  let done := template.doneEntry code low
  let ofCategory := categoryLines template sections
  tables template.title active planned done ++
  active.lines ofCategory ++
  Part.first.heading active.id :: Part.first.body ++
  Part.second.heading active.id :: Part.second.body ++
  planned.lines ofCategory ++
  done.lines ofCategory ++
  definitions

/-- The first letter code that stands for a category. -/
def codeFor (policy : Policy) (category : String) : Except ConfigFault String :=
  match policy.codeCategories.entries.find? (·.2 = category) with
  | some entry => .ok entry.1
  | none => .error (.noCode category)

/-- The document of a category, with ids of the given code or of the one that stands for it. -/
def render (policy : Policy) (category code : String) (useCategoryCode : Bool) :
    Except ConfigFault String := do
  match policy.categoryRanges.find? category with
  | none => throw (.unknownCategory category policy.categoryRanges.names)
  | some range =>
    let code ← if useCategoryCode then codeFor policy category else pure code
    let lines := (forCategory category).lines (policy.sectionsOf category) code range.low
    return "\n".intercalate (lines ++ [""])

end Template

end TaskAudit
