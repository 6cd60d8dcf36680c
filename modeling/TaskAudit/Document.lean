import TaskAudit.Document.Reference
import TaskAudit.Document.Section
import TaskAudit.Document.Table
import TaskAudit.Text.Lines

/-!
# Documents

Reading a document into a task list: every table row is a task, with the fields and lines of the
first section of its id where they are given, and every section whose id is in no row is a task of
its own. A document without tasks is not a task list.
-/

namespace TaskAudit

namespace Document

/-- A row's task with what the section of its id gives. -/
def mergeRow (row : Task) (s : Section) : Task :=
  { row with
    content := s.content
    subtasks := s.subtasks
    description := (stated? s.description).getD row.description
    status := (stated? s.status).getD row.status
    priority := stated? s.priority <|> row.priority
    rating := stated? s.rating <|> row.rating }

/-- The task of a section that no row belongs to. -/
def standalone (policy : Policy) (s : Section) : Task where
  id := s.id
  description := (stated? s.description).getD s.title
  status := (stated? s.status).getD Task.plannedStatus
  priority := some ((stated? s.priority).getD "Medium")
  content := s.content
  subtasks := s.subtasks
  line := s.start
  kind := .main
  code := TaskId.code? s.id
  category := TaskId.category? policy s.id none
  parentId := none
  rating := s.rating
  marker := none
  origin := .header s.start

/-- The tasks of rows, in order, and after them those of sections without a row. -/
def merge (policy : Policy) (rows : List Task) (sections : List Section) : List Task :=
  (rows.map fun row =>
    match sections.find? (·.id = row.id) with
    | some s => mergeRow row s
    | none => row) ++
  ((sections.filter fun s => !rows.any (·.id = s.id)).map (standalone policy))

def rowTasks (policy : Policy) (lines : List String) : List Task :=
  tableTasks policy .current TaskTable.current.heading lines ++
    tableTasks policy .completed TaskTable.completed.heading lines

def tasks (policy : Policy) (lines : List String) : List Task :=
  merge policy (rowTasks policy lines) (sections policy lines)

end Document

/-- The task list in a document's text, if there is a task in it. -/
def TaskList.ofText? (policy : Policy) (text : String) (path : Option String) : Option TaskList :=
  let lines := Text.lines text
  let tasks := Document.tasks policy lines
  if tasks.isEmpty then none
  else some { tasks, references := Document.referenceBlocks lines, path,
              totalLines := lines.length, lines }

end TaskAudit
