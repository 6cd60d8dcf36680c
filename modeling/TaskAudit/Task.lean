import TaskAudit.Catalog

/-!
# Tasks and task lists

A task list holds main tasks, each with its subtasks, the blocks of lines that references stand for,
and the lines it was read from. Two tasks with equal fields may still be different entries of a
list, so a task carries its origin, and being the same entry means having the same origin.
-/

namespace TaskAudit

inductive TaskKind where
  | main
  | subtask
  deriving DecidableEq, Repr, Inhabited

/-- The two ways to write a subtask. -/
inductive Marker where
  | numbered
  | checkbox
  deriving DecidableEq, Repr, Inhabited

/-- The two task tables of a document. -/
inductive TaskTable where
  | current
  | completed
  deriving DecidableEq, Repr, Inhabited

/-- Which entry of which list a task is. -/
inductive Origin where
  | row (table : TaskTable) (line : Nat)
  | header (line : Nat)
  | marker (line : Int)
  /-- An entry of a list given as data: its index, after that of each task around it. -/
  | listed (place : List Nat)
  /-- No entry of any list. -/
  | apart
  deriving DecidableEq, Repr, Inhabited

structure Task where
  id : String
  description : String
  status : String
  priority : Option String
  content : List String
  subtasks : List Task
  /-- Line of the document, counted from zero. -/
  line : Int
  kind : TaskKind
  /-- The capital letters that the id starts with. -/
  code : Option String
  category : Option String
  parentId : Option String
  rating : Option String
  marker : Option Marker
  origin : Origin
  deriving Repr, Inhabited

namespace Task

def completedStatus : String := "Completed"

def inProgressStatus : String := "In Progress"

def plannedStatus : String := "Planned"

/-- The id of a subtask whose marker shows none. -/
def unreadableId : String := "INVALID_FORMAT"

def isMain (t : Task) : Bool := t.kind = .main

def isSubtask (t : Task) : Bool := t.kind = .subtask

def isCompleted (t : Task) : Bool := t.status = completedStatus

def hasReadableId (t : Task) : Bool := t.id != unreadableId

/-- Whether two tasks are one entry of a list. A task apart from every list is no entry at all. -/
def isSame (t u : Task) : Bool := t.origin = u.origin && t.origin != .apart

end Task

/-- The named blocks of lines of a document. -/
abbrev References := Catalog (List String)

structure TaskList where
  tasks : List Task
  references : References
  path : Option String
  totalLines : Int
  lines : List String
  deriving Repr, Inhabited

namespace TaskList

def mainTasks (l : TaskList) : List Task := l.tasks.filter (·.isMain)

def subtasks (l : TaskList) : List Task := l.tasks.flatMap (·.subtasks)

def allTasks (l : TaskList) : List Task := l.tasks.flatMap fun t => t :: t.subtasks

def withStatus (l : TaskList) (status : String) : List Task :=
  l.allTasks.filter (·.status = status)

def inCategory (l : TaskList) (category : String) : List Task :=
  l.allTasks.filter (·.category = some category)

def find? (l : TaskList) (id : String) : Option Task := l.allTasks.find? (·.id = id)

def contains (l : TaskList) (id : String) : Bool := (l.find? id).isSome

def ids (l : TaskList) : List String := l.allTasks.map (·.id)

def size (l : TaskList) : Nat := l.allTasks.length

/-- The lines that references are looked for in: those of the document, or those of the main tasks
when the list was made without a document. -/
def scannedLines (l : TaskList) : List String :=
  if l.lines.isEmpty then l.tasks.flatMap (·.content) else l.lines

end TaskList

/-- How often each name occurs, names in the order of their first occurrence. -/
def tally (names : List String) : Catalog Nat :=
  names.foldl (fun counts name => counts.update name fun count => count.getD 0 + 1) ∅

structure TaskStats where
  total : Nat
  main : Nat
  subtasks : Nat
  byStatus : Catalog Nat
  byCategory : Catalog Nat
  references : Nat
  totalLines : Int

def TaskList.stats (l : TaskList) : TaskStats where
  total := l.size
  main := l.mainTasks.length
  subtasks := l.subtasks.length
  byStatus := tally (l.allTasks.map (·.status))
  byCategory := tally (l.mainTasks.map fun t =>
    match t.category with
    | some category => if category.isEmpty then "uncategorized" else category
    | none => "uncategorized")
  references := l.references.size
  totalLines := l.totalLines

end TaskAudit
