import TaskAudit.Shape
import TaskAudit.Task

/-!
# Task lists as data

Reading tasks and task lists from maps of their fields. Of a task only the id must be there; keys of
no field are passed over.
-/

namespace TaskAudit

namespace TaskKind

def ofName? (name : String) : Option TaskKind :=
  if name = "main" then some main else if name = "subtask" then some subtask else none

def name : TaskKind → String
  | main => "main"
  | subtask => "subtask"

end TaskKind

namespace Marker

def ofName? (name : String) : Option Marker :=
  if name = "numbered" then some numbered else if name = "checkbox" then some checkbox else none

def name : Marker → String
  | numbered => "numbered"
  | checkbox => "checkbox"

end Marker

namespace Task

open Shape

/-- The task that a map of fields describes, given its subtasks. -/
private def fields (origin : Origin) (entries : List (String × Value))
    (readSubtasks : Reading (List Task)) : Reading Task :=
  (fun id description status priority content subtasks line kind code category parentId rating
      marker =>
    { id, description, status, priority, content, subtasks, line, kind, code, category, parentId,
      rating, marker, origin })
    <$> field entries "id" (.fail .absent) text
    <*> field entries "description" (.ok "") text
    <*> field entries "status" (.ok plannedStatus) text
    <*> field entries "priority" (.ok none) (optional text)
    <*> field entries "content" (.ok []) (list text)
    <*> readSubtasks.under (.key "subtasks")
    <*> field entries "line_number" (.ok 0) integer
    <*> field entries "type" (.ok .main) (choice TaskKind.ofName?)
    <*> field entries "prefix" (.ok none) (optional text)
    <*> field entries "category" (.ok none) (optional text)
    <*> field entries "parent_id" (.ok none) (optional text)
    <*> field entries "review_rating" (.ok none) (optional text)
    <*> field entries "subtask_format" (.ok none) (optional (choice Marker.ofName?))

/-- The place of an entry inside a task that is itself listed or not. -/
private def inside (place : Option (List Nat)) (i : Nat) : Option (List Nat) :=
  place.map (· ++ [i])

private def originOf : Option (List Nat) → Origin
  | some place => .listed place
  | none => .apart

/-- The most tasks that may be inside each other. -/
def maxDepth : Nat := 255

mutual

/-- A task at a place of a list, or apart from every list. There is room for so many tasks inside
each other. -/
def ofValueWithin (room : Nat) (place : Option (List Nat)) : Value → Reading Task
  | .map entries =>
    if room = 0 then .fail .deepRecord
    else fields (originOf place) entries (subtasksOf (room - 1) place entries)
  | _ => .fail (if room = 0 then .deepRecord else .notRecord)

def subtasksOf (room : Nat) (place : Option (List Nat)) :
    List (String × Value) → Reading (List Task)
  | [] => .ok []
  | (name, v) :: more =>
    if name = "subtasks" then listOfWithin room place v else subtasksOf room place more

def listOfWithin (room : Nat) (place : Option (List Nat)) : Value → Reading (List Task)
  | .list items => membersOf room place 0 items
  | _ => .fail .notList

def membersOf (room : Nat) (place : Option (List Nat)) (i : Nat) :
    List Value → Reading (List Task)
  | [] => .ok []
  | v :: more =>
    List.cons <$> (ofValueWithin room (inside place i) v).under (.index i)
      <*> membersOf room place (i + 1) more

end

/-- A task apart from every list. -/
def ofValue (v : Value) : Reading Task := ofValueWithin maxDepth none v

/-- The tasks of a list. -/
def listOf (v : Value) : Reading (List Task) := listOfWithin maxDepth (some []) v

end Task

def TaskList.ofValue : Value → Reading TaskList
  | .map entries =>
    (fun tasks references path totalLines lines => { tasks, references, path, totalLines, lines })
      <$> Shape.field entries "tasks" (.ok []) Task.listOf
      <*> Shape.field entries "references" (.ok ∅) (Shape.map (Shape.list Shape.text))
      <*> Shape.field entries "file_path" (.ok none) (Shape.optional Shape.text)
      <*> Shape.field entries "total_lines" (.ok 0) Shape.integer
      <*> Shape.field entries "lines" (.ok []) (Shape.list Shape.text)
  | _ => .fail .notRecord

end TaskAudit
