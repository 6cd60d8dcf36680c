import TaskAudit.Document.Field
import TaskAudit.Task.Id
import TaskAudit.Text.Case

/-!
# Task tables

The rows of the tables of current and of completed tasks. A table starts three lines below its
heading and ends at a blank line or a heading; rows with the id of a numbered subtask are not tasks.
-/

namespace TaskAudit

def TaskTable.heading : TaskTable → String
  | .current => "## Current Tasks"
  | .completed => "## Completed Tasks"

namespace Document

open Text

def dropEndBar (cs : List Char) : List Char :=
  if cs.getLast? = some '|' then cs.dropLast else cs

/-- The cells of a row, without the bars around it and the blanks around each cell. -/
def cells (line : String) : List String :=
  let row := trim line.toList
  let row := dropEndBar ((after? ['|'] row).getD row)
  (splitOn '|' row).map fun cell => String.ofList (trim cell)

def startsRow (line : String) : Bool := (trimStart line.toList).head? = some '|'

def isSeparatorRow (line : String) : Bool :=
  let row := trim line.toList
  !row.isEmpty && row.all fun c => c = '|' || c = '-' || c = ':' || isBlank c

/-- The column of ratings, named in the row below the heading. -/
def ratingColumn? (columnRow : Option String) : Option Nat :=
  columnRow.bind fun row =>
    if startsRow row then
      (cells row).findIdx? fun cell =>
        let name := String.ofList (cell.toList.map asciiLower)
        name = "review rating" || name = "rating"
    else none

/-- The rating of a row: its cell in the column of ratings, or else the last of six cells or
more. -/
def rating? (column : Option Nat) (row : List String) : Option String :=
  let cell :=
    match column with
    | some i => some (row[i]?.getD "")
    | none => if 6 ≤ row.length then row.getLast? else none
  cell.bind fun cell =>
    let cell := trimmed cell
    if cell = "" || cell = "-" then none else some cell

/-- A row of at least two cells that starts with an id. -/
structure Row where
  line : Nat
  id : String
  description : String
  cells : List String

def row? (line : String) (number : Nat) : Option Row :=
  if !startsRow line || isSeparatorRow line then none
  else
    match cells line with
    | id :: description :: more =>
      if id.isEmpty then none
      else some { line := number, id, description, cells := id :: description :: more }
    | _ => none

def endsTable (line : String) : Bool :=
  (after? ['#', '#'] line.toList).isSome || isBlankString line

/-- The column of ratings and the rows of the table under a heading. -/
def tableRows (lines : List String) (heading : String) : Option Nat × List Row :=
  match lines.findIdx? (trimmed · = heading) with
  | none => (none, [])
  | some i =>
    (ratingColumn? lines[i + 1]?,
      ((lines.zipIdx.drop (i + 3)).takeWhile fun entry => !endsTable entry.1).filterMap
        fun entry => row? entry.1 entry.2)

def rowTask (policy : Policy) (table : TaskTable) (ratingColumn : Option Nat) (row : Row) :
    Task where
  id := row.id
  description := row.description
  status :=
    match table with
    | .completed => Task.completedStatus
    | .current => (row.cells[2]?.bind nonBlank?).getD Task.plannedStatus
  priority := row.cells[3]?.bind nonBlank?
  content := []
  subtasks := []
  line := row.line
  kind := .main
  code := TaskId.code? row.id
  category := TaskId.category? policy row.id none
  parentId := none
  rating := rating? ratingColumn row.cells
  marker := none
  origin := .row table row.line

/-- The tasks in the table under a heading; in a table of completed ones every status is that. -/
def tableTasks (policy : Policy) (table : TaskTable) (heading : String) (lines : List String) :
    List Task :=
  let (ratingColumn, rows) := tableRows lines heading
  (rows.filter fun row => !TaskId.isNumbered row.id).map (rowTask policy table ratingColumn)

end Document

end TaskAudit
