import TaskAudit.Check
import TaskAudit.Check.Content
import TaskAudit.Graph
import TaskAudit.Text.Case

/-!
# Dependencies

A task says which tasks it depends on, or that it depends on none; those tasks exist, and no chain
of dependencies leads back to it.
-/

namespace TaskAudit.Check.Dependencies

open Text Document Content

def isNoneName (name : String) : Bool :=
  let cs := name.toList
  let cs := if cs.getLast? = some '\n' then cs.dropLast else cs
  ["def-no-dependencies", "no-dependencies", "DEF:no-dependencies"].contains (String.ofList cs)

/-- A text without the references used in it. -/
def dropReferences (cs : List Char) : List Char :=
  match cs with
  | [] => []
  | c :: rest =>
    match usage? (c :: rest) with
    | some (name, ⟨tail, _⟩) =>
      if name.isEmpty then c :: dropReferences rest else dropReferences tail
    | none => c :: dropReferences rest
termination_by cs.length
decreasing_by
  · exact Nat.lt_succ_self _
  · assumption
  · exact Nat.lt_succ_self _

def isIdPadding (c : Char) : Bool := c = ' ' || c = Char.ofNat 0x60

/-- The ids in the value of a dependency field; a value that says there are none has none. -/
def ids (value : String) : List String :=
  let cs := trim (dropReferences value.toList)
  if ["", "none", "n/a", "-"].contains (String.ofList (cs.map asciiLower)) ||
      (after? boldMark cs).isSome then []
  else
    (((splitOn ',' cs).map (trimOf isIdPadding)).filter (· ≠ [])).map String.ofList

def fieldIds (lines : List String) : List String :=
  match field? "Dependencies" lines with
  | some value => ids value
  | none => []

/-- The ids that a task depends on: those of its own field, or else those of the first block with
such a field among the references that it uses. -/
def declared (references : References) (t : Task) : List String :=
  let lines := t.ownLines
  match fieldIds lines with
  | [] =>
    let blocks := (referencesIn lines).filterMap fun name =>
      if isNoneName name then none else references.find? name
    match blocks.find? (hasSection · "Dependencies") with
    | some block => fieldIds block
    | none => []
  | inline => inline

/-- What every task of a list depends on; of tasks with one id the last counts. -/
def graph (list : TaskList) : Graph :=
  Catalog.ofPairs (list.allTasks.map fun t => (t.id, declared list.references t))

/-- The references by which a task says that it depends on none. -/
def noneNames (t : Task) : List String := (referencesIn t.ownLines).filter isNoneName

def isDeclared (t : Task) : Bool :=
  hasSection t.ownLines "Dependencies" || !(noneNames t).isEmpty

/-- The cycle that a task lies on, other than a dependency on itself. -/
def cycle? (list : TaskList) (t : Task) : Option (List String) :=
  let dependencies := declared list.references t
  if dependencies.contains t.id then none
  else Graph.cycle? ((graph list).insert t.id dependencies) t.id

def cycleIssues (list : TaskList) (t : Task) : List Issue :=
  if (declared list.references t).contains t.id then [.circularDependency t.id [t.id, t.id]]
  else
    match cycle? list t with
    | some path => [.circularDependency t.id path]
    | none => []

def referenceIssues (references : References) (t : Task) : List Issue :=
  let undefined := (noneNames t).filter (!references.contains ·)
  if undefined.isEmpty then [] else [.missingDependencyReference t.id undefined]

def existenceIssues (list : TaskList) (t : Task) : List Issue :=
  let unknown := (declared list.references t).filter (!list.ids.contains ·)
  if unknown.isEmpty then [] else [.invalidDependencyReference t.id unknown]

def issues (t : Task) (scope : Scope) : List Issue :=
  if isDeclared t then
    referenceIssues scope.references t ++
      (if scope.settings.isOn "validate_existence" true then existenceIssues scope.list t
        else []) ++
      cycleIssues scope.list t
  else [.missingDependenciesSection t.id]

def notes (t : Task) (scope : Scope) : List Note :=
  if isDeclared t then
    match cycle? scope.list t with
    | some path => [.cycleFound t.id path]
    | none => []
  else []

end TaskAudit.Check.Dependencies

namespace TaskAudit.Check

def dependencies : Check where
  title := "DependencyValidator"
  rank := 40
  run t scope := .ok (.ofIssues (Dependencies.issues t scope))
  notes := Dependencies.notes

end TaskAudit.Check
