import TaskAudit.Check
import TaskAudit.Check.Content

/-!
# Error handling

A task says how it handles errors, in a section of its own lines or by a reference, and the parts
that such a section needs are all there.
-/

namespace TaskAudit.Check.ErrorHandling

open Text Document Content

def isErrorHandlingName (name : List Char) : Bool :=
  ["error-handling", "def-error-handling", "subtask-error-handling"].any fun start =>
    (after? start.toList name).isSome

def referenceNames (lines : List String) : List String :=
  firstSeen (lines.flatMap fun line =>
    (usedNames isErrorHandlingName line.toList).map String.ofList)

/-- Whether a line starts with a bold label such as `**Worker Specifics**`, of any framework. -/
def startsSpecifics (line : String) : Bool :=
  match after? boldMark (trimStart line.toList) with
  | none => false
  | some rest =>
    let label := rest.takeWhile (· ≠ '*')
    let label := if label.getLast? = some ':' then label.dropLast else label
    let ending := " Specifics".toList
    ending.isSuffixOf label && ending.length < label.length &&
      (after? boldMark (rest.dropWhile (· ≠ '*'))).isSome

def missingMainParts (lines : List String) : List String :=
  (if hasSection lines "Core Principles" || hasSection lines "Task Principles" then []
    else ["Core Principles"]) ++
  missingSections lines ["Error Implementation", "Error Examples"] ++
  (if lines.any startsSpecifics then [] else ["Framework Specifics"])

def missingSubtaskParts (lines : List String) : List String :=
  missingSections lines ["Task-Specific Approach", "Error Reporting"]

def missingParts (t : Task) : List String → List String :=
  if t.isSubtask then missingSubtaskParts else missingMainParts

/-- Whether lines have a section of error handling, or use a defined reference of it. -/
def isDocumented (references : References) (lines : List String) : Bool :=
  hasSection lines "Error Handling" || (referenceNames lines).any references.contains

def incomplete (t : Task) (evidence : List String) : List Issue :=
  let missing := missingParts t evidence
  if missing.isEmpty then [] else [.incompleteErrorHandling t.id missing]

/-- What is wrong with the documentation of a task's error handling, given whether references
count. -/
def documentationIssues (references : References) (acceptReferences : Bool) (t : Task) :
    List Issue :=
  let lines := t.ownLines
  if hasSection lines "Error Handling" then
    incomplete t (if acceptReferences then expanded references lines else lines)
  else
    let names := if acceptReferences then referenceNames lines else []
    let defined := names.filter references.contains
    if defined.isEmpty then [.missingErrorHandling t.id names t.isSubtask]
    else incomplete t (defined.flatMap fun name => (references.find? name).getD [])

def implementationIssues (references : References) (t : Task) : List Issue :=
  if t.isCompleted &&
      !hasSection (expanded references t.ownLines) "Error Handling Implementation" then
    [.missingErrorImplementation t.id]
  else []

def issues (t : Task) (scope : Scope) : List Issue :=
  documentationIssues scope.references (!scope.settings.isOn "require_comprehensive") t ++
    implementationIssues scope.references t

end TaskAudit.Check.ErrorHandling

namespace TaskAudit.Check

/-- Checkboxes have no lines in which to document anything. -/
def errorHandling : Check where
  title := "ErrorHandlingValidator"
  rank := 55
  run t scope :=
    .ok (if t.marker = some .checkbox then .passed [] 0
      else .ofIssues (ErrorHandling.issues t scope))

end TaskAudit.Check
