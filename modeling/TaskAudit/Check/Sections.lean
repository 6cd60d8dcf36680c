import TaskAudit.Check
import TaskAudit.Check.Content

/-!
# Sections

The sections that every task needs, those of a completed one, and those of its category.
-/

namespace TaskAudit.Check.Sections

open Content

/-- The sections of every task, given whether the longer list of a main task is asked for. -/
def required (t : Task) (all : Bool) : List String :=
  if t.isMain then
    ["Description", "Status", "Priority"] ++ (if all then ["Requirements", "Dependencies"] else [])
  else ["Description", "Status"]

def completion : List String :=
  ["Implementation Notes", "Complexity Assessment", "Maintenance Impact",
    "Error Handling Implementation"]

/-- The sections of a category that lines lack, as an issue if there are any. -/
def categoryIssues (policy : Policy) (lines : List String) (t : Task) (category : String) :
    List Issue :=
  let missing := missingSections lines (policy.sectionsOf category)
  if missing.isEmpty then [] else [.missingCategorySections t.id category missing]

def issues (t : Task) (scope : Scope) : List Issue :=
  let lines := expanded scope.references t.ownLines
  let missingCompletion := missingSections lines completion
  (missingSections lines (required t (scope.settings.isOn "enforce_all_sections"))).map
    (Issue.missingSection t.id) ++
  (if t.isCompleted && !missingCompletion.isEmpty then
    [.missingCompletionSections t.id missingCompletion] else []) ++
  (match t.category with
    | some category =>
      if t.isMain && !category.isEmpty && scope.policy.enforceCategorySections then
        categoryIssues scope.policy lines t category
      else []
    | none => [])

end TaskAudit.Check.Sections

namespace TaskAudit.Check

def sections : Check where
  title := "SectionValidator"
  rank := 50
  run t scope := .ok (.ofIssues (Sections.issues t scope))

end TaskAudit.Check
