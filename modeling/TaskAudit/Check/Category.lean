import TaskAudit.Check.Sections
import TaskAudit.Task.Id

/-!
# Category

The number in an id falls into the range of a category, and a main task has the sections of that
category. A subtask whose id holds no number has its parent's category.
-/

namespace TaskAudit.Check.Category

open Content

def issues (t : Task) (scope : Scope) : List Issue :=
  let policy := scope.policy
  match TaskId.number? t.id with
  | none =>
    if t.isSubtask && t.category.any (!·.isEmpty) then []
    else [.invalidIdForCategorization t.id]
  | some number =>
    match policy.categoryOf? number with
    | none => [.invalidCategoryRange t.id number policy.categoryRanges]
    | some category =>
      if (policy.enforceCategorySections || scope.settings.isOn "enforce_categories") &&
          t.isMain then
        Sections.categoryIssues policy (expanded scope.references t.ownLines) t category
      else []

end TaskAudit.Check.Category

namespace TaskAudit.Check

def category : Check where
  title := "CategoryValidator"
  rank := 35
  run t scope := .ok (.ofIssues (Category.issues t scope))

end TaskAudit.Check
