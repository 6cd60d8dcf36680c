import TaskAudit.Document.Reference
import TaskAudit.Document.Subtask

/-!
# The content of tasks

Looking up sections in the lines of a task. A section is a line that starts with its bold name; it
may stand in the task's own lines or in the block of a reference that those lines use, one level
deep.
-/

namespace TaskAudit

/-- The lines of a subtask, and those of a main task without its subtasks'. -/
def Task.ownLines (t : Task) : List String :=
  if t.isSubtask then t.content else Document.parentLines t.content

namespace Content

open Text Document

/-- Lines, and after them the blocks of the defined references that they use. -/
def expanded (references : References) (lines : List String) : List String :=
  lines ++ (referencesIn lines).flatMap fun name => (references.find? name).getD []

/-- What follows the bold name of a section, if a line starts with it. -/
def afterName? (name : String) (line : String) : Option (List Char) := do
  let rest ← after? (boldMark ++ name.toList) (trimStart line.toList)
  after? boldMark (dropColon rest).2

def hasSection (lines : List String) (name : String) : Bool :=
  lines.any fun line => (afterName? name line).isSome

def missingSections (lines : List String) (names : List String) : List String :=
  names.filter fun name => !hasSection lines name

/-- Whether a text starts with a bold label of any name. -/
def startsLabel (cs : List Char) : Bool :=
  match after? boldMark cs with
  | none => false
  | some rest =>
    rest.takeWhile (· ≠ '*') ≠ [] && (after? boldMark (rest.dropWhile (· ≠ '*'))).isSome

/-- Whether a line ends the block of a section: a blank one, or one with a label. -/
def endsBlock (line : String) : Bool :=
  let cs := trim line.toList
  cs = [] || startsLabel cs

/-- The text on the line of a section's name, if there is any, and the lines up to the end of its
block. -/
def sectionBlock? (name : String) : List String → Option (List String)
  | [] => none
  | line :: rest =>
    match afterName? name line with
    | none => sectionBlock? name rest
    | some tail =>
      let inline := trim (tail.dropWhile (· = ':'))
      some ((if inline = [] then [] else [String.ofList inline]) ++ rest.takeWhile (!endsBlock ·))

/-! ### More lines -/

section Lemmas

variable {lines more names : List String} {name : String}

theorem hasSection_of_mem {line : String} (hline : line ∈ lines)
    (h : (afterName? name line).isSome = true) : hasSection lines name = true :=
  List.any_eq_true.2 ⟨line, hline, h⟩

theorem hasSection_of_subset (hsubset : lines ⊆ more) (h : hasSection lines name = true) :
    hasSection more name = true := by
  obtain ⟨line, hline, hsome⟩ := List.any_eq_true.1 h
  exact hasSection_of_mem (hsubset hline) hsome

theorem missingSections_eq_nil_iff :
    missingSections lines names = [] ↔ ∀ name ∈ names, hasSection lines name = true := by
  simp [missingSections, List.filter_eq_nil_iff]

theorem missingSections_eq_nil (h : ∀ name ∈ names, hasSection lines name = true) :
    missingSections lines names = [] :=
  missingSections_eq_nil_iff.2 h

/-- Filling in references loses no line. -/
theorem subset_expanded (references : References) : lines ⊆ expanded references lines :=
  List.subset_append_left _ _

theorem hasSection_expanded (references : References) (h : hasSection lines name = true) :
    hasSection (expanded references lines) name = true :=
  hasSection_of_subset (subset_expanded references) h

theorem block_subset_expanded {references : References} {block : List String}
    (hname : name ∈ referencesIn lines) (hblock : references.find? name = some block) :
    block ⊆ expanded references lines := by
  intro line hline
  refine List.mem_append_right _ (List.mem_flatMap.2 ⟨name, hname, ?_⟩)
  rwa [hblock, Option.getD_some]

end Lemmas

end Content

end TaskAudit
