import TaskAudit.Document.Subtask

/-!
# Detailed sections

A section starts with a heading of level three that names a task, `### AB0001: Title`, and ends
before the next heading of level one to three.
-/

namespace TaskAudit.Document

open Text

def isBoundary (line : String) : Bool :=
  let marks := line.toList.takeWhile (· = '#')
  1 ≤ marks.length && marks.length ≤ 3 &&
    (line.toList.dropWhile (· = '#')).head?.any isBlank

/-- A capital or a dash, of which the code in a heading is made. -/
def isHeadingCapital (c : Char) : Bool := TaskId.isCapital c || c = '-'

/-- The task id in the heading of a section, and what follows the colon after it. -/
def taskHeading? (line : String) : Option (List Char × List Char) := do
  let rest ← after? ['#', '#', '#', ' '] line.toList
  let code := rest.takeWhile isHeadingCapital
  let rest := rest.dropWhile isHeadingCapital
  let digits := rest.takeWhile isDigit
  if 2 ≤ code.length ∧ code.length ≤ 9 ∧ 3 ≤ digits.length ∧ digits.length ≤ 4 then
    return (code ++ digits, ← after? [':'] (rest.dropWhile isDigit))
  else none

/-- A detailed section; a field that is absent or blank in it is not given. -/
structure Section where
  id : String
  /-- Line of the heading, counted from zero. -/
  start : Nat
  content : List String
  title : String
  description : Option String
  status : Option String
  priority : Option String
  rating : Option String
  subtasks : List Task

/-- A field of a section, unless nothing is written in it. -/
def stated? (field : Option String) : Option String := field.filter (· ≠ "")

theorem ne_empty_of_nonBlank? {text value : String} (h : nonBlank? text = some value) :
    value ≠ "" := by
  rw [nonBlank?, Option.ite_none_left_eq_some] at h
  obtain ⟨hblank, rfl⟩ := h.imp_right Option.some.inj
  intro hempty
  apply hblank
  rw [isBlankString, ← trim_eq_nil_iff, ← String.toList_ofList (l := trim text.toList)]
  exact congrArg String.toList hempty

/-- In a field that is read from lines something is written. -/
@[simp]
theorem stated?_filledField? (label : String) (lines : List String) :
    stated? (filledField? label lines) = filledField? label lines := by
  cases h : filledField? label lines with
  | none => rfl
  | some value =>
    obtain ⟨text, -, htext⟩ := Option.bind_eq_some_iff.1 h
    simp [stated?, ne_empty_of_nonBlank? htext]

/-- The section under a heading, given the lines after it up to the next heading. -/
def sectionOf (policy : Policy) (start : Nat) (heading : String) (id title : List Char)
    (body : List String) : Section :=
  let content := heading :: body
  let own := parentLines content
  let id := String.ofList id
  { id, start, content
    title := String.ofList (trim title)
    description := filledField? "Description" own
    status := filledField? "Status" own
    priority := filledField? "Priority" own
    rating := filledField? "Review Rating" own
    subtasks := subtasks policy (TaskId.category? policy id none) start content }

def sectionsFrom (policy : Policy) (number : Nat) : List String → List Section
  | [] => []
  | line :: rest =>
    let more := sectionsFrom policy (number + 1) rest
    match taskHeading? line with
    | some (id, title) =>
      sectionOf policy number line id title (rest.takeWhile (!isBoundary ·)) :: more
    | none => more

/-- The detailed sections of a document, in order. -/
def sections (policy : Policy) (lines : List String) : List Section := sectionsFrom policy 0 lines

end TaskAudit.Document
