import TaskAudit.Document.Field
import TaskAudit.Task.Id

/-!
# Subtasks of a section

A numbered subtask, `#### 1. Write it (AB0001-1)`, owns the lines up to the next marker; a checkbox,
`- [x] Write it [AB0001a]` or `- [ ] **AB0001b**: Test it`, owns its line alone. Every other line is
the parent's.
-/

namespace TaskAudit.Document

open Text

/-- What follows `#### ` and the number of a numbered subtask. -/
def afterNumber? (line : List Char) : Option (List Char) := do
  let rest ← after? ['#', '#', '#', '#', ' '] line
  if rest.takeWhile isDigit = [] then none else after? ['.'] (rest.dropWhile isDigit)

/-- Whether the box of a checkbox is ticked, and what follows it. -/
def afterBox? (line : List Char) : Option (Bool × List Char) := do
  match ← after? ['-', ' ', '['] line with
  | box :: ']' :: rest =>
    if box = ' ' then some (false, rest)
    else if box = 'x' || box = 'X' then some (true, rest)
    else none
  | _ => none

def marker? (line : String) : Option Marker :=
  if (afterNumber? line.toList).isSome then some .numbered
  else if (afterBox? line.toList).isSome then some .checkbox
  else none

/-- The lines that belong to the parent, given whether the line before them is a numbered
subtask's. -/
def parentLinesAfter (inNumbered : Bool) : List String → List String
  | [] => []
  | line :: rest =>
    match marker? line with
    | some .numbered => parentLinesAfter true rest
    | some .checkbox => parentLinesAfter false rest
    | none => if inNumbered then parentLinesAfter true rest else line :: parentLinesAfter false rest

def parentLines (content : List String) : List String := parentLinesAfter false content

/-! ### Ids in markers -/

/-- A task number's id at the start of a text, with the rest: no dash before the digits. -/
def plainId? (cs : List Char) : Option (List Char × List Char) :=
  (TaskId.head? cs).bind fun h => if h.hasNumber ∧ ¬ h.dashed then some (h.id, h.rest) else none

/-- The id of a numbered subtask in parentheses at the start of a text, with the rest. -/
def parenthesized? (cs : List Char) : Option (List Char × List Char) := do
  let (parent, rest) ← plainId? (← after? ['('] cs)
  let rest ← after? ['-'] rest
  let digits := rest.takeWhile isDigit
  if digits = [] then none
  else return (parent ++ '-' :: digits, ← after? [')'] (rest.dropWhile isDigit))

/-- The id of a checkbox at the start of a text, with its small letter if it has one, and the
rest. -/
def checkboxId? (cs : List Char) : Option (List Char × List Char) := do
  let (id, rest) ← plainId? cs
  match rest with
  | c :: tail => if TaskId.isSmall c then some (id ++ [c], tail) else some (id, rest)
  | [] => some (id, [])

/-- The id of a checkbox in brackets at the start of a text, with the rest. -/
def bracketed? (cs : List Char) : Option (List Char × List Char) := do
  let (id, rest) ← checkboxId? (← after? ['['] cs)
  return (id, ← after? [']'] rest)

/-- The id of a checkbox in bold at the start of a text, with the rest. -/
def bold? (cs : List Char) : Option (List Char × List Char) := do
  let (id, rest) ← checkboxId? (← after? boldMark cs)
  return (id, ← after? boldMark rest)

theorem length_rest_checkboxId? {cs id rest : List Char} (h : checkboxId? cs = some (id, rest)) :
    rest.length ≤ cs.length := by
  simp only [checkboxId?, plainId?, Option.bind_eq_bind, Option.bind_eq_some_iff,
    Option.ite_none_right_eq_some] at h
  obtain ⟨⟨parent, tail⟩, ⟨head, hhead, _, htail⟩, h⟩ := h
  have hlen := TaskId.length_rest_head? hhead
  simp only [Option.some.injEq, Prod.mk.injEq] at htail
  obtain ⟨rfl, rfl⟩ := htail
  simp only at h
  split at h
  · next heq =>
    rw [heq, List.length_cons] at hlen
    split at h
    · obtain ⟨_, rfl⟩ := Prod.mk.inj (Option.some.inj h)
      omega
    · obtain ⟨_, rfl⟩ := Prod.mk.inj (Option.some.inj h)
      rw [heq, List.length_cons]
      exact hlen
  · obtain ⟨_, rfl⟩ := Prod.mk.inj (Option.some.inj h)
    exact Nat.zero_le _

theorem length_rest_bold? {cs id rest : List Char} (h : bold? cs = some (id, rest)) :
    rest.length < cs.length := by
  simp only [bold?, Option.bind_eq_bind, Option.bind_eq_some_iff] at h
  obtain ⟨inner, hinner, ⟨found, tail⟩, htail, last, hlast, h⟩ := h
  simp only [Option.pure_def, Option.some.injEq, Prod.mk.injEq] at h
  have h₁ := length_of_after? hinner
  have h₂ := length_rest_checkboxId? htail
  have h₃ := length_of_after? hlast
  simp only [boldMark, List.length_cons, List.length_nil] at h₁ h₃
  rw [← h.2]
  omega

/-- What the first place in a text yields at which a reading succeeds. -/
def firstFound? (read? : List Char → Option (List Char × List Char)) :
    List Char → Option (List Char)
  | [] => none
  | c :: rest =>
    match read? (c :: rest) with
    | some (found, _) => some found
    | none => firstFound? read? rest

/-- The text before what a reading takes up to the very end, and what it yields there. -/
def endFound? (read? : List Char → Option (List Char × List Char)) :
    List Char → Option (List Char × List Char)
  | [] => none
  | c :: rest =>
    match read? (c :: rest) with
    | some (found, []) => some ([], found)
    | _ => (endFound? read? rest).map fun (before, found) => (c :: before, found)

/-! ### Numbered subtasks -/

/-- The description in the header of a numbered subtask, up to the id at its end. Where nothing is
left of the header, or a line feed is in it, the whole of it is the description. -/
def numberedDescription (header : String) : List Char :=
  let line := trimEnd header.toList
  match (afterNumber? line).map trimStart with
  | none => trim line
  | some text =>
    let shown :=
      match endFound? parenthesized? text with
      | some (before, _) => if trimEnd before = [] then text else trimEnd before
      | none => text
    if shown = [] ∨ '\n' ∈ shown then trim line else trim shown

def numberedSubtask (policy : Policy) (parentCategory : Option String) (header : String)
    (body : List String) (line : Int) : Task :=
  let id := (firstFound? parenthesized? header.toList).map String.ofList
  let description := String.ofList (numberedDescription header)
  { id := id.getD Task.unreadableId
    description :=
      if description.isEmpty then (filledField? "Description" body).getD "" else description
    status := (filledField? "Status" body).getD Task.plannedStatus
    priority := none
    content := body
    subtasks := []
    line
    kind := .subtask
    code := id.bind TaskId.code?
    category :=
      match id with
      | some id => TaskId.category? policy id parentCategory
      | none => parentCategory
    parentId := id.bind TaskId.numberedParent?
    rating := filledField? "Review Rating" body
    marker := some .numbered
    origin := .marker line }

/-! ### Checkboxes -/

def afterLabel (cs : List Char) : List Char := trimStart (dropColon cs).2

theorem length_afterLabel_le (cs : List Char) : (afterLabel cs).length ≤ cs.length := by
  have h (l : List Char) : (l.dropWhile isBlank).length ≤ l.length :=
    (List.dropWhile_suffix isBlank).length_le
  cases cs with
  | nil => simp [afterLabel, dropColon, trimStart]
  | cons c rest =>
    by_cases hc : c = ':'
    · subst hc
      exact Nat.le_succ_of_le (h rest)
    · rw [afterLabel, dropColon]
      · exact h (c :: rest)
      · rintro _ heq
        exact hc (List.cons.inj heq).1

/-- A text without the bold ids in it, each with the colon and the blanks after it. -/
def dropBoldIds (cs : List Char) : List Char :=
  match cs with
  | [] => []
  | c :: rest =>
    match _h : bold? (c :: rest) with
    | some (_, tail) => dropBoldIds (afterLabel tail)
    | none => c :: dropBoldIds rest
termination_by cs.length
decreasing_by
  · exact Nat.lt_of_le_of_lt (length_afterLabel_le tail) (length_rest_bold? (by assumption))
  · exact Nat.lt_succ_self _

def checkboxDescription (line : String) : List Char :=
  let line := trimEnd line.toList
  let text :=
    match afterBox? line with
    | some (_, text) => trimStart text
    | none => line
  let text :=
    match endFound? bracketed? text with
    | some (before, _) => trimEnd before
    | none => text
  trim (dropBoldIds text)

/-- The id of a checkbox: in brackets at the end of the line, or else the first one in bold. -/
def checkboxIdOf? (line : String) : Option (List Char) :=
  let line := trimEnd line.toList
  match endFound? bracketed? line with
  | some (_, id) => some id
  | none => firstFound? bold? line

def checkboxSubtask (policy : Policy) (parentCategory : Option String) (text : String)
    (line : Int) : Task :=
  let id := (checkboxIdOf? text).map String.ofList
  { id := id.getD Task.unreadableId
    description := String.ofList (checkboxDescription text)
    status :=
      match afterBox? text.toList with
      | some (true, _) => Task.completedStatus
      | _ => Task.plannedStatus
    priority := none
    content := []
    subtasks := []
    line
    kind := .subtask
    code := id.bind TaskId.code?
    category :=
      match id with
      | some id => TaskId.category? policy id parentCategory
      | none => parentCategory
    parentId := none
    rating := none
    marker := some .checkbox
    origin := .marker line }

/-- The subtasks of a section, in order; the first of the given lines has the given number. -/
def subtasks (policy : Policy) (parentCategory : Option String) (number : Int) :
    List String → List Task
  | [] => []
  | line :: rest =>
    let more := subtasks policy parentCategory (number + 1) rest
    match marker? line with
    | some .numbered =>
      let block := rest.takeWhile fun l => (marker? l).isNone
      numberedSubtask policy parentCategory line block number :: more
    | some .checkbox => checkboxSubtask policy parentCategory line number :: more
    | none => more

end TaskAudit.Document
