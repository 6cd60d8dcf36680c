import Mathlib.Algebra.GroupWithZero.Nat
import TaskAudit.Proofs.Consistency
import TaskAudit.Proofs.Extent
import TaskAudit.Proofs.MarkedId

/-!
# What reading makes of the fields of tasks

Tasks are made at four places: at a row, at a heading without a row, at a numbered marker and at a
checkbox. Whatever the text, the fields of each agree with one another: the code and the category
with the id, the parent with the id of a numbered subtask, the status of a checkbox with its box.
The counts of a task list that was read add up.
-/

namespace TaskAudit

open Text

/-! ### Fields in which something is written -/

theorem Text.isBlankString_trimmed {s : String} (h : isBlankString s = false) :
    isBlankString (trimmed s) = false := by
  rw [← Bool.not_eq_true, isBlankString, ← trim_eq_nil_iff] at h ⊢
  rwa [trimmed, String.toList_ofList, trim_trim]

namespace Document

theorem isBlankString_of_nonBlank? {text value : String} (h : nonBlank? text = some value) :
    isBlankString value = false := by
  rw [nonBlank?, Option.ite_none_left_eq_some] at h
  obtain ⟨htext, rfl⟩ := h.imp_right Option.some.inj
  exact isBlankString_trimmed (Bool.not_eq_true _ ▸ htext)

theorem isBlankString_of_filledField? {label value : String} {lines : List String}
    (h : filledField? label lines = some value) : isBlankString value = false := by
  obtain ⟨text, -, htext⟩ := Option.bind_eq_some_iff.1 h
  exact isBlankString_of_nonBlank? htext

theorem isBlankString_getD {value : Option String} {otherwise : String}
    (h : ∀ given, value = some given → isBlankString given = false)
    (hotherwise : isBlankString otherwise = false) :
    isBlankString (value.getD otherwise) = false := by
  cases value with
  | none => exact hotherwise
  | some given => exact h given rfl

/-! ### Main tasks -/

section Main

variable {policy : Policy} {lines : List String} {t : Task}

/-- The fields of a task that stands at a row or at a heading. -/
structure IsMainEntry (policy : Policy) (t : Task) : Prop where
  kind : t.kind = .main
  id_ne : t.id ≠ ""
  notNumbered : TaskId.isNumbered t.id = false
  status : isBlankString t.status = false
  parentId : t.parentId = none
  marker : t.marker = none
  code : t.code = TaskId.code? t.id
  category : t.category = TaskId.category? policy t.id none

theorem isMainEntry_of_mem_rowTasks (h : t ∈ rowTasks policy lines) : IsMainEntry policy t := by
  obtain ⟨table, row, rfl, hrow, hnumbered⟩ := mem_rowTasks_iff.1 h
  obtain ⟨-, line, -, hread⟩ := mem_tableRows_iff.1 hrow
  obtain ⟨-, -, hid, -⟩ := row?_eq_some_iff.1 hread
  refine ⟨rfl, hid, hnumbered, ?_, rfl, rfl, rfl, rfl⟩
  cases table with
  | completed =>
      have hcompleted : isBlankString Task.completedStatus = false := by decide +kernel
      exact hcompleted
  | current =>
      refine isBlankString_getD (fun given hgiven => ?_) (by decide +kernel)
      obtain ⟨cell, -, hcell⟩ := Option.bind_eq_some_iff.1 hgiven
      exact isBlankString_of_nonBlank? hcell

theorem isBlankString_of_stated?_status {s : Section} (h : s ∈ sections policy lines)
    {given : String} (hgiven : stated? s.status = some given) : isBlankString given = false := by
  obtain ⟨heading, id, title, body, hs⟩ := exists_sectionOf_of_mem_sectionsFrom h
  rw [hs] at hgiven
  simp only [sectionOf, stated?_filledField?] at hgiven
  exact isBlankString_of_filledField? hgiven

theorem isMainEntry_of_mem_tasks (h : t ∈ tasks policy lines) : IsMainEntry policy t := by
  rcases cases_of_mem_tasks h with hrow | ⟨row, hrow, s, hs, -, rfl⟩ | ⟨s, hs, -, rfl⟩
  · exact isMainEntry_of_mem_rowTasks hrow
  · -- A merge leaves the id and what depends on it.
    have hmain := isMainEntry_of_mem_rowTasks hrow
    exact { hmain with
      status := isBlankString_getD (fun _ => isBlankString_of_stated?_status hs) hmain.status }
  · obtain ⟨line, -, hheading⟩ := (exists_mem_sections_iff policy).1 ⟨s, hs, rfl, rfl⟩
    exact ⟨rfl, TaskId.ne_empty_of_isTaskHeading hheading,
      TaskId.isNumbered_eq_false_of_isTaskHeading hheading,
      isBlankString_getD (fun _ => isBlankString_of_stated?_status hs) (by decide +kernel),
      rfl, rfl, rfl, rfl⟩

end Main

/-! ### Subtasks -/

/-- A line that is a checkbox, with a box that is ticked or not. -/
def IsCheckbox (line : String) (ticked : Bool) : Prop :=
  ∃ box rest, line.toList = "- [".toList ++ box :: ']' :: rest ∧
    if ticked then box = 'x' ∨ box = 'X' else box = ' '

/-- The fields of a subtask that stands at a numbered marker: without an id there it has no parent,
and otherwise its id is that of its parent, a dash and a number. -/
structure IsNumberedEntry (u : Task) : Prop where
  marker : u.marker = some .numbered
  parent : (u.id = Task.unreadableId ∧ u.parentId = none) ∨
    ∃ parent, TaskId.IsPart u.id parent ∧ u.parentId = some parent

/-- The fields of a subtask that stands at a checkbox, of which it has the status. -/
structure IsCheckboxEntry (lines : List String) (u : Task) : Prop where
  marker : u.marker = some .checkbox
  content : u.content = []
  rating : u.rating = none
  parentId : u.parentId = none
  status : ∃ (n : Nat) (line : String) (ticked : Bool), u.line = n ∧ lines[n]? = some line ∧
    IsCheckbox line ticked ∧
    u.status = if ticked then Task.completedStatus else Task.plannedStatus

/-- The fields of a subtask below a task of a category. -/
structure IsSubtaskEntry (policy : Policy) (lines : List String) (parentCategory : Option String)
    (u : Task) : Prop where
  kind : u.kind = .subtask
  subtasks : u.subtasks = []
  priority : u.priority = none
  code : u.code = TaskId.code? u.id
  category : u.category = TaskId.category? policy u.id parentCategory
  marked : IsNumberedEntry u ∨ IsCheckboxEntry lines u

section Subtasks

variable {policy : Policy} {lines : List String}

theorem isCheckbox_of_afterBox? {line : String} {ticked : Bool} {rest : List Char}
    (h : afterBox? line.toList = some (ticked, rest)) : IsCheckbox line ticked := by
  simp only [afterBox?, Option.bind_eq_bind, Option.bind_eq_some_iff, after?_eq_some_iff] at h
  obtain ⟨tail, hline, hbox⟩ := h
  split at hbox
  · next box rest' =>
    refine ⟨box, rest', hline, ?_⟩
    split at hbox
    · next hempty =>
      obtain ⟨rfl, -⟩ := Prod.mk.inj (Option.some.inj hbox)
      exact hempty
    · rw [Option.ite_none_right_eq_some] at hbox
      obtain ⟨hticked, hbox⟩ := hbox
      obtain ⟨rfl, -⟩ := Prod.mk.inj (Option.some.inj hbox)
      simpa using hticked
  · simp at hbox

theorem exists_afterBox?_of_marker? {line : String} (h : marker? line = some .checkbox) :
    ∃ ticked rest, afterBox? line.toList = some (ticked, rest) := by
  rw [marker?] at h
  split at h
  · simp at h
  · rw [Option.ite_none_right_eq_some, Option.isSome_iff_exists] at h
    obtain ⟨⟨⟨ticked, rest⟩, hbox⟩, -⟩ := h
    exact ⟨ticked, rest, hbox⟩

/-- A marker without an id has no code. -/
theorem bind_code?_eq (id : Option String) :
    id.bind TaskId.code? = TaskId.code? (id.getD Task.unreadableId) := by
  cases id with
  | none => decide +kernel
  | some id => rfl

/-- A marker without an id has the category of the task above it. -/
theorem category?_eq (policy : Policy) (parentCategory : Option String) (id : Option String) :
    (match id with
      | some id => TaskId.category? policy id parentCategory
      | none => parentCategory) =
      TaskId.category? policy (id.getD Task.unreadableId) parentCategory := by
  cases id with
  | none =>
      have hnumber : TaskId.number? Task.unreadableId = none := by decide +kernel
      simp [TaskId.category?, hnumber]
  | some id => rfl

theorem isNumberedEntry_numberedSubtask (policy : Policy) (parentCategory : Option String)
    (header : String) (body : List String) (n : Int) :
    IsNumberedEntry (numberedSubtask policy parentCategory header body n) := by
  refine ⟨rfl, ?_⟩
  simp only [numberedSubtask]
  cases hid : firstFound? parenthesized? header.toList with
  | none => exact Or.inl ⟨rfl, rfl⟩
  | some id =>
      obtain ⟨place, -, ⟨rest, hread⟩, -⟩ := firstFound?_eq_some_iff.1 hid
      obtain ⟨⟨parent, hparent⟩, -⟩ := parenthesized?_eq_some_iff.1 hread
      exact Or.inr ⟨parent, hparent, TaskId.numberedParent?_of_isPart hparent⟩

theorem isCheckboxEntry_checkboxSubtask (policy : Policy) (parentCategory : Option String)
    {line : String} {n : Nat} (hline : lines[n]? = some line)
    (hmarker : marker? line = some .checkbox) :
    IsCheckboxEntry lines (checkboxSubtask policy parentCategory line n) := by
  obtain ⟨ticked, rest, hbox⟩ := exists_afterBox?_of_marker? hmarker
  refine ⟨rfl, rfl, rfl, rfl, n, line, ticked, rfl, hline, isCheckbox_of_afterBox? hbox, ?_⟩
  simp only [checkboxSubtask, hbox]
  cases ticked <;> rfl

theorem content_prefix_of_mem_sections {s : Section} (h : s ∈ sections policy lines) :
    s.content <+: lines.drop s.start := by
  obtain ⟨n, line, id, title, hline, -, rfl⟩ := mem_sectionsFrom_iff.1 h
  obtain ⟨hlt, rfl⟩ := List.getElem?_eq_some_iff.1 hline
  simp only [sectionOf, Nat.zero_add]
  rw [List.drop_eq_getElem_cons hlt, List.cons_prefix_cons]
  exact ⟨rfl, List.takeWhile_prefix _⟩

theorem isSubtaskEntry_of_mem_sections {s : Section} (h : s ∈ sections policy lines) {u : Task}
    (hu : u ∈ s.subtasks) :
    IsSubtaskEntry policy lines (TaskId.category? policy s.id none) u := by
  have hprefix := content_prefix_of_mem_sections h
  obtain ⟨heading, id, title, body, hs⟩ := exists_sectionOf_of_mem_sectionsFrom h
  have hsubtasks : s.subtasks =
      subtasks policy (TaskId.category? policy s.id none) s.start s.content := by rw [hs]; rfl
  rw [hsubtasks] at hu
  obtain ⟨k, line, hline, hread⟩ := exists_line_of_mem_subtasks hu
  have hplace : lines[s.start + k]? = some line := by
    obtain ⟨rest, hrest⟩ := hprefix
    obtain ⟨hlt, -⟩ := List.getElem?_eq_some_iff.1 hline
    rw [← List.getElem?_drop, ← hrest, List.getElem?_append_left hlt, hline]
  rcases hread with ⟨-, rfl⟩ | ⟨hmarker, rfl⟩
  · exact ⟨rfl, rfl, rfl, bind_code?_eq _, category?_eq _ _ _,
      Or.inl (isNumberedEntry_numberedSubtask _ _ _ _ _)⟩
  · refine ⟨rfl, rfl, rfl, bind_code?_eq _, category?_eq _ _ _, Or.inr ?_⟩
    rw [← Int.natCast_add]
    exact isCheckboxEntry_checkboxSubtask _ _ hplace hmarker

theorem isSubtaskEntry_of_mem_tasks {t u : Task} (ht : t ∈ tasks policy lines)
    (hu : u ∈ t.subtasks) : IsSubtaskEntry policy lines t.category u := by
  rcases hasSection_of_mem_tasks ht with ⟨-, hnone⟩ | ⟨s, hs⟩
  · simp [hnone] at hu
  · rw [hs.subtasks] at hu
    rw [(isMainEntry_of_mem_tasks ht).category, hs.id]
    exact isSubtaskEntry_of_mem_sections hs.mem hu

end Subtasks

end Document

/-! ### Counts -/

theorem Catalog.sum_put {name : String} {n : Nat} {entries : List (String × Nat)} :
    ((put name ((get? name entries).getD 0 + n) entries).map Prod.snd).sum =
      (entries.map Prod.snd).sum + n := by
  induction entries with
  | nil => simp [put, get?]
  | cons entry rest ih =>
      by_cases h : entry.1 = name
      · simp only [put, get?, h, if_true, Option.getD_some, List.map_cons, List.sum_cons]
        omega
      · simp only [put, get?, h, if_false, List.map_cons, List.sum_cons, ih]
        omega

/-- Every name is counted once. -/
theorem sum_tally (names : List String) :
    ((tally names).entries.map Prod.snd).sum = names.length := by
  have hfold : ∀ counts : Catalog Nat, ((names.foldl (fun counts name =>
      counts.update name fun count => count.getD 0 + 1) counts).entries.map Prod.snd).sum =
        (counts.entries.map Prod.snd).sum + names.length := by
    induction names with
    | nil => exact fun _ => rfl
    | cons name names ih =>
        intro counts
        rw [List.foldl_cons, ih, List.length_cons]
        have hput : ((counts.update name fun count => count.getD 0 + 1).entries.map Prod.snd).sum =
            (counts.entries.map Prod.snd).sum + 1 := Catalog.sum_put
        omega
  exact (hfold ∅).trans (Nat.zero_add _)

namespace TaskList

variable {policy : Policy} {l : TaskList}

/-- What holds of the fields of a task list that was read. -/
structure IsRead (policy : Policy) (l : TaskList) : Prop where
  main : ∀ t ∈ l.tasks, Document.IsMainEntry policy t
  subtasks : ∀ t ∈ l.tasks, ∀ u ∈ t.subtasks,
    Document.IsSubtaskEntry policy l.lines t.category u
  total : l.stats.total = l.stats.main + l.stats.subtasks
  byStatus : (l.stats.byStatus.entries.map Prod.snd).sum = l.stats.total
  byCategory : (l.stats.byCategory.entries.map Prod.snd).sum = l.stats.main

/-- **What reading makes sure of.** In the task list of any text the main tasks and the subtasks
have fields that agree with their ids, and the counts by kind, status and category add up. -/
theorem isRead_of_text {text : String} {path : Option String}
    (h : TaskList.ofText? policy text path = some l) : l.IsRead policy := by
  obtain ⟨hlines, htasks⟩ := Document.lines_tasks_of_ofText? h
  have hmain : ∀ t ∈ l.tasks, Document.IsMainEntry policy t := by
    rw [htasks]
    exact fun t => Document.isMainEntry_of_mem_tasks
  refine ⟨hmain, ?_, ?_, ?_, ?_⟩
  · rw [htasks, hlines]
    exact fun t ht u => Document.isSubtaskEntry_of_mem_tasks ht
  · have hall : l.mainTasks = l.tasks :=
      List.filter_eq_self.2 fun t ht => by simp [Task.isMain, (hmain t ht).kind]
    simp only [stats, hall]
    exact size_eq l
  · simp only [stats, sum_tally, List.length_map, size]
  · simp only [stats, sum_tally, List.length_map]

theorem isRead_sharedSection :
    TaskList.ofText? .standard ("\n".intercalate (Document.sharedSection ++ [""])) none =
      some Document.sharedSectionList ∧
    Document.sharedSectionList.stats.total = 6 ∧ Document.sharedSectionList.IsRead .standard :=
  ⟨Document.ofText?_sharedSection, by decide +kernel, isRead_of_text Document.ofText?_sharedSection⟩

end TaskList

end TaskAudit
