import Mathlib.Data.List.Forall2
import TaskAudit.Audit
import TaskAudit.Proofs.Quiet
import TaskAudit.Proofs.TaskLine

/-!
# Tasks made of rows and sections

Every row of a task table gives one task and so does every section whose id is in no row, whatever
ids occur twice on either side. Of the sections with the id of a row only the first counts, and what
is stated in it goes before what the row says.
-/

namespace TaskAudit.Document

open Text

/-- A value is the stated one, or another where none is stated or nothing is written in it. -/
def Overrides (stated other value : Option String) : Prop :=
  (∀ text, stated = some text → text ≠ "" → value = some text) ∧
    ((∀ text, stated = some text → text = "") → value = other)

/-- A task has the lines and subtasks of a section, the four fields that the section states, and all
else from a row. -/
structure Joins (row : Task) (s : Section) (t : Task) : Prop where
  content : t.content = s.content
  subtasks : t.subtasks = s.subtasks
  description : Overrides s.description (some row.description) (some t.description)
  status : Overrides s.status (some row.status) (some t.status)
  priority : Overrides s.priority row.priority t.priority
  rating : Overrides s.rating row.rating t.rating
  id : t.id = row.id
  code : t.code = row.code
  category : t.category = row.category
  kind : t.kind = row.kind
  line : t.line = row.line
  unmarked : t.parentId = row.parentId ∧ t.marker = row.marker

/-- The first section of a row's id is joined to the row; a row without one stays as it is. -/
def IsRowTask (sections : List Section) (row t : Task) : Prop :=
  (∃ before s after, sections = before ++ s :: after ∧ (∀ b ∈ before, b.id ≠ row.id) ∧
    s.id = row.id ∧ Joins row s t) ∨
  ((∀ s ∈ sections, s.id ≠ row.id) ∧ t = row)

/-- The task of a section without a row. -/
structure IsSectionTask (policy : Policy) (s : Section) (t : Task) : Prop where
  id : t.id = s.id
  content : t.content = s.content
  subtasks : t.subtasks = s.subtasks
  description : Overrides s.description (some s.title) (some t.description)
  status : Overrides s.status (some Task.plannedStatus) (some t.status)
  priority : Overrides s.priority (some "Medium") t.priority
  rating : t.rating = s.rating
  code : t.code = TaskId.code? s.id
  category : t.category = TaskId.category? policy s.id none
  kind : t.kind = .main
  line : t.line = s.start
  unmarked : t.parentId = none ∧ t.marker = none

/-- A table row or the heading of a section says that there is a task with an id. -/
def NamesTask (lines : List String) (id : String) : Prop :=
  (∃ n, IsTaskRow lines n id) ∨ ∃ line ∈ lines, IsTaskHeading line id

/-! ### Fields -/

theorem overrides_orElse (stated other : Option String) :
    Overrides stated other (stated? stated <|> other) := by
  constructor
  · rintro text rfl htext
    simp [stated?, htext]
  · intro hempty
    cases stated with
    | none => rfl
    | some text =>
        obtain rfl := hempty text rfl
        rfl

theorem overrides_getD (stated : Option String) (other : String) :
    Overrides stated (some other) (some ((stated? stated).getD other)) := by
  have hvalue : some ((stated? stated).getD other) = (stated? stated <|> some other) := by
    cases stated? stated <;> rfl
  rw [hvalue]
  exact overrides_orElse stated (some other)

/-! ### The tasks of rows and of sections -/

theorem joins_mergeRow (row : Task) (s : Section) : Joins row s (mergeRow row s) where
  content := rfl
  subtasks := rfl
  description := overrides_getD _ _
  status := overrides_getD _ _
  priority := overrides_orElse _ _
  rating := overrides_orElse _ _
  id := rfl
  code := rfl
  category := rfl
  kind := rfl
  line := rfl
  unmarked := ⟨rfl, rfl⟩

theorem isSectionTask_standalone (policy : Policy) (s : Section) :
    IsSectionTask policy s (standalone policy s) where
  id := rfl
  content := rfl
  subtasks := rfl
  description := overrides_getD _ _
  status := overrides_getD _ _
  priority := overrides_getD _ _
  rating := rfl
  code := rfl
  category := rfl
  kind := rfl
  line := rfl
  unmarked := ⟨rfl, rfl⟩

theorem isRowTask_of_find? (sections : List Section) (row : Task) :
    IsRowTask sections row
      (match sections.find? (·.id = row.id) with
      | some s => mergeRow row s
      | none => row) := by
  cases hfind : sections.find? (·.id = row.id) with
  | none =>
      refine Or.inr ⟨fun s hs => ?_, rfl⟩
      simpa using List.find?_eq_none.1 hfind s hs
  | some s =>
      obtain ⟨hid, before, after, hsections, hbefore⟩ := List.find?_eq_some_iff_append.1 hfind
      refine Or.inl ⟨before, s, after, hsections, fun b hb => ?_, by simpa using hid,
        joins_mergeRow row s⟩
      simpa using hbefore b hb

theorem merge_nil (policy : Policy) (rows : List Task) : merge policy rows [] = rows := by
  simp [merge]

theorem exists_merge_eq (policy : Policy) (rows : List Task) (sections : List Section) :
    ∃ joined alone, merge policy rows sections = joined ++ alone ∧
      List.Forall₂ (IsRowTask sections) rows joined ∧
      List.Forall₂ (IsSectionTask policy)
        (sections.filter fun s => s.id ∉ rows.map (·.id)) alone := by
  refine ⟨_, _, rfl, ?_, ?_⟩
  · rw [List.forall₂_map_right_iff, List.forall₂_same]
    exact fun row _ => isRowTask_of_find? sections row
  · have hfilter : (sections.filter fun s => !rows.any (·.id = s.id)) =
        sections.filter fun s => s.id ∉ rows.map (·.id) := by
      refine List.filter_congr fun s _ => ?_
      rw [Bool.eq_iff_iff]
      simp
    rw [← hfilter, List.forall₂_map_right_iff, List.forall₂_same]
    exact fun s _ => isSectionTask_standalone policy s

/-! ### The ids of a document -/

theorem IsRowTask.id_eq {sections : List Section} {row t : Task} (h : IsRowTask sections row t) :
    t.id = row.id := by
  rcases h with ⟨_, _, _, _, _, _, hjoins⟩ | ⟨_, rfl⟩
  · exact hjoins.id
  · rfl

theorem map_id_eq_of_forall₂ {α : Type} {R : α → Task → Prop} {name : α → String}
    (hR : ∀ a t, R a t → t.id = name a) {as : List α} {ts : List Task}
    (h : List.Forall₂ R as ts) : ts.map (·.id) = as.map name := by
  induction h with
  | nil => rfl
  | cons hhead _ ih => rw [List.map_cons, List.map_cons, hR _ _ hhead, ih]

theorem map_id_merge (policy : Policy) (rows : List Task) (sections : List Section) :
    (merge policy rows sections).map (·.id) = rows.map (·.id) ++
      (sections.filter fun s => s.id ∉ rows.map (·.id)).map (·.id) := by
  obtain ⟨joined, alone, hmerge, hrows, hsections⟩ := exists_merge_eq policy rows sections
  rw [hmerge, List.map_append, map_id_eq_of_forall₂ (fun _ _ h => h.id_eq) hrows,
    map_id_eq_of_forall₂ (fun _ _ h => h.id) hsections]

theorem mem_ids_merge_iff {policy : Policy} {rows : List Task} {sections : List Section}
    {id : String} : id ∈ (merge policy rows sections).map (·.id) ↔
      (∃ row ∈ rows, row.id = id) ∨ ∃ s ∈ sections, s.id = id := by
  simp only [map_id_merge, List.mem_append, List.mem_map, List.mem_filter, decide_eq_true_eq]
  constructor
  · rintro (hrow | ⟨s, ⟨hs, -⟩, hid⟩)
    · exact Or.inl hrow
    · exact Or.inr ⟨s, hs, hid⟩
  · rintro (hrow | ⟨s, hs, rfl⟩)
    · exact Or.inl hrow
    · by_cases hrow : ∃ row ∈ rows, row.id = s.id
      · exact Or.inl hrow
      · exact Or.inr ⟨s, ⟨hs, hrow⟩, rfl⟩

theorem mem_ids_tasks_iff (policy : Policy) {lines : List String} {id : String} :
    id ∈ (tasks policy lines).map (·.id) ↔ NamesTask lines id := by
  have hrow : (∃ row ∈ rowTasks policy lines, row.id = id) ↔ ∃ n, IsTaskRow lines n id := by
    constructor
    · rintro ⟨row, hrow, hid⟩
      obtain ⟨n, hn⟩ := exists_line_of_mem_rowTasks hrow
      exact ⟨n, (exists_mem_rowTasks_iff policy).1 ⟨row, hrow, hn, hid⟩⟩
    · rintro ⟨n, hn⟩
      obtain ⟨row, hrow, -, hid⟩ := (exists_mem_rowTasks_iff policy).2 hn
      exact ⟨row, hrow, hid⟩
  have hsection : (∃ s ∈ sections policy lines, s.id = id) ↔
      ∃ line ∈ lines, IsTaskHeading line id := by
    constructor
    · rintro ⟨s, hs, hid⟩
      obtain ⟨line, hline, hheading⟩ := (exists_mem_sections_iff policy).1 ⟨s, hs, rfl, hid⟩
      exact ⟨line, List.mem_of_getElem? hline, hheading⟩
    · rintro ⟨line, hline, hheading⟩
      obtain ⟨n, hn⟩ := List.mem_iff_getElem?.1 hline
      obtain ⟨s, hs, -, hid⟩ := (exists_mem_sections_iff policy).2 ⟨line, hn, hheading⟩
      exact ⟨s, hs, hid⟩
  rw [tasks, mem_ids_merge_iff, hrow, hsection, NamesTask]

end TaskAudit.Document

namespace TaskAudit.Audit

open Document

theorem read_eq_ok_iff {policy : Policy} {text : String} {path : Option String} {l : TaskList} :
    read policy text path = .ok l ↔ TaskList.ofText? policy text path = some l := by
  rw [read]
  cases TaskList.ofText? policy text path with
  | none => simp
  | some found => simp

theorem read_eq_error_iff {policy : Policy} {text : String} {path : Option String} :
    read policy text path = .error .noTasks ↔ tasks policy (Text.lines text) = [] := by
  rw [read, TaskList.ofText?]
  by_cases h : tasks policy (Text.lines text) = []
  · simp [h]
  · simp [h]

/-- **Nothing is lost or invented.** Rows and sections become tasks one for one, and a document has
a task of an id where a row or a heading names it. -/
theorem merge_rows_sections (policy : Policy) :
    (∀ rows sections, ∃ joined alone, merge policy rows sections = joined ++ alone ∧
      List.Forall₂ (IsRowTask sections) rows joined ∧
      List.Forall₂ (IsSectionTask policy)
        (sections.filter fun s => s.id ∉ rows.map (·.id)) alone) ∧
    ∀ text path,
      (∀ l, read policy text path = .ok l →
        ∀ id, id ∈ l.tasks.map (·.id) ↔ NamesTask (Text.lines text) id) ∧
      (read policy text path = .error .noTasks ↔ ∀ id, ¬ NamesTask (Text.lines text) id) := by
  refine ⟨exists_merge_eq policy, fun text path => ⟨fun l hl id => ?_, ?_⟩⟩
  · rw [(lines_tasks_of_ofText? (read_eq_ok_iff.1 hl)).2, mem_ids_tasks_iff]
  · simp only [read_eq_error_iff, ← mem_ids_tasks_iff policy]
    rw [← List.map_eq_nil_iff (f := (·.id)), List.eq_nil_iff_forall_not_mem]

/-- The lines of a document with a row of one id and a section of another. -/
def rowAndSection : List String :=
  ["## Current Tasks", "| ID | Work |", "|----|------|", "| AB0001 | Plan |", "",
    "### AB0002: Build"]

theorem exists_read_rowAndSection : ∃ l,
    read .standard ("\n".intercalate (rowAndSection ++ [""])) none = .ok l ∧
      l.tasks.map (·.id) = ["AB0001", "AB0002"] ∧
      ∀ id, id ∈ l.tasks.map (·.id) ↔
        NamesTask (Text.lines ("\n".intercalate (rowAndSection ++ [""]))) id := by
  have hbreaks : ∀ line ∈ rowAndSection, Text.IsUnbroken line := by decide +kernel
  have hids : (tasks .standard rowAndSection).map (·.id) = ["AB0001", "AB0002"] := by
    decide +kernel
  have hsome : tasks .standard rowAndSection ≠ [] := fun hnone => by simp [hnone] at hids
  have hread := read_eq_ok_iff.2 (ofText?_intercalate none hbreaks hsome)
  exact ⟨_, hread, hids, ((merge_rows_sections .standard).2 _ none).1 _ hread⟩

end TaskAudit.Audit
