import Mathlib.Data.List.Forall2
import TaskAudit.Proofs.MarkedId
import TaskAudit.Proofs.Merge
import TaskAudit.Proofs.Row

/-!
# Task tables that are written and read

A document of a table of current tasks and one of completed tasks gives one task for each row, in
their order, with what is written in the cells of the row and the line that it stands on. An empty
cell gives nothing, and a completed task has its status from the table.
-/

namespace TaskAudit

/-- The row below the heading of a table. -/
def TaskTable.columns : TaskTable → String
  | .current => "| ID | Description | Status | Priority |"
  | .completed => "| ID | Description | Status | Priority | Review Rating |"

namespace Document

open Text TaskId
open Template (Entry)

/-! ### Rows -/

/-- The cells of a row of current tasks. -/
structure RowText where
  id : String
  description : String
  status : String
  priority : String

/-- The cells of a row of completed tasks. -/
structure RatedRowText extends RowText where
  rating : String

def RowText.cells (r : RowText) : List String := [r.id, r.description, r.status, r.priority]

def RatedRowText.cells (r : RatedRowText) : List String := r.toRowText.cells ++ [r.rating]

/-- A text that can stand in a cell of a document. -/
structure IsCellText (s : String) : Prop extends IsPhrase s where
  noBar : '|' ∉ s.toList

structure RowText.IsReadable (r : RowText) : Prop where
  id : IsPlain r.id.toList
  cells : ∀ s ∈ r.cells, IsCellText s

structure RatedRowText.IsReadable (r : RatedRowText) : Prop extends r.toRowText.IsReadable where
  rating : IsCellText r.rating

def RowText.toRow (r : RowText) (more : List String) (line : Nat) : Row :=
  ⟨line, r.id, r.description, r.cells ++ more⟩

/-- What is read of a row of either table. -/
structure RowText.IsRead (r : RowText) (line : Nat) (t : Task) : Prop where
  kind : t.kind = .main
  content : t.content = []
  subtasks : t.subtasks = []
  id : t.id = r.id
  line : t.line = line
  priority : t.priority = if r.priority = "" then none else some r.priority
  description : t.description = r.description

structure RowText.IsReadAsCurrent (r : RowText) (line : Nat) (t : Task) : Prop
    extends r.IsRead line t where
  rating : t.rating = none
  status : t.status = if r.status = "" then "Planned" else r.status

structure RatedRowText.IsReadAsCompleted (r : RatedRowText) (line : Nat) (t : Task) : Prop
    extends r.toRowText.IsRead line t where
  rating : t.rating = if r.rating = "" ∨ r.rating = "-" then none else some r.rating
  status : t.status = "Completed"

theorem IsCellText.isCell {s : String} (h : IsCellText s) : Entry.IsCell s := ⟨h.noBar, h.trimmed⟩

theorem isCellText_of_mem_cells {r : RatedRowText} (h : r.IsReadable) :
    ∀ s ∈ r.cells, IsCellText s := by
  rw [RatedRowText.cells, List.forall_mem_append, List.forall_mem_singleton]
  exact ⟨h.toIsReadable.cells, h.rating⟩

section Rows

variable {r : RowText} (h : r.IsReadable)

include h

theorem isNumbered_id : isNumbered r.id = false := by
  have hdash : '-' ∉ r.id.toList := h.id.not_mem (by decide) (by decide)
  apply isNumbered_eq_false
  refine List.pairwise_of_forall_mem_list fun _ _ b hb _ => ?_
  rintro rfl
  exact hdash hb

theorem row?_cells {more : List String} (hmore : ∀ s ∈ more, IsCellText s) (line : Nat) :
    row? (Entry.row (r.cells ++ more)) line = some (r.toRow more line) := by
  have hcapital : ∃ c ∈ r.id.toList, isCapital c = true := by
    obtain ⟨code, digits, hid, hcode, hleast, -⟩ := h.id
    obtain ⟨c, hc⟩ := List.exists_mem_of_length_pos (Nat.lt_of_lt_of_le Nat.two_pos hleast)
    exact ⟨c, hid ▸ List.mem_append_left _ hc, hcode c hc⟩
  have hcells : ∀ s ∈ r.cells ++ more, Entry.IsCell s := by
    intro s hs
    rcases List.mem_append.1 hs with hs | hs
    · exact (h.cells s hs).isCell
    · exact (hmore s hs).isCell
  exact Entry.row?_row hcells hcapital line

theorem isRead_rowTask {policy : Policy} {table : TaskTable} {column : Option Nat}
    {more : List String} {line : Nat} :
    r.IsRead line (rowTask policy table column (r.toRow more line)) where
  kind := rfl
  content := rfl
  subtasks := rfl
  id := rfl
  line := rfl
  priority := nonBlank?_of_isPhrase (h.cells r.priority (by simp [RowText.cells])).toIsPhrase
  description := rfl

end Rows

/-! ### Tables -/

def tableLines (table : TaskTable) (separator : String) (rows : List (List String)) :
    List String :=
  table.heading :: table.columns :: separator :: rows.map Entry.row

/-- The tasks of a table whose rows are read one by one. -/
theorem tableTasks_append {α : Type} {rows : List α} {cells : α → List String}
    {toRow : α → Nat → Row} {table : TaskTable} {before after : List String}
    (hread : ∀ r ∈ rows, ∀ line, row? (Entry.row (cells r)) line = some (toRow r line))
    (hkept : ∀ r ∈ rows, ∀ line, isNumbered (toRow r line).id = false)
    (hbefore : ∀ line ∈ before, trimmed line ≠ table.heading)
    (hafter : ∀ line, after.head? = some line → endsTable line = true) (policy : Policy)
    (separator : String) :
    tableTasks policy table table.heading
        (before ++ (tableLines table separator (rows.map cells) ++ after)) =
      (rows.zipIdx (before.length + 3)).map fun (r, line) =>
        rowTask policy table (ratingColumn? (some table.columns)) (toRow r line) := by
  have hends : ∀ line ∈ (rows.map cells).map Entry.row, endsTable line = false := by
    intro line hline
    obtain ⟨texts, -, rfl⟩ := List.mem_map.1 hline
    exact Entry.endsTable_row texts
  have hrows : (((rows.map cells).map Entry.row).zipIdx (before.length + 3)).filterMap
      (fun entry => row? entry.1 entry.2) =
        (rows.zipIdx (before.length + 3)).map fun (r, line) => toRow r line := by
    rw [List.map_map, List.zipIdx_map, List.filterMap_map,
      List.filterMap_eq_map_iff_forall_eq_some]
    rintro ⟨r, line⟩ hentry
    have hr := hread r (List.fst_mem_of_mem_zipIdx hentry) line
    simp only [Function.comp_apply, Prod.map_apply, id_eq, hr]
  have htable : tableRows (before ++ (tableLines table separator (rows.map cells) ++ after))
      table.heading = (ratingColumn? (some table.columns),
        (rows.zipIdx (before.length + 3)).map fun (r, line) => toRow r line) := by
    rw [tableLines, List.cons_append, List.cons_append, List.cons_append,
      tableRows_append hbefore (trimmed_heading table) hends hafter, hrows]
  have hfilter : ∀ row ∈ (rows.zipIdx (before.length + 3)).map fun (r, line) => toRow r line,
      (!isNumbered row.id) = true := by
    rw [List.forall_mem_map]
    rintro ⟨r, line⟩ hentry
    simp [hkept r (List.fst_mem_of_mem_zipIdx hentry) line]
  rw [tableTasks, htable]
  simp only [List.filter_eq_self.2 hfilter, List.map_map]
  rfl

/-! ### Documents -/

structure IsSeparator (line : String) : Prop where
  isUnbroken : IsUnbroken line
  isSeparatorRow : isSeparatorRow line = true

/-- The lines of the two tables, with a blank line between them and some at the end. -/
def tablePair (separator separator' : String) (blanks : Nat) (current : List RowText)
    (completed : List RatedRowText) : List String :=
  tableLines .current separator (current.map RowText.cells) ++
    "" :: (tableLines .completed separator' (completed.map RatedRowText.cells) ++
      List.replicate blanks "")

theorem number_sign_not_mem_separator {line : String} (h : IsSeparator line) :
    '#' ∉ line.toList := by
  intro hmem
  have hrow := h.isSeparatorRow
  rw [isSeparatorRow, Bool.and_eq_true] at hrow
  have hmark := List.all_eq_true.1 hrow.2 '#' (mem_trim_of_mem hmem (by decide))
  exact absurd hmark (by decide)

theorem forall_mem_tableLines {table : TaskTable} {separator : String}
    {rows : List (List String)} {P : String → Prop} :
    (∀ line ∈ tableLines table separator rows, P line) ↔
      P table.heading ∧ P table.columns ∧ P separator ∧ ∀ cells ∈ rows, P (Entry.row cells) := by
  simp only [tableLines, List.forall_mem_cons, List.forall_mem_map]

section Pairs

variable {separator separator' : String} {blanks : Nat} {current : List RowText}
  {completed : List RatedRowText}

theorem forall_mem_tablePair {P : String → Prop}
    (htables : ∀ table : TaskTable, P table.heading ∧ P table.columns) (hblank : P "")
    (hseparator : P separator) (hseparator' : P separator')
    (hcurrent : ∀ r ∈ current, P (Entry.row r.cells))
    (hcompleted : ∀ r ∈ completed, P (Entry.row r.cells)) :
    ∀ line ∈ tablePair separator separator' blanks current completed, P line := by
  rw [tablePair, List.forall_mem_append, List.forall_mem_cons, List.forall_mem_append,
    forall_mem_tableLines, forall_mem_tableLines, List.forall_mem_map, List.forall_mem_map]
  refine ⟨⟨(htables _).1, (htables _).2, hseparator, hcurrent⟩, hblank,
    ⟨(htables _).1, (htables _).2, hseparator', hcompleted⟩, fun line hline => ?_⟩
  rwa [List.eq_of_mem_replicate hline]

theorem isUnbroken_of_mem_tablePair (hseparator : IsSeparator separator)
    (hseparator' : IsSeparator separator') (hcurrent : ∀ r ∈ current, r.IsReadable)
    (hcompleted : ∀ r ∈ completed, r.IsReadable) :
    ∀ line ∈ tablePair separator separator' blanks current completed, IsUnbroken line := by
  refine forall_mem_tablePair (fun table => ?_) (by decide) hseparator.isUnbroken
    hseparator'.isUnbroken (fun r hr => ?_) fun r hr => ?_
  · cases table <;> decide
  · exact Entry.isUnbroken_row fun s hs => ((hcurrent r hr).cells s hs).isUnbroken
  · exact Entry.isUnbroken_row fun s hs =>
      (isCellText_of_mem_cells (hcompleted r hr) s hs).isUnbroken

theorem sections_tablePair (hseparator : IsSeparator separator)
    (hseparator' : IsSeparator separator') (policy : Policy) :
    sections policy (tablePair separator separator' blanks current completed) = [] := by
  have hnone : ∀ line ∈ tablePair separator separator' blanks current completed,
      taskHeading? line = none := by
    refine forall_mem_tablePair (fun table => ?_) (by decide)
      (taskHeading?_of_not_mem (number_sign_not_mem_separator hseparator))
      (taskHeading?_of_not_mem (number_sign_not_mem_separator hseparator'))
      (fun r _ => Entry.taskHeading?_row r.cells) fun r _ => Entry.taskHeading?_row r.cells
    cases table <;> decide
  rw [sections, ← List.append_nil (tablePair _ _ _ _ _), sectionsFrom_append hnone]
  rfl

theorem currentTasks_tablePair (hcurrent : ∀ r ∈ current, r.IsReadable) (policy : Policy) :
    tableTasks policy .current TaskTable.current.heading
        (tablePair separator separator' blanks current completed) =
      (current.zipIdx 3).map fun (r, line) => rowTask policy .current none (r.toRow [] line) := by
  have hread : ∀ r ∈ current, ∀ line,
      row? (Entry.row r.cells) line = some (r.toRow [] line) := by
    intro r hr line
    simpa using row?_cells (hcurrent r hr) (List.forall_mem_nil _) line
  have hkept : ∀ r ∈ current, ∀ line, isNumbered (r.toRow [] line).id = false :=
    fun r hr _ => isNumbered_id (hcurrent r hr)
  have hafter : ∀ line, ("" :: (tableLines .completed separator'
      (completed.map RatedRowText.cells) ++ List.replicate blanks "")).head? = some line →
      endsTable line = true := by
    rintro _ ⟨⟩
    decide
  have hcolumn : ratingColumn? (some TaskTable.current.columns) = none := by decide
  rw [tablePair, ← List.nil_append (tableLines .current _ _ ++ _),
    tableTasks_append hread hkept (List.forall_mem_nil _) hafter, hcolumn]
  rfl

theorem completedTasks_tablePair (hseparator : IsSeparator separator)
    (hcompleted : ∀ r ∈ completed, r.IsReadable) (policy : Policy) :
    tableTasks policy .completed TaskTable.completed.heading
        (tablePair separator separator' blanks current completed) =
      (completed.zipIdx (current.length + 7)).map fun (r, line) =>
        rowTask policy .completed (some 4) (r.toRowText.toRow [r.rating] line) := by
  have hread : ∀ r ∈ completed, ∀ line,
      row? (Entry.row r.cells) line = some (r.toRowText.toRow [r.rating] line) := by
    intro r hr line
    have hrating : ∀ s ∈ [r.rating], IsCellText s :=
      List.forall_mem_singleton.2 (hcompleted r hr).rating
    exact row?_cells (hcompleted r hr).toIsReadable hrating line
  have hkept : ∀ r ∈ completed, ∀ line,
      isNumbered (r.toRowText.toRow [r.rating] line).id = false :=
    fun r hr _ => isNumbered_id (hcompleted r hr).toIsReadable
  have hbefore : ∀ line ∈ tableLines .current separator (current.map RowText.cells) ++ [""],
      trimmed line ≠ TaskTable.completed.heading := by
    rw [List.forall_mem_append, forall_mem_tableLines, List.forall_mem_singleton]
    have hnumber : '#' ∈ TaskTable.completed.heading.toList := by decide
    refine ⟨⟨?_, ?_, ?_, fun cells _ => Entry.trimmed_row_ne cells _⟩, ?_⟩
    · rw [trimmed_heading]
      decide
    · exact trimmed_ne_of_not_mem hnumber (by decide)
    · exact trimmed_ne_of_not_mem hnumber (number_sign_not_mem_separator hseparator)
    · exact trimmed_ne_of_not_mem hnumber (by decide)
  have hafter : ∀ line, (List.replicate blanks "").head? = some line →
      endsTable line = true := by
    intro line hline
    rw [List.eq_of_mem_replicate (List.mem_of_head? hline)]
    decide
  have hlines : tablePair separator separator' blanks current completed =
      (tableLines .current separator (current.map RowText.cells) ++ [""]) ++
        (tableLines .completed separator' (completed.map RatedRowText.cells) ++
          List.replicate blanks "") := by
    simp [tablePair]
  have hlength : (tableLines .current separator (current.map RowText.cells) ++ [""]).length + 3 =
      current.length + 7 := by
    simp [tableLines]
  have hcolumn : ratingColumn? (some TaskTable.completed.columns) = some 4 := by decide
  rw [hlines, tableTasks_append hread hkept hbefore hafter, hlength, hcolumn]

theorem isReadAsCurrent_rowTask {r : RowText} (h : r.IsReadable) {policy : Policy} {line : Nat} :
    r.IsReadAsCurrent line (rowTask policy .current none (r.toRow [] line)) where
  toIsRead := isRead_rowTask h
  rating := rfl
  status := by
    have hcell : (r.toRow [] line).cells[2]? = some r.status := rfl
    simp only [rowTask, hcell, Option.bind_some, nonBlank?_of_isPhrase
      (h.cells r.status (by simp [RowText.cells])).toIsPhrase]
    by_cases hempty : r.status = ""
    · rw [if_pos hempty, if_pos hempty]
      rfl
    · rw [if_neg hempty, if_neg hempty, Option.getD_some]

theorem isReadAsCompleted_rowTask {r : RatedRowText} (h : r.IsReadable) {policy : Policy}
    {line : Nat} : r.IsReadAsCompleted line
      (rowTask policy .completed (some 4) (r.toRowText.toRow [r.rating] line)) where
  toIsRead := isRead_rowTask h.toIsReadable
  rating := by
    have hcell : (r.toRowText.toRow [r.rating] line).cells[4]?.getD "" = r.rating := rfl
    simp only [rowTask, rating?, hcell, Option.bind_some,
      trimmed_of_isPhrase h.rating.toIsPhrase, Bool.or_eq_true, decide_eq_true_eq]
  status := rfl

/-- **Task tables are read back.** Any text with the lines of the two tables gives one task for each
row, current ones first, with the number of its line. -/
theorem exists_read_of_tablePair (hseparator : IsSeparator separator)
    (hseparator' : IsSeparator separator') (hcurrent : ∀ r ∈ current, r.IsReadable)
    (hcompleted : ∀ r ∈ completed, r.IsReadable) (hsome : current ≠ [] ∨ completed ≠ [])
    (policy : Policy) (path : Option String) :
    lines ("\n".intercalate (tablePair separator separator' blanks current completed ++ [""])) =
      tablePair separator separator' blanks current completed ∧
    ∀ text, lines text = tablePair separator separator' blanks current completed →
      ∃ l currentTasks completedTasks, Audit.read policy text path = .ok l ∧
        l.tasks = currentTasks ++ completedTasks ∧
        List.Forall₂ (fun (r, line) t => RowText.IsReadAsCurrent r line t)
          (current.zipIdx 3) currentTasks ∧
        List.Forall₂ (fun (r, line) t => RatedRowText.IsReadAsCompleted r line t)
          (completed.zipIdx (current.length + 7)) completedTasks := by
  have hbreaks : ∀ line ∈ tablePair separator separator' blanks current completed,
      IsUnbroken line := isUnbroken_of_mem_tablePair hseparator hseparator' hcurrent hcompleted
  refine ⟨lines_intercalate hbreaks, fun text htext => ?_⟩
  have htasks : tasks policy (lines text) = ((current.zipIdx 3).map fun (r, line) =>
      rowTask policy .current none (r.toRow [] line)) ++
      (completed.zipIdx (current.length + 7)).map fun (r, line) =>
        rowTask policy .completed (some 4) (r.toRowText.toRow [r.rating] line) := by
    rw [htext, tasks, sections_tablePair hseparator hseparator', merge_nil, rowTasks,
      currentTasks_tablePair hcurrent, completedTasks_tablePair hseparator hcompleted]
  have hne : tasks policy (lines text) ≠ [] := by
    rw [htasks]
    simpa [or_iff_not_imp_left] using hsome
  have hlist : Audit.read policy text path = .ok (listOfLines policy (lines text) path) := by
    rw [Audit.read_eq_ok_iff, TaskList.ofText?]
    exact if_neg (by simpa using hne)
  refine ⟨_, _, _, hlist, htasks, ?_, ?_⟩
  · refine List.forall₂_map_right_iff.2 (List.forall₂_same.2 ?_)
    rintro ⟨r, line⟩ hr
    exact isReadAsCurrent_rowTask (hcurrent r (List.fst_mem_of_mem_zipIdx hr))
  · refine List.forall₂_map_right_iff.2 (List.forall₂_same.2 ?_)
    rintro ⟨r, line⟩ hr
    exact isReadAsCompleted_rowTask (hcompleted r (List.fst_mem_of_mem_zipIdx hr))

end Pairs

/-- Two tables with cells in which nothing is written. -/
def sparseTables : List String :=
  tablePair "|----|---|:-:|---|" "|-|-|-|-|-|" 0 [⟨"AB0001", "Plan # it", "", "High"⟩]
    [⟨⟨"AB0002", "Build", "Open", ""⟩, "-"⟩]

theorem exists_read_sparseTables : ∃ l plan build,
    Audit.read .standard ("\n".intercalate (sparseTables ++ [""])) none = .ok l ∧
      l.tasks = [plan, build] ∧
      RowText.IsReadAsCurrent ⟨"AB0001", "Plan # it", "", "High"⟩ 3 plan ∧
      RatedRowText.IsReadAsCompleted ⟨⟨"AB0002", "Build", "Open", ""⟩, "-"⟩ 8 build := by
  have hcell : ∀ s ∈ ["AB0001", "AB0002", "Plan # it", "Build", "Open", "High", "", "-"],
      IsCellText s := by
    have hread : ∀ s ∈ ["AB0001", "AB0002", "Plan # it", "Build", "Open", "High", "", "-"],
        IsUnbroken s ∧ trim s.toList = s.toList ∧ '|' ∉ s.toList := by
      decide
    exact fun s hs => ⟨⟨(hread s hs).1, (hread s hs).2.1⟩, (hread s hs).2.2⟩
  have hfirst : IsPlain ("AB".toList ++ "0001".toList) :=
    isPlain_append (by decide) (by decide) (by decide)
  have hsecond : IsPlain ("AB".toList ++ "0002".toList) :=
    isPlain_append (by decide) (by decide) (by decide)
  have hcurrent : ∀ r ∈ [(⟨"AB0001", "Plan # it", "", "High"⟩ : RowText)], r.IsReadable := by
    rw [List.forall_mem_singleton]
    refine ⟨hfirst, ?_⟩
    simp [RowText.cells, hcell]
  have hcompleted : ∀ r ∈ [(⟨⟨"AB0002", "Build", "Open", ""⟩, "-"⟩ : RatedRowText)],
      r.IsReadable := by
    rw [List.forall_mem_singleton]
    refine ⟨⟨hsecond, ?_⟩, hcell "-" (by simp)⟩
    simp [RowText.cells, hcell]
  have hseparator : IsSeparator "|----|---|:-:|---|" := ⟨by decide, by decide⟩
  have hseparator' : IsSeparator "|-|-|-|-|-|" := ⟨by decide, by decide⟩
  obtain ⟨hlines, hread⟩ := exists_read_of_tablePair hseparator hseparator' hcurrent hcompleted
    (by simp) .standard none
  obtain ⟨l, currentTasks, completedTasks, hl, htasks, hplan, hbuild⟩ := hread _ hlines
  simp only [List.zipIdx_cons, List.zipIdx_nil, List.forall₂_cons_left_iff,
    List.forall₂_nil_left_iff] at hplan hbuild
  obtain ⟨plan, _, hplan, rfl, rfl⟩ := hplan
  obtain ⟨build, _, hbuild, rfl, rfl⟩ := hbuild
  exact ⟨l, plan, build, hl, htasks, hplan, hbuild⟩

end Document

end TaskAudit
