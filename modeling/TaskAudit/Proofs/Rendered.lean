import TaskAudit.Document
import TaskAudit.Proofs.Part

/-!
# Documents that are written and read

The document of a template is read as a list of three main tasks, the first of them with two
subtasks, and the four blocks of lines that its references stand for.
-/

namespace TaskAudit

open Text Document

namespace Template

/-! ### Main tasks -/

theorem isOwn_of_mem_closing {dependency : String} (h : IsQuiet dependency) :
    ∀ line ∈ field "Dependencies" dependency ++
      [label "Code Quality KPIs", use "standard-kpis", ""], IsOwn line := by
  refine List.forall_mem_append.2 ⟨isOwn_of_mem_field (isName_ofList rfl rfl) h, ?_⟩
  simp only [List.forall_mem_cons]
  exact ⟨isOwn_label (isName_ofList rfl rfl), (isOwn_use _ (by decide)).1, isPassive_empty.isOwn,
    by simp⟩

section Entries

variable {template : Template} {sections : List String} {code : String} {n : Nat}
  (h : template.IsReadable sections) (hcode : TaskId.IsCode code)

include h

theorem isQuiet_lowered_title : IsQuiet (lowered template.title) := by
  intro c hc
  rw [lowered, String.toList_ofList] at hc
  exact isQuietChar_of_isPlain (isPlain_of_mem_lower h.title c hc)

include hcode

theorem isReadable_activeEntry (hn : n ≤ 9999) :
    (template.activeEntry code n).IsReadable code n where
  id := rfl
  isCode := hcode
  number_le := hn
  title := h.active
  description := by
    simp only [activeEntry, isQuiet_append]
    exact ⟨⟨⟨h.active.quiet, isQuiet_ofList rfl⟩, isQuiet_lowered_title h⟩, isQuiet_ofList rfl⟩
  status := isField_ofList rfl rfl rfl
  priority := isField_ofList rfl rfl rfl
  rating := by
    rintro _ ⟨⟩
  requirement := by
    simp only [activeEntry, isQuiet_append]
    exact ⟨⟨isQuiet_ofList rfl, h.active.quiet⟩, isQuiet_ofList rfl⟩
  closing := isOwn_of_mem_closing (isQuiet_ofList rfl)

theorem isReadable_plannedEntry (hn : n + 1 ≤ 9999) :
    (template.plannedEntry code n).IsReadable code (n + 1) where
  id := rfl
  isCode := hcode
  number_le := hn
  title := h.planned
  description := by
    simp only [plannedEntry, isQuiet_append]
    exact ⟨h.planned.quiet, isQuiet_ofList rfl⟩
  status := isField_ofList rfl rfl rfl
  priority := isField_ofList rfl rfl rfl
  rating := by
    rintro _ ⟨⟩
  requirement := by
    simp only [plannedEntry, isQuiet_append]
    exact ⟨⟨isQuiet_ofList rfl, h.planned.quiet⟩, isQuiet_ofList rfl⟩
  closing := isOwn_of_mem_closing (TaskId.isQuiet_ofNumber hcode (by omega))

theorem isReadable_doneEntry (hn : n + 2 ≤ 9999) :
    (template.doneEntry code n).IsReadable code (n + 2) where
  id := rfl
  isCode := hcode
  number_le := hn
  title := h.done
  description := by
    simp only [doneEntry, isQuiet_append]
    exact ⟨h.done.quiet, isQuiet_ofList rfl⟩
  status := isField_ofList rfl rfl rfl
  priority := isField_ofList rfl rfl rfl
  rating := by
    rintro _ ⟨⟩
    exact isField_ofList rfl rfl rfl
  requirement := by
    simp only [doneEntry, isQuiet_append]
    exact ⟨⟨isQuiet_ofList rfl, h.done.quiet⟩, isQuiet_ofList rfl⟩
  closing := by
    have hquiet : ∀ cs : List Char, cs.all isQuietChar = true → IsOwn (String.ofList cs) :=
      fun cs hcs => isOwn_of_isQuiet (isQuiet_ofList hcs)
    have hlabel : ∀ cs : List Char, cs.all isQuietChar = true → cs.contains ':' = false →
        IsOwn (label (String.ofList cs)) :=
      fun cs hcs hcolon => isOwn_label (isName_ofList hcs hcolon)
    simp only [doneEntry, field, List.forall_mem_append, List.forall_mem_cons]
    repeat' apply And.intro
    all_goals first
      | exact fun _ h => absurd h List.not_mem_nil
      | exact hlabel _ rfl rfl
      | exact (isOwn_use _ (by decide)).1
      | exact isOwn_label_append (isName_ofList rfl rfl) (isQuiet_ofList rfl)
      | exact hquiet _ rfl

theorem isReadable_entries (hn : n ≤ 9997) : (template.activeEntry code n).IsReadable code n ∧
    (template.plannedEntry code n).IsReadable code (n + 1) ∧
    (template.doneEntry code n).IsReadable code (n + 2) := by
  refine ⟨?_, ?_, ?_⟩
  · exact isReadable_activeEntry h hcode (by omega)
  · exact isReadable_plannedEntry h hcode (by omega)
  · exact isReadable_doneEntry h hcode (by omega)

end Entries

namespace Entry

variable {e : Entry} {code : String} {n : Nat} {ofCategory parts : List String}
  (h : e.IsReadable code n) (hcategory : ∀ line ∈ ofCategory, IsPassive line)

/-- The section of a main task that the lines of subtasks follow. -/
def detail (policy : Policy) (start : Nat) (e : Entry) (ofCategory parts : List String) : Section :=
  sectionOf policy start e.heading e.id.toList (' ' :: e.title.toList)
    (e.opening ofCategory ++ e.closing ++ parts)

include h hcategory

theorem sectionsFrom_lines {policy : Policy} {number : Nat} {rest : List String}
    (hparts : ∀ line ∈ parts, isBoundary line = false)
    (hrest : ∀ next, rest.head? = some next → isBoundary next = true) :
    sectionsFrom policy number (e.lines ofCategory ++ parts ++ rest) =
      e.detail policy number ofCategory parts ::
        sectionsFrom policy (number + (e.lines ofCategory ++ parts).length) rest := by
  have hbody : ∀ line ∈ e.opening ofCategory ++ e.closing ++ parts, isBoundary line = false := by
    refine List.forall_mem_append.2 ⟨?_, hparts⟩
    exact fun line hline => (isOwn_of_mem_body h hcategory line hline).isBoundary
  rw [lines_append, sectionsFrom_heading (taskHeading?_heading h) hbody hrest, List.length_cons]
  congr 2
  omega

theorem parentLines_lines (hparts : parentLines parts = []) :
    parentLines (e.heading :: (e.opening ofCategory ++ e.closing ++ parts)) =
      e.lines ofCategory := by
  rw [← lines_append, parentLines_append (marker?_of_mem_lines h hcategory), hparts,
    List.append_nil]

theorem subtasks_detail {policy : Policy} {start : Nat} :
    (e.detail policy start ofCategory parts).subtasks =
      subtasks policy (TaskId.category? policy e.id none)
        (start + (e.lines ofCategory).length : Nat) parts := by
  have hstart : ((start + (e.lines ofCategory).length : Nat) : Int) =
      (start : Int) + (e.lines ofCategory).length := by
    omega
  rw [detail, sectionOf, ← lines_append, hstart]
  simp only [String.ofList_toList]
  exact subtasks_append (marker?_of_mem_lines h hcategory)

/-- **A main task is read back** from its row and its section. -/
theorem isRead_mergeRow {policy : Policy} {table : TaskTable} {column : Option Nat} {row : Row}
    {start : Nat} (hrow : row.id = e.id) (hparts : parentLines parts = []) :
    e.IsRead policy ofCategory code n
      (mergeRow (rowTask policy table column row) (e.detail policy start ofCategory parts)) := by
  have hown := parentLines_lines h hcategory hparts
  have hid : row.id = TaskId.ofNumber code n := hrow.trans h.id
  constructor
  case kind => rfl
  case listed => exact Origin.noConfusion
  case id => exact hid
  case code =>
    simp only [mergeRow, rowTask, hid]
    exact TaskId.code?_ofNumber h.isCode h.number_le
  case category =>
    simp only [mergeRow, rowTask, hid, TaskId.category?, TaskId.number?_ofNumber h.isCode
      h.number_le]
  case ownLines => exact hown
  case status =>
    simp only [mergeRow, detail, sectionOf, stated?_filledField?]
    rw [hown, filledField?_status h, Option.getD_some]
  case priority =>
    simp only [mergeRow, detail, sectionOf, stated?_filledField?]
    rw [hown, filledField?_priority h]
    rfl
  case rating =>
    intro rating hrating
    simp only [mergeRow, detail, sectionOf, stated?_filledField?]
    rw [hown, filledField?_rating h hrating]
    rfl

end Entry

/-! ### Tables -/

namespace Entry

def toRow (e : Entry) (line : Nat) : Row := ⟨line, e.id, e.title, e.cells⟩

variable {e : Entry} {code : String} {n : Nat} (h : e.IsReadable code n)

include h

theorem isTitle_of_mem_cells : ∀ s ∈ e.cells, IsTitle s := by
  have hid : IsTitle e.id := by
    refine ⟨?_, isQuiet_id h⟩
    rw [h.id]
    exact isCell_ofNumber h.isCode h.number_le
  have hrating : ∀ s ∈ e.rating.toList, IsTitle s := by
    intro s hs
    exact (h.rating s (Option.mem_toList.1 hs)).toIsTitle
  simp only [cells, List.forall_mem_append, List.forall_mem_cons]
  exact ⟨⟨hid, h.title, h.status.toIsTitle, h.priority.toIsTitle, by simp⟩, hrating⟩

theorem row?_cells (line : Nat) : row? (row e.cells) line = some (e.toRow line) := by
  have hcapital : ∃ c ∈ e.id.toList, TaskId.isCapital c = true := by
    have hleast := h.isCode.least
    rw [← String.length_toList] at hleast
    obtain ⟨c, hc⟩ := List.exists_mem_of_length_pos (by omega : 0 < code.toList.length)
    refine ⟨c, ?_, h.isCode.isCapital c hc⟩
    rw [h.id, TaskId.toList_ofNumber]
    exact List.mem_append_left _ hc
  have hcells : ∀ s ∈ e.cells, IsCell s := fun s hs => (isTitle_of_mem_cells h s hs).toIsCell
  exact row?_row hcells hcapital line

theorem isQuiet_cells : IsQuiet (row e.cells) :=
  isQuiet_row fun s hs => (isTitle_of_mem_cells h s hs).quiet

theorem isNumbered_id : TaskId.isNumbered e.id = false := by
  rw [h.id]
  exact TaskId.isNumbered_ofNumber h.isCode h.number_le

end Entry

theorem trimmed_headline_ne (title : String) (table : TaskTable) :
    trimmed ("# " ++ title ++ " Task List") ≠ table.heading := by
  have htext : ("# " ++ title ++ " Task List").toList =
      '#' :: (' ' :: (title.toList ++ " Task Lis".toList)) ++ ['t'] := by
    simp
  have hmark : isBlank '#' = false := by decide
  have hend : isBlank 't' = false := by decide
  intro heq
  rw [trimmed, ← String.toList_inj, String.toList_ofList, htext, trim_between hmark hend] at heq
  cases table with
  | current => simp [TaskTable.heading] at heq
  | completed => simp [TaskTable.heading] at heq

section Tables

variable {title code : String} {n : Nat} {active planned done : Entry} {more : List String}
  (hactive : active.IsReadable code n) (hplanned : planned.IsReadable code (n + 1))
  (hdone : done.IsReadable code (n + 2))

include hactive hplanned hdone

/-- Each main task of a template has a row in one of the tables. -/
theorem rowTasks_tables (policy : Policy) : ∃ current completed,
    rowTasks policy (tables title active planned done ++ more) =
      [rowTask policy .current current (active.toRow 5),
        rowTask policy .current current (planned.toRow 6),
        rowTask policy .completed completed (done.toRow 11)] := by
  obtain ⟨columns, separator, rest, hcurrent⟩ : ∃ columns separator rest,
      tables title active planned done ++ more =
        ["# " ++ title ++ " Task List", ""] ++ TaskTable.current.heading :: columns :: separator ::
          ([Entry.row active.cells, Entry.row planned.cells] ++ "" :: rest) :=
    ⟨_, _, _, rfl⟩
  obtain ⟨before, columns', separator', rest', hcompleted, hlength, hbefore⟩ :
      ∃ before columns separator rest, tables title active planned done ++ more =
        before ++ TaskTable.completed.heading :: columns :: separator ::
          ([Entry.row done.cells] ++ "" :: rest) ∧ before.length = 8 ∧
        ∀ line ∈ before, trimmed line ≠ TaskTable.completed.heading := by
    refine ⟨["# " ++ title ++ " Task List", "", TaskTable.current.heading, _, _,
      Entry.row active.cells, Entry.row planned.cells, ""], _, _, _, rfl, rfl, ?_⟩
    have hquiet : ∀ line, IsQuiet line → trimmed line ≠ TaskTable.completed.heading := by
      intro line hline
      exact trimmed_ne_of_not_mem (by decide : '#' ∈ TaskTable.completed.heading.toList)
        hline.number_sign_not_mem
    simp only [List.forall_mem_cons]
    refine ⟨trimmed_headline_ne title _, hquiet _ (isQuiet_ofList rfl), ?_,
      hquiet _ (isQuiet_ofList rfl), hquiet _ (isQuiet_ofList rfl),
      hquiet _ (Entry.isQuiet_cells hactive), hquiet _ (Entry.isQuiet_cells hplanned),
      hquiet _ (isQuiet_ofList rfl), by simp⟩
    rw [trimmed_heading]
    decide
  have hblank : ∀ (more : List String) (line : String), ("" :: more).head? = some line →
      endsTable line = true := by
    rintro more _ ⟨⟩
    decide
  have hcurrentRows : tableRows (tables title active planned done ++ more)
      TaskTable.current.heading = (ratingColumn? (some columns),
        [active.toRow 5, planned.toRow 6]) := by
    have hfirst : ∀ line ∈ ["# " ++ title ++ " Task List", ""],
        trimmed line ≠ TaskTable.current.heading := by
      simp only [List.forall_mem_cons]
      exact ⟨trimmed_headline_ne title _, by decide, by simp⟩
    have hends : ∀ line ∈ [Entry.row active.cells, Entry.row planned.cells],
        endsTable line = false := by
      simp [Entry.endsTable_row]
    rw [hcurrent, tableRows_append hfirst (trimmed_heading _) hends (hblank rest)]
    simp [Entry.row?_cells hactive, Entry.row?_cells hplanned]
  have hcompletedRows : tableRows (tables title active planned done ++ more)
      TaskTable.completed.heading = (ratingColumn? (some columns'), [done.toRow 11]) := by
    have hends : ∀ line ∈ [Entry.row done.cells], endsTable line = false := by
      simp [Entry.endsTable_row]
    rw [hcompleted, tableRows_append hbefore (trimmed_heading _) hends (hblank rest'), hlength]
    simp [Entry.row?_cells hdone]
  refine ⟨ratingColumn? (some columns), ratingColumn? (some columns'), ?_⟩
  simp [rowTasks, tableTasks, hcurrentRows, hcompletedRows, Entry.toRow,
    Entry.isNumbered_id hactive, Entry.isNumbered_id hplanned, Entry.isNumbered_id hdone]

end Tables

/-! ### Definitions -/

/-- A line of the block that a name stands for. Only one block is about dependencies. -/
inductive IsBlockLine (defined : String) : String → Prop where
  | quiet {line : String} (h : IsQuiet line) : IsBlockLine defined line
  | label {name : String} (h : IsName name)
      (hname : name = "Dependencies" → defined = "def-no-dependencies") :
      IsBlockLine defined (label name)

theorem isBlockLine_of_mem_blocks : ∀ block ∈ blocks, ∀ line ∈ block.2,
    IsBlockLine block.1 line := by
  simp only [blocks, List.forall_mem_cons]
  repeat' apply And.intro
  all_goals first
    | exact fun _ h => absurd h List.not_mem_nil
    | exact .label (isName_ofList rfl rfl) (by decide)
    | exact .quiet (isQuiet_ofList rfl)

theorem isOwn_of_mem_blocks : ∀ block ∈ blocks, ∀ line ∈ block.2, IsOwn line := by
  intro block hblock line hline
  cases isBlockLine_of_mem_blocks block hblock line hline with
  | quiet hquiet => exact isOwn_of_isQuiet hquiet
  | label hname => exact isOwn_label hname

/-- A line before or after the sections of tasks. -/
structure IsOuter (line : String) : Prop extends IsLine line where
  taskHeading? : taskHeading? line = none

theorem IsInner.isOuter {line : String} (h : IsInner line) : IsOuter line where
  toIsLine := h.toIsLine
  taskHeading? := by
    rw [Option.eq_none_iff_forall_ne_some]
    intro found hfound
    simpa [h.isBoundary] using isBoundary_of_taskHeading? hfound

theorem IsInner.definedName? {line : String} (h : IsInner line) : definedName? line = none :=
  definedName?_of_not_isLevelTwo (isLevelTwo_of_not_isBoundary h.isBoundary)

theorem define_of_mem : ∀ name ∈ definedNames, IsOuter (define name) ∧
    isLevelTwo (define name) = true ∧ Document.definedName? (define name) = some name := by
  have hread : ∀ name ∈ definedNames, IsUnbroken (define name) ∧
      references (define name) = [name] ∧ taskHeading? (define name) = none ∧
      isLevelTwo (define name) = true ∧ Document.definedName? (define name) = some name := by
    decide +kernel
  intro name hname
  obtain ⟨hunbroken, hreferences, hheading, hlevel, hdefined⟩ := hread name hname
  refine ⟨⟨⟨hunbroken, ?_⟩, hheading⟩, hlevel, hdefined⟩
  rw [hreferences]
  simpa using hname

def givenReferences : References := Catalog.ofPairs blocks

theorem map_definitionsFrom_blocks {blocks : List (String × List String)} (number : Nat)
    (h : ∀ block ∈ blocks, block.1 ∈ definedNames ∧ ∀ line ∈ block.2, IsOwn line) :
    (definitionsFrom number (blocks.flatMap fun block => define block.1 :: block.2)).map
      (fun d => (d.name, d.body)) = blocks := by
  induction blocks generalizing number with
  | nil => rfl
  | cons block blocks ih =>
      obtain ⟨⟨hname, hbody⟩, hblocks⟩ := List.forall_mem_cons.1 h
      obtain ⟨-, -, hdefined⟩ := define_of_mem _ hname
      have hnext : ∀ next, (blocks.flatMap fun block => define block.1 :: block.2).head? =
          some next → isLevelTwo next = true := by
        intro next hnext
        cases blocks with
        | nil => simp at hnext
        | cons other blocks =>
            rw [List.flatMap_cons, List.cons_append, List.head?_cons, Option.some.injEq] at hnext
            rw [← hnext]
            exact (define_of_mem _ (hblocks other List.mem_cons_self).1).2.1
      rw [List.flatMap_cons, definitionsFrom_define hdefined (fun line hline =>
        isLevelTwo_of_not_isBoundary (hbody line hline).isBoundary) hnext, List.map_cons,
        ih _ hblocks]

/-! ### Documents -/

def partLines (parentId : String) : List String :=
  Part.first.heading parentId :: Part.first.body ++ Part.second.heading parentId :: Part.second.body

theorem isInner_of_mem_partLines {parentId : String} (hid : IsQuiet parentId) :
    ∀ line ∈ partLines parentId, IsInner line := by
  have hpart : ∀ p : Part, p.IsReadable →
      ∀ line ∈ p.heading parentId :: p.body, IsInner line := by
    intro p hp
    refine List.forall_mem_cons.2 ⟨Part.isInner_heading hp hid, ?_⟩
    exact fun line hline => (Part.isOwn_of_mem_body hp line hline).toIsInner
  exact List.forall_mem_append.2 ⟨hpart _ Part.isReadable_first, hpart _ Part.isReadable_second⟩

theorem parentLines_partLines (parentId : String) : parentLines (partLines parentId) = [] := by
  have hbody : ∀ p : Part, p.IsReadable → ∀ line ∈ p.body, marker? line ≠ some .checkbox := by
    intro p hp line hline
    rw [(Part.isOwn_of_mem_body hp line hline).marker?]
    exact nofun
  refine parentLines_of_numbered (Part.marker?_heading Part.isReadable_first) ?_
  refine List.forall_mem_append.2 ⟨hbody _ Part.isReadable_first, List.forall_mem_cons.2 ⟨?_, ?_⟩⟩
  · rw [Part.marker?_heading Part.isReadable_second]
    decide
  · exact hbody _ Part.isReadable_second

theorem exists_subtasks_partLines {policy : Policy} {category : Option String} {number : Int}
    {code : String} {n : Nat} (hcode : TaskId.IsCode code) (hn : n ≤ 9999) : ∃ first second,
    subtasks policy category number (partLines (TaskId.ofNumber code n)) = [first, second] ∧
      Part.first.IsRead code n first ∧ Part.second.IsRead code n second := by
  have hbody : ∀ p : Part, p.IsReadable → ∀ line ∈ p.body, marker? line = none :=
    fun p hp line hline => (Part.isOwn_of_mem_body hp line hline).marker?
  have hfirst := Part.isReadable_first
  have hsecond := Part.isReadable_second
  generalize hid : TaskId.ofNumber code n = id
  have hstart : ∀ next, (Part.second.heading id :: Part.second.body).head? = some next →
      marker? next ≠ none := by
    intro next hnext
    rw [List.head?_cons, Option.some.injEq] at hnext
    rw [← hnext, Part.marker?_heading hsecond]
    exact nofun
  have hend : subtasks policy category (number + 1 + Part.first.body.length)
      (Part.second.heading id :: Part.second.body ++ []) =
      [numberedSubtask policy category (Part.second.heading id) Part.second.body
        (number + 1 + Part.first.body.length)] := by
    rw [subtasks_numbered (Part.marker?_heading hsecond) (hbody _ hsecond) (by simp)]
    rfl
  rw [List.append_nil] at hend
  rw [partLines, subtasks_numbered (Part.marker?_heading hfirst) (hbody _ hfirst) hstart, hend]
  subst hid
  exact ⟨_, _, rfl, Part.isRead_numberedSubtask hfirst hcode hn,
    Part.isRead_numberedSubtask hsecond hcode hn⟩

theorem isOuter_of_isQuiet {line : String} (h : IsQuiet line) :
    IsOuter line ∧ definedName? line = none :=
  ⟨(isOwn_of_isQuiet h).toIsInner.isOuter, (isOwn_of_isQuiet h).toIsInner.definedName?⟩

theorem isOuter_headline {title : String} (htitle : ∀ c ∈ title.toList, isPlain c = true) :
    IsOuter ("# " ++ title ++ " Task List") ∧
      definedName? ("# " ++ title ++ " Task List") = none := by
  have hquiet : IsQuiet title := fun c hc => isQuietChar_of_isPlain (htitle c hc)
  have hbrace : '{' ∉ ("# " ++ title ++ " Task List").toList := by simp [hquiet.brace_not_mem]
  refine ⟨⟨⟨?_, by simp [references_of_not_mem hbrace]⟩, ?_⟩, ?_⟩
  · simp only [isUnbroken_append]
    exact ⟨⟨by decide, hquiet.isUnbroken⟩, by decide⟩
  · simp [Document.taskHeading?, after?]
  · simp [Document.definedName?, after?]

theorem isOuter_levelTwo : ∀ line ∈ ["## Current Tasks", "## Completed Tasks", "## Task Details",
    "## Reference Definitions"], IsOuter line ∧ definedName? line = none := by
  have hread : ∀ line ∈ ["## Current Tasks", "## Completed Tasks", "## Task Details",
      "## Reference Definitions"], IsUnbroken line ∧ references line = [] ∧
        taskHeading? line = none ∧ Document.definedName? line = none := by
    decide +kernel
  intro line hline
  obtain ⟨hunbroken, hreferences, hheading, hdefined⟩ := hread line hline
  exact ⟨⟨⟨hunbroken, by simp [hreferences]⟩, hheading⟩, hdefined⟩

theorem isOuter_of_mem_definitions : ∀ line ∈ definitions, IsOuter line := by
  rw [definitions, List.forall_mem_cons, List.forall_mem_cons]
  refine ⟨(isOuter_levelTwo _ (by simp)).1, isPassive_empty.isOwn.toIsInner.isOuter, ?_⟩
  intro line hline
  obtain ⟨block, hblock, hline⟩ := List.mem_flatMap.1 hline
  rcases List.mem_cons.1 hline with rfl | hline
  · exact (define_of_mem _ (List.mem_map_of_mem hblock)).1
  · exact (isOwn_of_mem_blocks block hblock line hline).toIsInner.isOuter

section Lines

variable {template : Template} {sections : List String} {code : String} {n : Nat}
  (h : template.IsReadable sections) (hcode : TaskId.IsCode code) (hn : n ≤ 9997)

/-- The lines of the sections of a template's main tasks. -/
def details (template : Template) (sections : List String) (code : String) (n : Nat) :
    List String :=
  (template.activeEntry code n).lines (categoryLines template sections) ++
    partLines (TaskId.ofNumber code n) ++
  (template.plannedEntry code n).lines (categoryLines template sections) ++
  (template.doneEntry code n).lines (categoryLines template sections)

theorem lines_eq : template.lines sections code n =
    tables template.title (template.activeEntry code n) (template.plannedEntry code n)
      (template.doneEntry code n) ++ details template sections code n ++ definitions := by
  have hid : (template.activeEntry code n).id = TaskId.ofNumber code n := rfl
  simp [lines, details, partLines, hid]

include h hcode hn

theorem isOuter_of_mem_tables : ∀ line ∈ tables template.title (template.activeEntry code n)
    (template.plannedEntry code n) (template.doneEntry code n),
    IsOuter line ∧ definedName? line = none := by
  have hquiet : ∀ cs : List Char, cs.all isQuietChar = true → IsOuter (String.ofList cs) ∧
      definedName? (String.ofList cs) = none :=
    fun cs hcs => isOuter_of_isQuiet (isQuiet_ofList hcs)
  obtain ⟨hactive, hplanned, hdone⟩ := isReadable_entries h hcode hn
  simp only [tables, List.forall_mem_cons]
  refine ⟨isOuter_headline h.title, hquiet _ rfl, isOuter_levelTwo _ (by simp), hquiet _ rfl,
    hquiet _ rfl, isOuter_of_isQuiet (Entry.isQuiet_cells hactive),
    isOuter_of_isQuiet (Entry.isQuiet_cells hplanned), hquiet _ rfl, isOuter_levelTwo _ (by simp),
    hquiet _ rfl, hquiet _ rfl, isOuter_of_isQuiet (Entry.isQuiet_cells hdone), hquiet _ rfl,
    isOuter_levelTwo _ (by simp), hquiet _ rfl, by simp⟩

theorem isLine_of_mem_details : ∀ line ∈ details template sections code n,
    IsLine line ∧ definedName? line = none := by
  have hentry : ∀ (e : Entry) (m : Nat), e.IsReadable code m →
      ∀ line ∈ e.lines (categoryLines template sections),
        IsLine line ∧ definedName? line = none := by
    intro e m he
    rw [Entry.lines, List.cons_append, List.forall_mem_cons]
    refine ⟨⟨Entry.isLine_heading he, Entry.definedName?_heading⟩, ?_⟩
    intro line hline
    have hinner := (Entry.isOwn_of_mem_body he h.isPassive line hline).toIsInner
    exact ⟨hinner.toIsLine, hinner.definedName?⟩
  have hparts : ∀ line ∈ partLines (TaskId.ofNumber code n),
      IsLine line ∧ definedName? line = none := by
    intro line hline
    have hinner := isInner_of_mem_partLines (TaskId.isQuiet_ofNumber hcode (by omega)) line hline
    exact ⟨hinner.toIsLine, hinner.definedName?⟩
  obtain ⟨hactive, hplanned, hdone⟩ := isReadable_entries h hcode hn
  simp only [details, List.forall_mem_append]
  exact ⟨⟨⟨hentry _ _ hactive, hparts⟩, hentry _ _ hplanned⟩, hentry _ _ hdone⟩

theorem isLine_of_mem_lines : ∀ line ∈ template.lines sections code n, IsLine line := by
  rw [lines_eq, List.forall_mem_append, List.forall_mem_append]
  refine ⟨⟨?_, ?_⟩, ?_⟩
  · exact fun line hline => (isOuter_of_mem_tables h hcode hn line hline).1.toIsLine
  · exact fun line hline => (isLine_of_mem_details h hcode hn line hline).1
  · exact fun line hline => (isOuter_of_mem_definitions line hline).toIsLine

/-- **The references of a document** stand for the blocks that the template gives them. -/
theorem referenceBlocks_lines :
    referenceBlocks (template.lines sections code n) = givenReferences := by
  have hbefore : ∀ line ∈ tables template.title (template.activeEntry code n)
      (template.plannedEntry code n) (template.doneEntry code n) ++
      details template sections code n ++ ["## Reference Definitions", ""],
      definedName? line = none := by
    refine List.forall_mem_append.2 ⟨List.forall_mem_append.2 ⟨?_, ?_⟩, ?_⟩
    · exact fun line hline => (isOuter_of_mem_tables h hcode hn line hline).2
    · exact fun line hline => (isLine_of_mem_details h hcode hn line hline).2
    · simp only [List.forall_mem_cons]
      exact ⟨(isOuter_levelTwo _ (by simp)).2, (isOuter_of_isQuiet (isQuiet_ofList rfl)).2, by simp⟩
  have hlines : template.lines sections code n = tables template.title
      (template.activeEntry code n) (template.plannedEntry code n) (template.doneEntry code n) ++
      details template sections code n ++ ["## Reference Definitions", ""] ++
      (blocks.flatMap fun block => define block.1 :: block.2) := by
    rw [lines_eq, definitions]
    simp
  have hdefined : ∀ block ∈ blocks, block.1 ∈ definedNames ∧ ∀ line ∈ block.2, IsOwn line :=
    fun block hblock => ⟨List.mem_map_of_mem hblock, isOwn_of_mem_blocks block hblock⟩
  rw [referenceBlocks, Document.definitions, hlines, definitionsFrom_append hbefore,
    map_definitionsFrom_blocks _ hdefined, givenReferences]

/-- **The sections of a document** are those of its three main tasks. -/
theorem sections_lines (policy : Policy) : ∃ planned done,
    Document.sections policy (template.lines sections code n) =
      [(template.activeEntry code n).detail policy 15 (categoryLines template sections)
          (partLines (TaskId.ofNumber code n)),
        (template.plannedEntry code n).detail policy planned (categoryLines template sections) [],
        (template.doneEntry code n).detail policy done (categoryLines template sections) []] := by
  obtain ⟨hactive, hplanned, hdone⟩ := isReadable_entries h hcode hn
  have htables := isOuter_of_mem_tables h hcode hn
  have hparts : ∀ line ∈ partLines (TaskId.ofNumber code n), isBoundary line = false :=
    fun line hline =>
      (isInner_of_mem_partLines (TaskId.isQuiet_ofNumber hcode (by omega)) line hline).isBoundary
  have hstart : ∀ (e : Entry) (m : Nat), e.IsReadable code m → ∀ rest next,
      (e.lines (categoryLines template sections) ++ [] ++ rest).head? = some next →
        isBoundary next = true := by
    intro e m he rest next hnext
    rw [List.append_nil, Entry.lines, List.cons_append, List.cons_append, List.head?_cons,
      Option.some.injEq] at hnext
    rw [← hnext]
    exact isBoundary_of_taskHeading? (Entry.taskHeading?_heading he)
  have hend : ∀ next, definitions.head? = some next → isBoundary next = true := by
    intro next hnext
    rw [definitions, List.head?_cons, Option.some.injEq] at hnext
    rw [← hnext]
    decide +kernel
  have hafter : ∀ number, sectionsFrom policy number definitions = [] := by
    intro number
    rw [← List.append_nil definitions, sectionsFrom_append fun line hline =>
      (isOuter_of_mem_definitions line hline).taskHeading?]
    rfl
  have hdetails : details template sections code n ++ definitions =
      (template.activeEntry code n).lines (categoryLines template sections) ++
        partLines (TaskId.ofNumber code n) ++
      ((template.plannedEntry code n).lines (categoryLines template sections) ++ [] ++
      ((template.doneEntry code n).lines (categoryLines template sections) ++ [] ++
      definitions)) := by
    simp [details]
  rw [Document.sections, lines_eq, List.append_assoc, hdetails,
    sectionsFrom_append fun line hline => (htables line hline).1.taskHeading?,
    Entry.sectionsFrom_lines hactive h.isPassive hparts (hstart _ _ hplanned _),
    Entry.sectionsFrom_lines hplanned h.isPassive (by simp) (hstart _ _ hdone _),
    Entry.sectionsFrom_lines hdone h.isPassive (by simp) hend, hafter]
  exact ⟨_, _, rfl⟩

end Lines

/-! ### Task lists -/

/-- What is read of a template's document: three main tasks, two subtasks, and the blocks that
references stand for. -/
structure Reading (policy : Policy) (template : Template) (sections : List String) (code : String)
    (n : Nat) (l : TaskList) where
  active : Task
  planned : Task
  done : Task
  first : Task
  second : Task
  tasks : l.tasks = [active, planned, done]
  activeSubtasks : active.subtasks = [first, second]
  plannedSubtasks : planned.subtasks = []
  doneSubtasks : done.subtasks = []
  isRead_active : (template.activeEntry code n).IsRead policy (categoryLines template sections)
    code n active
  isRead_planned : (template.plannedEntry code n).IsRead policy (categoryLines template sections)
    code (n + 1) planned
  isRead_done : (template.doneEntry code n).IsRead policy (categoryLines template sections)
    code (n + 2) done
  isRead_first : Part.first.IsRead code n first
  isRead_second : Part.second.IsRead code n second
  references : l.references = givenReferences
  isLine : ∀ line ∈ l.scannedLines, IsLine line

section Reading

variable {template : Template} {sections : List String} {code : String} {n : Nat}
  (h : template.IsReadable sections) (hcode : TaskId.IsCode code) (hn : n ≤ 9997)

include h hcode hn

theorem tasks_lines (policy : Policy) : ∃ column column' planned done,
    Document.tasks policy (template.lines sections code n) =
      [mergeRow (rowTask policy .current column ((template.activeEntry code n).toRow 5))
          ((template.activeEntry code n).detail policy 15 (categoryLines template sections)
            (partLines (TaskId.ofNumber code n))),
        mergeRow (rowTask policy .current column ((template.plannedEntry code n).toRow 6))
          ((template.plannedEntry code n).detail policy planned
            (categoryLines template sections) []),
        mergeRow (rowTask policy .completed column' ((template.doneEntry code n).toRow 11))
          ((template.doneEntry code n).detail policy done
            (categoryLines template sections) [])] := by
  obtain ⟨hactive, hplanned, hdone⟩ := isReadable_entries h hcode hn
  obtain ⟨planned, done, hsections⟩ := sections_lines h hcode hn policy
  obtain ⟨column, column', hrows⟩ := rowTasks_tables hactive hplanned hdone policy
  refine ⟨column, column', planned, done, ?_⟩
  have hne : ∀ m k, m ≤ 9999 → k ≤ 9999 → m ≠ k →
      TaskId.ofNumber code m ≠ TaskId.ofNumber code k := fun _ _ hm hk =>
    TaskId.ofNumber_ne hcode hm hk
  have hrow : ∀ table column (e : Entry) line,
      (rowTask policy table column (e.toRow line)).id = e.id := fun _ _ _ _ => rfl
  have hdetail : ∀ start (e : Entry) parts,
      (e.detail policy start (categoryLines template sections) parts).id = e.id := fun _ e _ =>
    String.ofList_toList
  have hids : (template.activeEntry code n).id = TaskId.ofNumber code n ∧
      (template.plannedEntry code n).id = TaskId.ofNumber code (n + 1) ∧
      (template.doneEntry code n).id = TaskId.ofNumber code (n + 2) := ⟨rfl, rfl, rfl⟩
  rw [Document.tasks, hsections, lines_eq, List.append_assoc, hrows]
  simp [merge, hrow, hdetail, hids, hne n (n + 1) (by omega) (by omega) (by omega),
    hne n (n + 2) (by omega) (by omega) (by omega),
    hne (n + 1) (n + 2) (by omega) (by omega) (by omega)]

/-- **A document is read back** as the tasks and references that its template wrote. -/
theorem exists_reading (policy : Policy) (path : Option String) : ∃ l,
    TaskList.ofText? policy ("\n".intercalate (template.lines sections code n ++ [""])) path =
        some l ∧
      Nonempty (Reading policy template sections code n l) := by
  obtain ⟨hactive, hplanned, hdone⟩ := isReadable_entries h hcode hn
  have hne : (template.lines sections code n).isEmpty = false := by
    rw [lines_eq]
    rfl
  obtain ⟨column, column', planned, done, htasks⟩ := tasks_lines h hcode hn policy
  obtain ⟨first, second, hsubtasks, hfirst, hsecond⟩ : ∃ first second,
      ((template.activeEntry code n).detail policy 15 (categoryLines template sections)
        (partLines (TaskId.ofNumber code n))).subtasks = [first, second] ∧
      Part.first.IsRead code n first ∧ Part.second.IsRead code n second := by
    rw [Entry.subtasks_detail hactive h.isPassive]
    exact exists_subtasks_partLines hcode (by omega)
  have hsome : Document.tasks policy (template.lines sections code n) ≠ [] := by simp [htasks]
  have hread := ofText?_intercalate path
    (fun line hline => (isLine_of_mem_lines h hcode hn line hline).isUnbroken) hsome
  refine ⟨_, hread, ⟨?_⟩⟩
  exact {
    active := _
    planned := _
    done := _
    first
    second
    tasks := htasks
    activeSubtasks := hsubtasks
    plannedSubtasks := Entry.subtasks_detail hplanned h.isPassive
    doneSubtasks := Entry.subtasks_detail hdone h.isPassive
    isRead_active := Entry.isRead_mergeRow hactive h.isPassive rfl (parentLines_partLines _)
    isRead_planned := Entry.isRead_mergeRow hplanned h.isPassive rfl rfl
    isRead_done := Entry.isRead_mergeRow hdone h.isPassive rfl rfl
    isRead_first := hfirst
    isRead_second := hsecond
    references := referenceBlocks_lines h hcode hn
    isLine := by
      rw [TaskList.scannedLines, if_neg (by simp [listOfLines, hne])]
      exact isLine_of_mem_lines h hcode hn }

end Reading

end Template

end TaskAudit
