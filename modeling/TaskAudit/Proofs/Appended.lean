import TaskAudit.Proofs.Closure
import TaskAudit.Proofs.Merge

/-!
# Lines that are appended

What is read of some lines ends with them, or before the next line of a form that ends it. So lines
that start with such a one can be appended, and what is read of the lines before is what was read of
them alone. For a document this asks that the last two lines are no place for a table: its rows are
looked for three lines below the heading, whatever stands between.
-/

namespace TaskAudit

open Text

section Runs

variable {α : Type} {p : α → Bool}

theorem takeWhile_append_of_stops {more : List α} (h : ∀ a, more.head? = some a → p a = false)
    (run : List α) : (run ++ more).takeWhile p = run.takeWhile p := by
  induction run with
  | nil =>
      cases more with
      | nil => rfl
      | cons a more => simp [h a rfl]
  | cons a run ih => simp only [List.cons_append, List.takeWhile_cons, ih]

end Runs

theorem Catalog.ofPairs_concat {α : Type} (pairs : List (String × α)) (name : String) (value : α) :
    ofPairs (pairs ++ [(name, value)]) = (ofPairs pairs).insert name value :=
  List.foldl_concat ..

namespace Document

/-- The rows of every table that has a heading are looked for in the lines themselves. -/
def HasRoom (lines : List String) : Prop :=
  ∀ (table : TaskTable) (top : Nat),
    lines.findIdx? (trimmed · = table.heading) = some top → top + 3 ≤ lines.length

/-- Lines that can stand under any heading: none is a heading of level one to three, and none is the
heading of a table with blanks before it. -/
def IsBody (body : List String) : Prop :=
  ∀ line ∈ body, ¬ IsTopHeading line ∧ ∀ table : TaskTable, trimmed line ≠ table.heading

/-! ### Readers of lines -/

section Readers

variable {lines more : List String} {policy : Policy}

/-- A marker ends the subtask before it. -/
theorem subtasks_append_of_stops {category : Option String} {number : Int}
    (h : ∀ line, more.head? = some line → marker? line ≠ none) :
    subtasks policy category number (lines ++ more) =
      subtasks policy category number lines ++
        subtasks policy category (number + lines.length) more := by
  have hstops : ∀ line, more.head? = some line → (marker? line).isNone = false := by
    intro line hline
    rw [Option.isNone_eq_false_iff, Option.isSome_iff_ne_none]
    exact h line hline
  induction lines generalizing number with
  | nil => simp [subtasks]
  | cons line lines ih =>
      have hnumber : number + (line :: lines).length = number + 1 + lines.length := by
        simp only [List.length_cons]
        omega
      simp only [List.cons_append, subtasks, ih, hnumber, takeWhile_append_of_stops hstops]
      cases marker? line with
      | none => rfl
      | some m => cases m <;> rfl

/-- A heading of level one to three ends the section before it. -/
theorem sectionsFrom_append_of_stops {number : Nat}
    (h : ∀ line, more.head? = some line → isBoundary line = true) :
    sectionsFrom policy number (lines ++ more) =
      sectionsFrom policy number lines ++ sectionsFrom policy (number + lines.length) more := by
  have hstops : ∀ line, more.head? = some line → (!isBoundary line) = false :=
    fun line hline => by rw [h line hline]; rfl
  induction lines generalizing number with
  | nil => rfl
  | cons line lines ih =>
      have hnumber : number + (line :: lines).length = number + 1 + lines.length := by
        rw [List.length_cons]
        omega
      simp only [List.cons_append, sectionsFrom, ih, hnumber, takeWhile_append_of_stops hstops]
      cases taskHeading? line <;> rfl

/-- A heading of level two ends the block before it. -/
theorem definitionsFrom_append_of_stops {number : Nat}
    (h : ∀ line, more.head? = some line → isLevelTwo line = true) :
    definitionsFrom number (lines ++ more) =
      definitionsFrom number lines ++ definitionsFrom (number + lines.length) more := by
  have hstops : ∀ line, more.head? = some line → (!isLevelTwo line) = false :=
    fun line hline => by rw [h line hline]; rfl
  induction lines generalizing number with
  | nil => rfl
  | cons line lines ih =>
      have hnumber : number + (line :: lines).length = number + 1 + lines.length := by
        rw [List.length_cons]
        omega
      simp only [List.cons_append, definitionsFrom, ih, hnumber, takeWhile_append_of_stops hstops]
      cases definedName? line <;> rfl

/-- A heading of level two or more ends the table before it. -/
theorem tableRows_append_of_stops {heading : String}
    (hroom : ∀ top, lines.findIdx? (trimmed · = heading) = some top → top + 3 ≤ lines.length)
    (hmore : ∀ line ∈ more, trimmed line ≠ heading)
    (h : ∀ line, more.head? = some line → endsTable line = true) :
    tableRows (lines ++ more) heading = tableRows lines heading := by
  have hnone : more.findIdx? (trimmed · = heading) = none := by
    rw [List.findIdx?_eq_none_iff]
    exact fun line hline => by simpa using hmore line hline
  simp only [tableRows, List.findIdx?_append, hnone]
  cases htop : lines.findIdx? (trimmed · = heading) with
  | none => rfl
  | some top =>
      have hplace : top + 3 ≤ lines.length := hroom top htop
      have hcolumns : (lines ++ more)[top + 1]? = lines[top + 1]? :=
        List.getElem?_append_left (by omega)
      have hrows : (lines ++ more).zipIdx.drop (top + 3) =
          lines.zipIdx.drop (top + 3) ++ more.zipIdx lines.length := by
        rw [List.zipIdx_append, Nat.zero_add, List.drop_append_of_le_length (by simpa using hplace)]
      have hstops : ∀ entry, (more.zipIdx lines.length).head? = some entry →
          (!endsTable entry.1) = false := by
        intro entry hentry
        cases more with
        | nil => simp at hentry
        | cons line more =>
            obtain rfl : (line, lines.length) = entry := by simpa using hentry
            rw [h line rfl]
            rfl
      simp only [Option.or_none, Option.map_none, hcolumns, hrows, takeWhile_append_of_stops hstops]

end Readers

/-! ### Headings -/

section Headings

variable {line id name : String}

/-- A heading of a table starts like the line that it is, but for the blanks before it. -/
theorem prefix_of_trimmed_eq {heading : String} {c : Char} {rest : List Char}
    (hline : line.toList = c :: rest) (hc : isBlank c = false) (h : trimmed line = heading) :
    heading.toList <+: line.toList := by
  rw [← h, trimmed, String.toList_ofList, trim, trimOf, hline,
    List.dropWhile_cons_of_neg (by simp [hc])]
  exact isPrefix_dropEndWhile isBlank (c :: rest)

theorem trimmed_ne_of_isTaskHeading (h : IsTaskHeading line id) (table : TaskTable) :
    trimmed line ≠ table.heading := by
  obtain ⟨_, _, title, -, hline, -⟩ := h
  intro heq
  obtain ⟨rest, hrest⟩ := prefix_of_trimmed_eq hline (by decide) heq
  rw [hline] at hrest
  cases table <;> simp [TaskTable.heading] at hrest

theorem endsTable_of_isTaskHeading (h : IsTaskHeading line id) : endsTable line = true := by
  obtain ⟨_, _, title, -, hline, -⟩ := h
  simp [endsTable, hline, after?]

theorem trimmed_ne_of_defines (h : Defines line name) (table : TaskTable) :
    trimmed line ≠ table.heading := by
  obtain ⟨mark, used, blanks, hmark, ⟨-, -, hused⟩, -, hline⟩ := h
  intro heq
  obtain ⟨rest, hrest⟩ := prefix_of_trimmed_eq hline (by decide) heq
  rw [hline, hused] at hrest
  rcases hmark with rfl | rfl <;> cases table <;> simp [TaskTable.heading] at hrest

theorem endsTable_of_defines (h : Defines line name) : endsTable line = true := by
  obtain ⟨mark, used, blanks, -, -, -, hline⟩ := h
  simp [endsTable, hline, after?]

theorem isLevelTwo_of_defines (h : Defines line name) : isLevelTwo line = true := by
  obtain ⟨mark, used, blanks, -, -, -, hline⟩ := h
  simp [isLevelTwo, hline, after?]

theorem isBoundary_of_defines (h : Defines line name) : isBoundary line = true := by
  rw [← Bool.not_eq_false]
  intro hboundary
  simpa [isLevelTwo_of_not_isBoundary hboundary] using isLevelTwo_of_defines h

theorem taskHeading?_of_defines (h : Defines line name) : taskHeading? line = none := by
  obtain ⟨mark, used, blanks, -, -, -, hline⟩ := h
  simp [taskHeading?, hline, after?]

end Headings

/-! ### Documents -/

section Documents

variable {policy : Policy} {lines body : List String} {heading : String}

theorem IsBody.isBoundary (h : IsBody body) : ∀ line ∈ body, isBoundary line = false := by
  intro line hline
  rw [← Bool.not_eq_true, isBoundary_iff]
  exact (h line hline).1

theorem rowTasks_append (hroom : HasRoom lines) (hbody : IsBody body)
    (hheading : ∀ table : TaskTable, trimmed heading ≠ table.heading)
    (hends : endsTable heading = true) :
    rowTasks policy (lines ++ heading :: body) = rowTasks policy lines := by
  have hrows : ∀ table : TaskTable, tableRows (lines ++ heading :: body) table.heading =
      tableRows lines table.heading := by
    intro table
    refine tableRows_append_of_stops (hroom table) (List.forall_mem_cons.2 ⟨hheading table, ?_⟩) ?_
    · exact fun line hline => (hbody line hline).2 table
    · rintro _ ⟨⟩
      exact hends
  simp only [rowTasks, tableTasks, hrows]

/-- A section of an id that no row has is a task behind all others. -/
theorem merge_concat {rows : List Task} {sections : List Section} {s : Section}
    (h : ∀ row ∈ rows, row.id ≠ s.id) :
    merge policy rows (sections ++ [s]) = merge policy rows sections ++ [standalone policy s] := by
  have hkept : (rows.any (·.id = s.id)) = false := by
    rw [List.any_eq_false]
    exact fun row hrow => by simpa using h row hrow
  have hfind : ∀ row ∈ rows, (sections ++ [s]).find? (·.id = row.id) =
      sections.find? (·.id = row.id) := by
    intro row hrow
    rw [List.find?_append, List.find?_singleton, if_neg (by simpa using (h row hrow).symm),
      Option.or_none]
  rw [merge, merge, List.filter_append, List.map_append, ← List.append_assoc]
  congr 2
  · exact List.map_congr_left fun row hrow => by rw [hfind row hrow]
  · simp [hkept]

theorem sections_append_heading {id title : List Char}
    (hheading : taskHeading? heading = some (id, title))
    (hbody : ∀ line ∈ body, isBoundary line = false) :
    sections policy (lines ++ heading :: body) =
      sections policy lines ++ [sectionOf policy lines.length heading id title body] := by
  have hone : sectionsFrom policy lines.length (heading :: body ++ []) =
      sectionOf policy lines.length heading id title body :: sectionsFrom policy _ [] :=
    sectionsFrom_heading hheading hbody nofun
  rw [List.append_nil] at hone
  rw [sections, sections, sectionsFrom_append_of_stops, Nat.zero_add, hone, sectionsFrom]
  rintro _ ⟨⟩
  exact isBoundary_of_taskHeading? hheading

theorem sections_append_of_defines {name : String} (hheading : Defines heading name)
    (hbody : ∀ line ∈ body, isBoundary line = false) :
    sections policy (lines ++ heading :: body) = sections policy lines := by
  have hnone : ∀ line ∈ heading :: body, taskHeading? line = none := by
    refine List.forall_mem_cons.2 ⟨taskHeading?_of_defines hheading, fun line hline => ?_⟩
    rw [Option.eq_none_iff_forall_ne_some]
    intro found hfound
    simpa [hbody line hline] using isBoundary_of_taskHeading? hfound
  have hmore : sectionsFrom policy lines.length (heading :: body ++ []) =
      sectionsFrom policy _ [] := sectionsFrom_append hnone
  rw [List.append_nil] at hmore
  rw [sections, sections, sectionsFrom_append_of_stops, Nat.zero_add, hmore, sectionsFrom,
    List.append_nil]
  rintro _ ⟨⟩
  exact isBoundary_of_defines hheading

theorem referenceBlocks_append_of_defines {name : String} (hheading : Defines heading name)
    (hbody : ∀ line ∈ body, isBoundary line = false) :
    referenceBlocks (lines ++ heading :: body) = (referenceBlocks lines).insert name body := by
  have hone : definitionsFrom lines.length (heading :: body ++ []) =
      ⟨name, lines.length, body⟩ :: definitionsFrom _ [] :=
    definitionsFrom_define (definedName?_of_defines hheading)
      (fun line hline => isLevelTwo_of_not_isBoundary (hbody line hline)) nofun
  rw [List.append_nil] at hone
  have hdefinitions : definitions (lines ++ heading :: body) =
      definitions lines ++ [⟨name, lines.length, body⟩] := by
    rw [definitions, definitions, definitionsFrom_append_of_stops, Nat.zero_add, hone,
      definitionsFrom]
    rintro _ ⟨⟩
    exact isLevelTwo_of_defines hheading
  rw [referenceBlocks, hdefinitions, List.map_append]
  exact Catalog.ofPairs_concat _ name body

/-- **Appending disturbs nothing.** A section of a new id that is appended to a document gives one
more task behind those there are, with all its lines; a definition that is appended gives no task,
and its lines to the name that it defines. -/
theorem tasks_append (policy : Policy) (hroom : HasRoom lines) (hbody : IsBody body) :
    (∀ id, IsTaskHeading heading id → ¬ NamesTask lines id → ∃ s t,
      sections policy (lines ++ heading :: body) = sections policy lines ++ [s] ∧
      tasks policy (lines ++ heading :: body) = tasks policy lines ++ [t] ∧
      IsSectionTask policy s t ∧ t.id = id ∧ t.content = heading :: body ∧
      t.line = lines.length) ∧
    ∀ name, Defines heading name →
      tasks policy (lines ++ heading :: body) = tasks policy lines ∧
      referenceBlocks (lines ++ heading :: body) = (referenceBlocks lines).insert name body := by
  constructor
  · intro id hid hnew
    obtain ⟨title, htitle⟩ := isTaskHeading_iff.1 hid
    obtain ⟨s, hs⟩ : ∃ s, s = sectionOf policy lines.length heading id.toList title body := ⟨_, rfl⟩
    have hsid : s.id = id := by rw [hs, sectionOf, String.ofList_toList]
    have hsections : sections policy (lines ++ heading :: body) = sections policy lines ++ [s] := by
      rw [hs, sections_append_heading htitle hbody.isBoundary]
    have hrows : ∀ row ∈ rowTasks policy lines, row.id ≠ s.id := by
      rw [← mem_ids_tasks_iff policy, tasks, mem_ids_merge_iff, not_or] at hnew
      rw [hsid]
      exact fun row hrow heq => hnew.1 ⟨row, hrow, heq⟩
    have htask : IsSectionTask policy s (standalone policy s) := isSectionTask_standalone policy s
    refine ⟨s, standalone policy s, hsections, ?_, htask, htask.id.trans hsid, ?_, ?_⟩
    · rw [tasks, hsections, rowTasks_append hroom hbody (trimmed_ne_of_isTaskHeading hid)
        (endsTable_of_isTaskHeading hid), merge_concat hrows, tasks]
    · rw [htask.content, hs, sectionOf]
    · rw [htask.line, hs, sectionOf]
  · intro name hname
    refine ⟨?_, referenceBlocks_append_of_defines hname hbody.isBoundary⟩
    rw [tasks, tasks, sections_append_of_defines hname hbody.isBoundary,
      rowTasks_append hroom hbody (trimmed_ne_of_defines hname) (endsTable_of_defines hname)]

end Documents

/-- A document that ends with a row of a table. -/
def openTable : List String :=
  ["## \x7b\x7bshared\x7d\x7d", "An old line", "## Current Tasks", "| ID | Work |", "|----|------|",
    "| AB0001 | Plan |"]

theorem tasks_append_openTable : HasRoom openTable ∧ IsBody ["A new line"] ∧
    (∃ s t, sections .standard (openTable ++ ["### AB0002: Build", "A new line"]) =
        sections .standard openTable ++ [s] ∧
      tasks .standard (openTable ++ ["### AB0002: Build", "A new line"]) =
        tasks .standard openTable ++ [t] ∧
      IsSectionTask .standard s t ∧ t.id = "AB0002" ∧
      t.content = ["### AB0002: Build", "A new line"] ∧ t.line = openTable.length) ∧
    tasks .standard (openTable ++ ["## \x7b\x7bshared\x7d\x7d", "A new line"]) =
      tasks .standard openTable ∧
    referenceBlocks (openTable ++ ["## \x7b\x7bshared\x7d\x7d", "A new line"]) =
      (referenceBlocks openTable).insert "shared" ["A new line"] := by
  have hroom : HasRoom openTable := by
    intro table top htop
    cases table with
    | current =>
        have hcurrent : openTable.findIdx? (trimmed · = TaskTable.current.heading) = some 2 := by
          decide
        obtain rfl : 2 = top := Option.some.inj (hcurrent.symm.trans htop)
        decide
    | completed =>
        have hcompleted : openTable.findIdx? (trimmed · = TaskTable.completed.heading) = none := by
          decide
        simp [hcompleted] at htop
  have hbody : IsBody ["A new line"] := by
    rw [IsBody, List.forall_mem_singleton, ← isBoundary_iff]
    refine ⟨by decide, fun table => ?_⟩
    cases table <;> decide
  have hheading : IsTaskHeading "### AB0002: Build" "AB0002" :=
    isTaskHeading_iff.2 ⟨" Build".toList, by decide⟩
  have hnew : ¬ NamesTask openTable "AB0002" := by
    have hids : (tasks .standard openTable).map (·.id) = ["AB0001"] := by decide
    rw [← mem_ids_tasks_iff .standard, hids]
    decide
  have hdefines : Defines "## \x7b\x7bshared\x7d\x7d" "shared" :=
    ⟨[], "\x7b\x7bshared\x7d\x7d".toList, [], Or.inl rfl,
      ⟨by decide, by decide, by decide⟩, by simp, by decide⟩
  exact ⟨hroom, hbody, (tasks_append .standard hroom hbody).1 _ hheading hnew,
    (tasks_append .standard hroom hbody).2 _ hdefines⟩

end Document

end TaskAudit
