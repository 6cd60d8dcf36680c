import Mathlib.Data.List.TakeWhile
import TaskAudit.Proofs.Passing
import TaskAudit.Proofs.TaskNumber

/-!
# Lines that name tasks

A task is named by a row of a task table or by the heading of a section. A table reaches from three
lines below the first line that is its heading to the first line that ends it; the tasks read from
it are those of the lines in that range that have the form of a row. The heading of a section is
told by its form alone.
-/

namespace TaskAudit.Document

open Text

/-- A line that is three lines or more below a heading, with no end of the table up to it. -/
def InTable (lines : List String) (heading : String) (n : Nat) : Prop :=
  ∃ top, lines.findIdx? (trimmed · = heading) = some top ∧ top + 3 ≤ n ∧
    ∀ k line, top + 3 ≤ k → k ≤ n → lines[k]? = some line → endsTable line = false

/-- A line of a task table that is a row with an id in its first cell, other than the id of a
numbered subtask. -/
structure IsTaskRow (lines : List String) (n : Nat) (id : String) : Prop where
  inTable : ∃ table : TaskTable, InTable lines table.heading n
  firstCell : ∃ line description more, lines[n]? = some line ∧ startsRow line = true ∧
    isSeparatorRow line = false ∧ cells line = id :: description :: more
  notEmpty : id ≠ ""
  notSubtask : TaskId.isNumbered id = false

/-- Number signs, one to three of them, and a blank. -/
def IsTopHeading (line : String) : Prop :=
  ∃ signs blank rest, line.toList = List.replicate signs '#' ++ blank :: rest ∧ 1 ≤ signs ∧
    signs ≤ 3 ∧ isBlank blank = true

/-- The heading of the section of an id: three number signs, the id and a colon. The id has two to
nine capitals or dashes and three or four digits. -/
def IsTaskHeading (line id : String) : Prop :=
  ∃ code digits title, id.toList = code ++ digits ∧
    line.toList = "### ".toList ++ id.toList ++ ':' :: title ∧
    (∀ c ∈ code, isHeadingCapital c = true) ∧ 2 ≤ code.length ∧ code.length ≤ 9 ∧
    (∀ c ∈ digits, isDigit c = true) ∧ 3 ≤ digits.length ∧ digits.length ≤ 4

/-! ### Headings -/

theorem isBoundary_iff {line : String} : isBoundary line = true ↔ IsTopHeading line := by
  have hsplit := List.takeWhile_append_dropWhile (p := (· = '#')) (l := line.toList)
  constructor
  · intro h
    simp only [isBoundary, Bool.and_eq_true, decide_eq_true_eq] at h
    obtain ⟨⟨hleast, hmost⟩, hblank⟩ := h
    obtain ⟨blank, rest, hrest, hblank⟩ : ∃ blank rest,
        line.toList.dropWhile (· = '#') = blank :: rest ∧ isBlank blank = true := by
      cases hdrop : line.toList.dropWhile (· = '#') with
      | nil => simp [hdrop] at hblank
      | cons blank rest => exact ⟨blank, rest, rfl, by simpa [hdrop] using hblank⟩
    refine ⟨(line.toList.takeWhile (· = '#')).length, blank, rest, ?_, hleast, hmost, hblank⟩
    have hsigns : line.toList.takeWhile (· = '#') =
        List.replicate (line.toList.takeWhile (· = '#')).length '#' :=
      List.eq_replicate_iff.2 ⟨rfl, fun c hc => by simpa using List.mem_takeWhile_imp hc⟩
    rw [← hsigns, ← hrest, hsplit]
  · rintro ⟨signs, blank, rest, hline, hleast, hmost, hblank⟩
    have hrun : ∀ c ∈ List.replicate signs '#', decide (c = '#') = true := by
      intro c hc
      simp [List.eq_of_mem_replicate hc]
    have hstop : ∀ c, (blank :: rest).head? = some c → decide (c = '#') = false := by
      refine stops_at_cons ?_ rest
      rw [decide_eq_false_iff_not]
      rintro rfl
      exact absurd hblank (by decide)
    rw [isBoundary, hline, takeWhile_run hrun hstop, dropWhile_run hrun hstop]
    simp [hleast, hmost, hblank]

theorem isHeadingCapital_eq_false_of_isDigit {c : Char} (h : isDigit c = true) :
    isHeadingCapital c = false := by
  have hdash : c ≠ '-' := by
    rintro rfl
    exact absurd h (by decide)
  simp [isHeadingCapital, TaskId.isCapital_eq_false_of_isDigit h, hdash]

theorem isTaskHeading_iff {line id : String} :
    IsTaskHeading line id ↔ ∃ title, taskHeading? line = some (id.toList, title) := by
  simp only [taskHeading?, Option.bind_eq_bind, Option.bind_eq_some_iff, after?_eq_some_iff,
    Option.ite_none_right_eq_some, Option.pure_def, Option.some.injEq, Prod.mk.injEq]
  constructor
  · rintro ⟨code, digits, title, hid, hline, hcode, hleast, hmost, hdigits, hthree, hfour⟩
    have hcolon : ∀ c, (':' :: title).head? = some c → isDigit c = false :=
      stops_at_cons (by decide) title
    have hstop : ∀ c, (digits ++ ':' :: title).head? = some c → isHeadingCapital c = false := by
      cases digits with
      | nil => simp at hthree
      | cons d digits =>
          exact stops_at_cons (isHeadingCapital_eq_false_of_isDigit (hdigits d (by simp))) _
    have htake := takeWhile_run hcode hstop
    have hdrop := dropWhile_run hcode hstop
    refine ⟨title, code ++ (digits ++ ':' :: title), by simp [hline, hid], ?_, title, ?_, ?_⟩
    · rw [htake, hdrop, takeWhile_run hdigits hcolon]
      exact ⟨hleast, hmost, hthree, hfour⟩
    · rw [hdrop, dropWhile_run hdigits hcolon, List.singleton_append]
    · rw [htake, hdrop, takeWhile_run hdigits hcolon, hid]
      exact ⟨rfl, rfl⟩
  · rintro ⟨_, rest, hline, ⟨hleast, hmost, hthree, hfour⟩, title, hcolon, hid, rfl⟩
    refine ⟨_, _, title, hid.symm, ?_, fun c hc => List.mem_takeWhile_imp hc, hleast, hmost,
      fun c hc => List.mem_takeWhile_imp hc, hthree, hfour⟩
    calc line.toList
        = "### ".toList ++ rest := hline
      _ = "### ".toList ++ (rest.takeWhile isHeadingCapital ++
            (rest.dropWhile isHeadingCapital).takeWhile isDigit ++
            (rest.dropWhile isHeadingCapital).dropWhile isDigit) := by
          rw [List.append_assoc, List.takeWhile_append_dropWhile, List.takeWhile_append_dropWhile]
      _ = "### ".toList ++ id.toList ++ ':' :: title := by
          rw [hid, hcolon, List.append_assoc, List.singleton_append]

/-! ### The rows of a table -/

/-- What comes first with a property is what has it, with everything before it. -/
theorem mem_takeWhile_iff {α : Type} {p : α → Bool} {l : List α} {x : α} :
    x ∈ l.takeWhile p ↔ ∃ n : Nat, l[n]? = some x ∧ ∀ k ≤ n, ∀ y, l[k]? = some y → p y = true := by
  induction l with
  | nil => simp
  | cons first rest ih =>
      rw [List.takeWhile_cons]
      cases hfirst : p first with
      | false =>
          simp only [Bool.false_eq_true, if_false, List.not_mem_nil, false_iff, not_exists, not_and]
          intro n _ hall
          simp [hall 0 (Nat.zero_le n) first rfl] at hfirst
      | true =>
          rw [if_pos rfl, List.mem_cons, ih]
          constructor
          · rintro (rfl | ⟨n, hn, hall⟩)
            · exact ⟨0, rfl, by simp [hfirst]⟩
            · refine ⟨n + 1, hn, fun k hk y hy => ?_⟩
              cases k with
              | zero =>
                  obtain rfl : first = y := Option.some.inj hy
                  exact hfirst
              | succ k => exact hall k (Nat.le_of_succ_le_succ hk) y hy
          · rintro ⟨n, hn, hall⟩
            cases n with
            | zero => exact Or.inl (by simpa using hn.symm)
            | succ n =>
                exact Or.inr ⟨n, hn, fun k hk y hy => hall (k + 1) (Nat.succ_le_succ hk) y hy⟩

theorem mem_numbered_iff {lines : List String} {top n : Nat} {line : String} {p : String → Bool} :
    (line, n) ∈ (lines.zipIdx.drop top).takeWhile (fun entry => p entry.1) ↔
      lines[n]? = some line ∧ top ≤ n ∧
        ∀ k line, top ≤ k → k ≤ n → lines[k]? = some line → p line = true := by
  rw [mem_takeWhile_iff]
  simp only [List.getElem?_drop, List.getElem?_zipIdx, Nat.zero_add, Option.map_eq_some_iff,
    Prod.mk.injEq]
  constructor
  · rintro ⟨k, ⟨_, hline, rfl, rfl⟩, hall⟩
    refine ⟨hline, Nat.le_add_right _ _, fun j other hfrom hto hother => ?_⟩
    obtain ⟨i, rfl⟩ := Nat.exists_eq_add_of_le hfrom
    exact hall i (by omega) (other, top + i) ⟨other, hother, rfl⟩
  · rintro ⟨hline, hfrom, hall⟩
    obtain ⟨k, rfl⟩ := Nat.exists_eq_add_of_le hfrom
    refine ⟨k, ⟨line, hline, rfl, rfl⟩, ?_⟩
    rintro j hj _ ⟨other, hother, rfl⟩
    exact hall (top + j) other (by omega) (by omega) hother

theorem mem_tableRows_iff {lines : List String} {heading : String} {row : Row} :
    row ∈ (tableRows lines heading).2 ↔ InTable lines heading row.line ∧
      ∃ line, lines[row.line]? = some line ∧ row? line row.line = some row := by
  rw [tableRows, InTable]
  cases htop : lines.findIdx? (trimmed · = heading) with
  | none => simp
  | some top =>
      simp only [List.mem_filterMap, Prod.exists]
      constructor
      · rintro ⟨line, n, hmem, hrow⟩
        obtain ⟨hline, hfrom, hall⟩ := (mem_numbered_iff (p := (!endsTable ·))).1 hmem
        simp only [Bool.not_eq_true'] at hall
        obtain rfl : row.line = n := (row?_eq_some_iff.1 hrow).2.2.2.1
        exact ⟨⟨top, rfl, hfrom, hall⟩, line, hline, hrow⟩
      · rintro ⟨⟨_, htop', hfrom, hall⟩, line, hline, hrow⟩
        obtain rfl := Option.some.inj htop'
        refine ⟨line, row.line, (mem_numbered_iff (p := (!endsTable ·))).2 ⟨hline, hfrom, ?_⟩, hrow⟩
        simpa only [Bool.not_eq_true'] using hall

theorem mem_rowTasks_iff {policy : Policy} {lines : List String} {t : Task} :
    t ∈ rowTasks policy lines ↔ ∃ table row,
      t = rowTask policy table (tableRows lines table.heading).1 row ∧
        row ∈ (tableRows lines table.heading).2 ∧ TaskId.isNumbered row.id = false := by
  simp only [rowTasks, tableTasks, List.mem_append, List.mem_map, List.mem_filter,
    Bool.not_eq_true']
  constructor
  · rintro (⟨row, hrow, rfl⟩ | ⟨row, hrow, rfl⟩)
    · exact ⟨.current, row, rfl, hrow⟩
    · exact ⟨.completed, row, rfl, hrow⟩
  · rintro ⟨table, row, rfl, hrow⟩
    cases table with
    | current => exact Or.inl ⟨row, hrow, rfl⟩
    | completed => exact Or.inr ⟨row, hrow, rfl⟩

theorem exists_line_of_mem_rowTasks {policy : Policy} {lines : List String} {t : Task}
    (h : t ∈ rowTasks policy lines) : ∃ n : Nat, t.line = n := by
  obtain ⟨_, row, rfl, -, -⟩ := mem_rowTasks_iff.1 h
  exact ⟨row.line, rfl⟩

/-- Tasks are read from exactly the rows of the two tables. -/
theorem exists_mem_rowTasks_iff (policy : Policy) {lines : List String} {n : Nat} {id : String} :
    (∃ t ∈ rowTasks policy lines, t.line = n ∧ t.id = id) ↔ IsTaskRow lines n id := by
  constructor
  · rintro ⟨t, ht, hn, rfl⟩
    obtain ⟨table, row, rfl, hrow, hnumbered⟩ := mem_rowTasks_iff.1 ht
    obtain ⟨hinTable, line, hline, hread⟩ := mem_tableRows_iff.1 hrow
    obtain ⟨hstarts, hseparator, hid, -, -, more, hcells⟩ := row?_eq_some_iff.1 hread
    obtain rfl : row.line = n := Int.ofNat.inj hn
    exact ⟨⟨table, hinTable⟩, ⟨line, _, more, hline, hstarts, hseparator, hcells⟩, hid, hnumbered⟩
  · intro h
    obtain ⟨table, hinTable⟩ := h.inTable
    obtain ⟨line, description, more, hline, hstarts, hseparator, hcells⟩ := h.firstCell
    let row : Row := ⟨n, id, description, cells line⟩
    have hread : row? line n = some row :=
      row?_eq_some_iff.2 ⟨hstarts, hseparator, h.notEmpty, rfl, rfl, more, hcells⟩
    have hrow : row ∈ (tableRows lines table.heading).2 :=
      mem_tableRows_iff.2 ⟨hinTable, line, hline, hread⟩
    exact ⟨_, mem_rowTasks_iff.2 ⟨table, row, rfl, hrow, h.notSubtask⟩, rfl, rfl⟩

/-! ### The sections of a document -/

/-- Sections are read from exactly the lines that are headings of one. -/
theorem exists_mem_sections_iff (policy : Policy) {lines : List String} {n : Nat} {id : String} :
    (∃ s ∈ sections policy lines, s.start = n ∧ s.id = id) ↔
      ∃ line, lines[n]? = some line ∧ IsTaskHeading line id := by
  simp only [sections, mem_sectionsFrom_iff, isTaskHeading_iff]
  constructor
  · rintro ⟨_, ⟨m, line, chars, title, hline, htitle, rfl⟩, hn, rfl⟩
    obtain rfl : m = n := by simpa [sectionOf] using hn
    exact ⟨line, hline, title, by simpa [sectionOf] using htitle⟩
  · rintro ⟨line, hline, title, htitle⟩
    exact ⟨_, ⟨n, line, id.toList, title, hline, htitle, rfl⟩, by simp [sectionOf],
      by simp [sectionOf]⟩

end TaskAudit.Document
