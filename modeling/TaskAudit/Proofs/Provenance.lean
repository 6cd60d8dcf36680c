import Mathlib.Data.List.Pairwise
import TaskAudit.Document

/-!
# Where the tasks of a document come from

A main task comes from a table row or from the heading of a section, a subtask from a marker in a
section. No two main tasks have one origin, and the lines of two sections do not overlap, so two
tasks can have one origin only as subtasks in a section that two rows of one id share.
-/

namespace TaskAudit.Document

open Text

/-! ### Subtasks -/

section Subtasks

variable {policy : Policy} {category : Option String} {number : Int} {content : List String}
  {t : Task}

/-- A subtask is the one of a marker among some lines, the first of which has a number. -/
structure IsMarked (content : List String) (number : Int) (t : Task) (k : Nat) : Prop where
  line : t.line = number + k
  origin : t.origin = .marker t.line
  kind : t.kind = .subtask
  marker : ∃ line m, content[k]? = some line ∧ marker? line = some m ∧ t.marker = some m
  body : t.marker = some .numbered →
    t.content = (content.drop (k + 1)).takeWhile fun l => (marker? l).isNone

theorem IsMarked.lt_length {k : Nat} (h : IsMarked content number t k) : k < content.length := by
  obtain ⟨_, _, hline, -⟩ := h.marker
  exact (List.getElem?_eq_some_iff.1 hline).1

/-- Every subtask is read from the line of a marker, with the lines up to the next one. -/
theorem exists_line_of_mem_subtasks (h : t ∈ subtasks policy category number content) :
    ∃ (k : Nat) (line : String), content[k]? = some line ∧
      ((marker? line = some .numbered ∧ t = numberedSubtask policy category line
          ((content.drop (k + 1)).takeWhile fun l => (marker? l).isNone) (number + k)) ∨
        (marker? line = some .checkbox ∧
          t = checkboxSubtask policy category line (number + k))) := by
  induction content generalizing number with
  | nil => simp [subtasks] at h
  | cons first rest ih =>
      have hmore : t ∈ subtasks policy category (number + 1) rest → ∃ (k : Nat) (line : String),
          (first :: rest)[k + 1]? = some line ∧
          ((marker? line = some .numbered ∧ t = numberedSubtask policy category line
              (((first :: rest).drop (k + 1 + 1)).takeWhile fun l => (marker? l).isNone)
              (number + (k + 1 : Nat))) ∨
            (marker? line = some .checkbox ∧
              t = checkboxSubtask policy category line (number + (k + 1 : Nat)))) := by
        intro hmem
        obtain ⟨k, line, hline, hread⟩ := ih hmem
        have hplace : number + (k + 1 : Nat) = number + 1 + k := by
          push_cast
          omega
        refine ⟨k, line, hline, ?_⟩
        rwa [hplace, List.drop_succ_cons]
      have hplace : number + (0 : Nat) = number := Int.add_zero number
      simp only [subtasks] at h
      cases hfirst : marker? first with
      | none =>
          rw [hfirst] at h
          obtain ⟨k, hk⟩ := hmore h
          exact ⟨k + 1, hk⟩
      | some marker =>
          have hcases : t = (match marker with
              | .numbered => numberedSubtask policy category first
                  (rest.takeWhile fun l => (marker? l).isNone) number
              | .checkbox => checkboxSubtask policy category first number) ∨
              t ∈ subtasks policy category (number + 1) rest := by
            cases marker <;> simpa only [hfirst, List.mem_cons] using h
          rcases hcases with ht | hmem
          · refine ⟨0, first, rfl, ?_⟩
            rw [hplace]
            cases marker with
            | numbered => exact Or.inl ⟨hfirst, ht⟩
            | checkbox => exact Or.inr ⟨hfirst, ht⟩
          · obtain ⟨k, hk⟩ := hmore hmem
            exact ⟨k + 1, hk⟩

theorem exists_isMarked_of_mem_subtasks (h : t ∈ subtasks policy category number content) :
    ∃ k, IsMarked content number t k := by
  obtain ⟨k, line, hline, ⟨hmarker, rfl⟩ | ⟨hmarker, rfl⟩⟩ := exists_line_of_mem_subtasks h
  · exact ⟨k, rfl, rfl, rfl, ⟨line, _, hline, hmarker, rfl⟩, fun _ => rfl⟩
  · refine ⟨k, rfl, rfl, rfl, ⟨line, _, hline, hmarker, rfl⟩, fun hkind => ?_⟩
    simp [checkboxSubtask] at hkind

theorem pairwise_line_subtasks :
    (subtasks policy category number content).Pairwise fun t u => t.line < u.line := by
  induction content generalizing number with
  | nil => exact List.Pairwise.nil
  | cons first rest ih =>
      have hlater : ∀ u ∈ subtasks policy category (number + 1) rest, number < u.line := by
        intro u hu
        obtain ⟨k, hk⟩ := exists_isMarked_of_mem_subtasks hu
        have := hk.line
        omega
      simp only [subtasks]
      split
      · exact List.Pairwise.cons hlater ih
      · exact List.Pairwise.cons hlater ih
      · exact ih

/-- A subtask is found at one of the lines it is looked for in. -/
theorem exists_place_of_mem_subtasks (h : t ∈ subtasks policy category number content) :
    ∃ place : Int, t.origin = .marker place ∧ t.kind = .subtask ∧ number ≤ place ∧
      place < number + content.length := by
  obtain ⟨k, hk⟩ := exists_isMarked_of_mem_subtasks h
  have hline := hk.line
  have hlt := hk.lt_length
  exact ⟨t.line, hk.origin, hk.kind, by omega, by omega⟩

theorem nodup_origins_subtasks :
    ((subtasks policy category number content).map (·.origin)).Nodup := by
  rw [List.Nodup, List.pairwise_map]
  refine List.Pairwise.imp_of_mem ?_ pairwise_line_subtasks
  intro t u ht hu hlt heq
  obtain ⟨_, hk⟩ := exists_isMarked_of_mem_subtasks ht
  obtain ⟨_, hj⟩ := exists_isMarked_of_mem_subtasks hu
  rw [hk.origin, hj.origin, Origin.marker.injEq] at heq
  omega

end Subtasks

/-! ### Sections -/

theorem isBoundary_of_taskHeading? {line : String} {found : List Char × List Char}
    (h : taskHeading? line = some found) : isBoundary line = true := by
  simp only [taskHeading?, Option.bind_eq_bind, Option.bind_eq_some_iff] at h
  obtain ⟨rest, hrest, -⟩ := h
  rw [isBoundary, after?_eq_some_iff.1 hrest]
  rfl

section Sections

variable {policy : Policy} {number : Nat} {lines : List String} {s : Section}

/-- No section starts before the first boundary. -/
theorem le_start_of_mem_sectionsFrom (h : s ∈ sectionsFrom policy number lines) :
    number + (lines.takeWhile (!isBoundary ·)).length ≤ s.start := by
  induction lines generalizing number with
  | nil => simp [sectionsFrom] at h
  | cons line rest ih =>
      simp only [sectionsFrom] at h
      split at h
      · next hheading =>
        rw [List.takeWhile_cons_of_neg (by simp [isBoundary_of_taskHeading? hheading])]
        rcases List.mem_cons.1 h with rfl | h
        · exact Nat.le_refl _
        · have := ih h
          rw [List.length_nil]
          omega
      · have := ih h
        rw [List.takeWhile_cons]
        split
        · rw [List.length_cons]
          omega
        · rw [List.length_nil]
          omega

/-- A section ends before the next one starts. -/
theorem pairwise_sectionsFrom :
    (sectionsFrom policy number lines).Pairwise
      fun a b => a.start + a.content.length ≤ b.start := by
  induction lines generalizing number with
  | nil => exact List.Pairwise.nil
  | cons line rest ih =>
      simp only [sectionsFrom]
      split
      · refine List.Pairwise.cons (fun b hb => ?_) ih
        have := le_start_of_mem_sectionsFrom hb
        simp only [sectionOf, List.length_cons]
        omega
      · exact ih

/-- Every line that is the heading of a section has one. -/
theorem mem_sectionsFrom_iff :
    s ∈ sectionsFrom policy number lines ↔ ∃ n line id title, lines[n]? = some line ∧
      taskHeading? line = some (id, title) ∧
      s = sectionOf policy (number + n) line id title
        ((lines.drop (n + 1)).takeWhile (!isBoundary ·)) := by
  induction lines generalizing number with
  | nil => simp [sectionsFrom]
  | cons first rest ih =>
      have hmore : s ∈ sectionsFrom policy (number + 1) rest ↔ ∃ n line id title,
          (first :: rest)[n + 1]? = some line ∧ taskHeading? line = some (id, title) ∧
          s = sectionOf policy (number + (n + 1)) line id title
            (((first :: rest).drop (n + 2)).takeWhile (!isBoundary ·)) := by
        simp only [ih, List.getElem?_cons_succ, List.drop_succ_cons, Nat.add_assoc,
          Nat.add_comm 1]
      simp only [sectionsFrom]
      cases hheading : taskHeading? first with
      | none =>
          rw [hmore]
          constructor
          · rintro ⟨n, h⟩
            exact ⟨n + 1, h⟩
          · rintro ⟨n, line, id, title, hline, htitle, hs⟩
            cases n with
            | zero =>
                obtain rfl : first = line := Option.some.inj hline
                simp [hheading] at htitle
            | succ n => exact ⟨n, line, id, title, hline, htitle, hs⟩
      | some found =>
          rw [List.mem_cons, hmore]
          constructor
          · rintro (hs | ⟨n, h⟩)
            · exact ⟨0, first, found.1, found.2, rfl, hheading, hs⟩
            · exact ⟨n + 1, h⟩
          · rintro ⟨n, line, id, title, hline, htitle, hs⟩
            cases n with
            | zero =>
                obtain rfl : first = line := Option.some.inj hline
                obtain rfl : found = (id, title) := Option.some.inj (hheading.symm.trans htitle)
                exact Or.inl hs
            | succ n => exact Or.inr ⟨n, line, id, title, hline, htitle, hs⟩

theorem exists_sectionOf_of_mem_sectionsFrom (h : s ∈ sectionsFrom policy number lines) :
    ∃ heading id title body, s = sectionOf policy s.start heading id title body := by
  obtain ⟨n, line, id, title, -, -, hs⟩ := mem_sectionsFrom_iff.1 h
  have hstart : s.start = number + n := by rw [hs, sectionOf]
  exact ⟨line, id, title, _, hstart ▸ hs⟩

theorem nodup_origins_of_mem_sections (h : s ∈ sections policy lines) :
    (s.subtasks.map (·.origin)).Nodup := by
  obtain ⟨heading, id, title, body, hs⟩ := exists_sectionOf_of_mem_sectionsFrom h
  rw [hs]
  exact nodup_origins_subtasks

theorem pairwise_origin_ne_sections :
    (sections policy lines).Pairwise
      fun a b => ∀ t ∈ a.subtasks, ∀ u ∈ b.subtasks, t.origin ≠ u.origin := by
  have hplaces : ∀ s ∈ sections policy lines, ∀ t ∈ s.subtasks, ∃ place : Int,
      t.origin = .marker place ∧ s.start ≤ place ∧ place < s.start + s.content.length := by
    intro s hs t ht
    obtain ⟨heading, id, title, body, heq⟩ := exists_sectionOf_of_mem_sectionsFrom hs
    rw [heq] at ht ⊢
    obtain ⟨place, horigin, -, hplace⟩ := exists_place_of_mem_subtasks ht
    exact ⟨place, horigin, hplace⟩
  refine List.Pairwise.imp_of_mem ?_ pairwise_sectionsFrom
  intro a b ha hb hbefore t ht u hu heq
  obtain ⟨place, horigin, -, hto⟩ := hplaces a ha t ht
  obtain ⟨place', horigin', hfrom, -⟩ := hplaces b hb u hu
  rw [horigin, horigin', Origin.marker.injEq] at heq
  omega

theorem origin_ne_of_mem_sections {s' : Section} (hs : s ∈ sections policy lines)
    (hs' : s' ∈ sections policy lines) (hne : s ≠ s') :
    ∀ t ∈ s.subtasks, ∀ u ∈ s'.subtasks, t.origin ≠ u.origin := by
  have hsymm : Std.Symm fun a b : Section =>
      ∀ t ∈ a.subtasks, ∀ u ∈ b.subtasks, t.origin ≠ u.origin :=
    ⟨fun a b h t ht u hu => (h u hu t ht).symm⟩
  exact pairwise_origin_ne_sections.forall hs hs' hne

theorem pairwise_start_ne_sections :
    (sections policy lines).Pairwise fun a b => a.start ≠ b.start := by
  refine List.Pairwise.imp_of_mem ?_ pairwise_sectionsFrom
  intro a b ha _ hbefore
  obtain ⟨heading, id, title, body, heq⟩ := exists_sectionOf_of_mem_sectionsFrom ha
  have hcontent : 0 < a.content.length := by
    rw [heq]
    exact Nat.succ_pos _
  omega

end Sections

/-! ### Rows -/

theorem row?_eq_some_iff {line : String} {n : Nat} {row : Row} :
    row? line n = some row ↔ startsRow line = true ∧ isSeparatorRow line = false ∧
      row.id ≠ "" ∧ row.line = n ∧ row.cells = cells line ∧
      ∃ more, cells line = row.id :: row.description :: more := by
  simp only [row?]
  constructor
  · intro h
    split at h
    · simp at h
    · next hform =>
      simp only [Bool.or_eq_true, Bool.not_eq_true', not_or, Bool.not_eq_false,
        Bool.not_eq_true] at hform
      split at h
      · next id description more hcells =>
        rw [Option.ite_none_left_eq_some, Option.some.injEq] at h
        obtain ⟨hid, rfl⟩ := h
        exact ⟨hform.1, hform.2, by simpa using hid, rfl, hcells.symm, more, hcells⟩
      · simp at h
  · obtain ⟨number, id, description, all⟩ := row
    rintro ⟨hstarts, hseparator, hid, rfl, rfl, more, hcells⟩
    simp [hstarts, hseparator, hcells, hid]

theorem pairwise_line_tableRows (lines : List String) (heading : String) :
    (tableRows lines heading).2.Pairwise fun a b => a.line ≠ b.line := by
  simp only [tableRows]
  split
  · exact List.Pairwise.nil
  · next i hi =>
    have hnumbers : lines.zipIdx.Pairwise fun a b => a.2 ≠ b.2 := by
      rw [← List.pairwise_map, List.zipIdx_map_snd]
      exact List.nodup_range'
    have hsub := (List.takeWhile_sublist (fun entry : String × Nat => !endsTable entry.1)).trans
      (List.drop_sublist (i + 3) lines.zipIdx)
    rw [List.pairwise_filterMap]
    refine (hnumbers.sublist hsub).imp ?_
    intro a b hab r hr r' hr'
    rwa [(row?_eq_some_iff.1 hr).2.2.2.1, (row?_eq_some_iff.1 hr').2.2.2.1]

theorem nodup_origins_rowTasks (policy : Policy) (lines : List String) :
    ((rowTasks policy lines).map (·.origin)).Nodup := by
  have htable : ∀ table : TaskTable, ((tableTasks policy table table.heading lines).map
      (·.origin)).Nodup := by
    intro table
    rw [tableTasks, List.map_map, List.Nodup, List.pairwise_map]
    refine ((pairwise_line_tableRows lines table.heading).filter _).imp ?_
    intro a b hab heq
    exact hab (Origin.row.inj heq).2
  rw [rowTasks, List.map_append, List.nodup_append]
  refine ⟨htable .current, htable .completed, ?_⟩
  intro o ho o' ho'
  simp only [tableTasks, List.map_map, List.mem_map, Function.comp_apply, rowTask] at ho ho'
  obtain ⟨row, -, rfl⟩ := ho
  obtain ⟨row', -, rfl⟩ := ho'
  simp

/-! ### Main tasks -/

/-- The origins of main tasks: those of the rows, and the headings of the sections without a row. -/
theorem map_origin_merge (policy : Policy) (rows : List Task) (sections : List Section) :
    (merge policy rows sections).map (·.origin) = rows.map (·.origin) ++
      (sections.filter fun s => !rows.any (·.id = s.id)).map (Origin.header ·.start) := by
  rw [merge, List.map_append, List.map_map, List.map_map]
  congr 1
  refine List.map_congr_left fun row _ => ?_
  simp only [Function.comp_apply]
  split <;> rfl

theorem nodup_origins_tasks (policy : Policy) (lines : List String) :
    ((tasks policy lines).map (·.origin)).Nodup := by
  rw [tasks, map_origin_merge, List.nodup_append]
  refine ⟨nodup_origins_rowTasks policy lines, ?_, ?_⟩
  · rw [List.Nodup, List.pairwise_map]
    refine (pairwise_start_ne_sections.filter _).imp ?_
    intro a b hab heq
    exact hab (Origin.header.inj heq)
  · intro o ho o' ho'
    simp only [rowTasks, tableTasks, List.map_append, List.map_map, List.mem_append, List.mem_map,
      Function.comp_apply, rowTask] at ho ho'
    obtain ⟨s, -, rfl⟩ := ho'
    rcases ho with ⟨row, -, rfl⟩ | ⟨row, -, rfl⟩ <;> simp

theorem origin_ne_of_sublist_tasks {policy : Policy} {lines : List String} {t u : Task}
    (h : [t, u].Sublist (tasks policy lines)) : t.origin ≠ u.origin :=
  List.pairwise_iff_forall_sublist.1 (List.pairwise_map.1 (nodup_origins_tasks policy lines)) h

/-- What is known of a main task of a document. -/
structure MainTask (sections : List Section) (t : Task) : Prop where
  isMain : t.isMain = true
  notMarked : ∀ place, t.origin ≠ .marker place
  /-- Its subtasks are those of a section of its id. -/
  subtasks : t.subtasks = [] ∨ ∃ s ∈ sections, s.id = t.id ∧ t.subtasks = s.subtasks

theorem mainTask_of_mem_rowTasks {policy : Policy} {lines : List String} {t : Task}
    (h : t ∈ rowTasks policy lines) (sections : List Section) : MainTask sections t := by
  rcases List.mem_append.1 h with hmem | hmem
  all_goals
    obtain ⟨row, -, rfl⟩ := List.mem_map.1 hmem
    exact ⟨rfl, by simp [rowTask], Or.inl rfl⟩

/-- A task is one of a row alone, of a row and a section, or of a section without a row. -/
theorem cases_of_mem_tasks {policy : Policy} {lines : List String} {t : Task}
    (h : t ∈ tasks policy lines) :
    t ∈ rowTasks policy lines ∨
    (∃ row ∈ rowTasks policy lines, ∃ s ∈ sections policy lines,
      s.id = row.id ∧ t = mergeRow row s) ∨
    ∃ s ∈ sections policy lines, (∀ row ∈ rowTasks policy lines, row.id ≠ s.id) ∧
      t = standalone policy s := by
  rcases List.mem_append.1 h with hmem | hmem
  · obtain ⟨row, hrow, rfl⟩ := List.mem_map.1 hmem
    cases hfind : (sections policy lines).find? (·.id = row.id) with
    | none => exact Or.inl hrow
    | some s =>
        have hid : s.id = row.id := by simpa using List.find?_some hfind
        exact Or.inr (Or.inl ⟨row, hrow, s, List.mem_of_find?_eq_some hfind, hid, rfl⟩)
  · obtain ⟨s, hs, rfl⟩ := List.mem_map.1 hmem
    obtain ⟨hs, hnone⟩ := List.mem_filter.1 hs
    exact Or.inr (Or.inr ⟨s, hs, by simpa using hnone, rfl⟩)

theorem mainTask_of_mem_tasks {policy : Policy} {lines : List String} {t : Task}
    (h : t ∈ tasks policy lines) : MainTask (sections policy lines) t := by
  rcases cases_of_mem_tasks h with hrow | ⟨row, hrow, s, hs, hid, rfl⟩ | ⟨s, hs, -, rfl⟩
  · exact mainTask_of_mem_rowTasks hrow _
  · have hmain := mainTask_of_mem_rowTasks hrow (sections policy lines)
    exact ⟨hmain.isMain, hmain.notMarked, Or.inr ⟨s, hs, hid, rfl⟩⟩
  · exact ⟨rfl, by simp [standalone], Or.inr ⟨s, hs, rfl, rfl⟩⟩

theorem subtask_of_mem_tasks {policy : Policy} {lines : List String} {t u : Task}
    (h : t ∈ tasks policy lines) (hu : u ∈ t.subtasks) :
    u.isSubtask = true ∧ ∃ place, u.origin = .marker place := by
  rcases (mainTask_of_mem_tasks h).subtasks with hnone | ⟨s, hs, -, hsubtasks⟩
  · simp [hnone] at hu
  · obtain ⟨heading, id, title, body, heq⟩ := exists_sectionOf_of_mem_sectionsFrom hs
    rw [hsubtasks, heq] at hu
    obtain ⟨place, horigin, hkind, -⟩ := exists_place_of_mem_subtasks hu
    exact ⟨by simp [Task.isSubtask, hkind], place, horigin⟩

/-- Two entries have one origin only as subtasks of two main tasks with one id. -/
theorem pairwise_origin_eq (policy : Policy) (lines : List String) :
    ((tasks policy lines).flatMap fun t => t :: t.subtasks).Pairwise fun w w' =>
      w.origin = w'.origin → ∃ t u, [t, u].Sublist (tasks policy lines) ∧ t.id = u.id ∧
        w ∈ t.subtasks ∧ w' ∈ u.subtasks := by
  -- A main task is at a row or a heading, so no subtask is found where it is.
  have hmixed : ∀ t ∈ tasks policy lines, ∀ t' ∈ tasks policy lines, ∀ u ∈ t'.subtasks,
      t.origin ≠ u.origin := by
    intro t ht t' ht' u hu
    obtain ⟨-, place, horigin⟩ := subtask_of_mem_tasks ht' hu
    rw [horigin]
    exact (mainTask_of_mem_tasks ht).notMarked place
  have hsubtasks : ∀ t ∈ tasks policy lines, ∀ t' ∈ tasks policy lines,
      ∀ w ∈ t.subtasks, ∀ w' ∈ t'.subtasks, w.origin = w'.origin → t.id = t'.id := by
    intro t ht t' ht' w hw w' hw' horigin
    rcases (mainTask_of_mem_tasks ht).subtasks with hnone | ⟨s, hs, hid, heq⟩
    · simp [hnone] at hw
    rcases (mainTask_of_mem_tasks ht').subtasks with hnone | ⟨s', hs', hid', heq'⟩
    · simp [hnone] at hw'
    rw [heq] at hw
    rw [heq'] at hw'
    by_contra hne
    refine origin_ne_of_mem_sections hs hs' ?_ w hw w' hw' horigin
    rintro rfl
    exact hne (hid.symm.trans hid')
  rw [List.pairwise_flatMap]
  constructor
  · intro t ht
    refine List.Pairwise.imp (fun hne horigin => absurd horigin hne)
      (List.Pairwise.cons (hmixed t ht t ht) ?_)
    rcases (mainTask_of_mem_tasks ht).subtasks with hnone | ⟨s, hs, -, heq⟩
    · simp [hnone]
    · rw [heq]
      exact List.pairwise_map.1 (nodup_origins_of_mem_sections hs)
  · rw [List.pairwise_iff_forall_sublist]
    intro t t' hsub w hw w' hw' horigin
    have ht : t ∈ tasks policy lines := hsub.subset (by simp)
    have ht' : t' ∈ tasks policy lines := hsub.subset (by simp)
    rcases List.mem_cons.1 hw with rfl | hw
    · rcases List.mem_cons.1 hw' with rfl | hw'
      · exact absurd horigin (origin_ne_of_sublist_tasks hsub)
      · exact absurd horigin (hmixed _ ht _ ht' w' hw')
    · rcases List.mem_cons.1 hw' with rfl | hw'
      · exact absurd horigin (hmixed _ ht' _ ht w hw).symm
      · exact ⟨t, t', hsub, hsubtasks t ht t' ht' w hw w' hw' horigin, hw, hw'⟩

/-- **Entries are told apart by their origins** unless two main tasks have one id. -/
theorem pairwise_origin_ne_of_ids {policy : Policy} {lines : List String}
    (hids : ((tasks policy lines).map (·.id)).Nodup) :
    ((tasks policy lines).flatMap fun t => t :: t.subtasks).Pairwise
      fun t u => t.origin ≠ u.origin := by
  refine (pairwise_origin_eq policy lines).imp fun hshared horigin => ?_
  obtain ⟨t, u, hsub, hid, -⟩ := hshared horigin
  exact List.pairwise_iff_forall_sublist.1 (List.pairwise_map.1 hids) hsub hid

/-- What is read from the lines of a document. -/
def listOfLines (policy : Policy) (lines : List String) (path : Option String) : TaskList where
  tasks := tasks policy lines
  references := referenceBlocks lines
  path
  totalLines := lines.length
  lines

/-- A text that is written line by line is read back from its lines. -/
theorem ofText?_intercalate {policy : Policy} {lines : List String} (path : Option String)
    (hbreaks : ∀ line ∈ lines, ∀ c ∈ line.toList, isLineBreak c = false)
    (htasks : tasks policy lines ≠ []) :
    TaskList.ofText? policy ("\n".intercalate (lines ++ [""])) path =
      some (listOfLines policy lines path) := by
  rw [TaskList.ofText?, lines_intercalate hbreaks]
  exact if_neg (by simpa using htasks)

theorem lines_tasks_of_ofText? {policy : Policy} {text : String} {path : Option String}
    {l : TaskList} (h : TaskList.ofText? policy text path = some l) :
    l.lines = Text.lines text ∧ l.tasks = tasks policy (Text.lines text) := by
  rw [TaskList.ofText?, Option.ite_none_left_eq_some, Option.some.injEq] at h
  rw [← h.2]
  exact ⟨rfl, rfl⟩

end TaskAudit.Document
