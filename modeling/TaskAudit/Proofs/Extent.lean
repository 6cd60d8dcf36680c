import TaskAudit.Proofs.Merge

/-!
# The lines of tasks

A main task stands at the row or at the heading that names it, and has the lines of one section or
none. The sections of a document do not overlap, so two tasks have lines in common only as two rows
of one id, which share the section of that id. Within a section the lines of a numbered subtask
reach from its marker to the next one.
-/

namespace TaskAudit.Document

open Text

/-- A range of lines without a line that ends it, and behind it such a line or no line at all. -/
structure EndsAtNext (isEnd : String → Prop) (lines : List String) (start stop : Nat) : Prop where
  start_le : start ≤ stop
  stop_le : stop ≤ lines.length
  inside : ∀ n line, start ≤ n → n < stop → lines[n]? = some line → ¬ isEnd line
  behind : ∀ line, lines[stop]? = some line → isEnd line

def IsMarker (line : String) : Prop := (marker? line).isSome = true

/-- A subtask stands at its marker, and a numbered one has the lines up to the next marker or the
end of the section. -/
structure IsSubtaskAt (lines : List String) (stop : Nat) (u : Task) (n : Nat) : Prop where
  line : u.line = n
  marker : ∃ line, lines[n]? = some line ∧ IsMarker line ∧ marker? line = u.marker
  content : u.marker = some .numbered → ∃ last, u.content = lines.extract (n + 1) last ∧
    EndsAtNext IsMarker (lines.take stop) (n + 1) last

/-- A task has the lines of a section with its id and the subtasks that are marked there. -/
structure IsReadFrom (lines : List String) (t : Task) (start stop : Nat) : Prop where
  content : t.content = lines.extract start stop
  heading : ∃ line, lines[start]? = some line ∧ IsTaskHeading line t.id
  extent : EndsAtNext IsTopHeading lines (start + 1) stop
  subtasks : ∀ u ∈ t.subtasks, ∃ k, k < t.content.length ∧ IsSubtaskAt lines stop u (start + k)
  increasing : t.subtasks.Pairwise fun u v => u.line < v.line

/-- A task stands at a row of a task table that begins with its id. -/
def IsAtRow (lines : List String) (t : Task) : Prop := ∃ n : Nat, t.line = n ∧ IsTaskRow lines n t.id

/-- A task stands at the heading of a section of its id. -/
def IsAtHeading (lines : List String) (t : Task) : Prop :=
  ∃ (n : Nat) (line : String), t.line = n ∧ lines[n]? = some line ∧ IsTaskHeading line t.id

/-- A line of the document is a line of both tasks. -/
def ShareLine (start : Task → Nat) (t u : Task) : Prop :=
  ∃ n, start t ≤ n ∧ n < start t + t.content.length ∧ start u ≤ n ∧ n < start u + u.content.length

/-! ### Ranges of lines -/

theorem extract_eq_drop_take {lines : List String} {start stop : Nat} :
    lines.extract start stop = (lines.take stop).drop start := by
  rw [List.extract_eq_take_drop, List.drop_take]

theorem extract_take_eq {lines : List String} {start last stop : Nat} (h : last ≤ stop) :
    (lines.take stop).extract start last = lines.extract start last := by
  rw [extract_eq_drop_take, List.take_take, Nat.min_eq_left h, extract_eq_drop_take]

theorem extract_eq_cons {lines : List String} {line : String} {start stop : Nat}
    (hline : lines[start]? = some line) (h : start < stop) :
    lines.extract start stop = line :: lines.extract (start + 1) stop := by
  obtain ⟨hlt, rfl⟩ := List.getElem?_eq_some_iff.1 hline
  obtain ⟨k, rfl⟩ := Nat.exists_eq_add_of_lt h
  rw [List.extract_eq_take_drop, List.drop_eq_getElem_cons hlt, Nat.add_assoc,
    Nat.add_sub_cancel_left, List.take_succ_cons, List.extract_eq_take_drop]
  congr 2
  omega

theorem EndsAtNext.not_lt {isEnd : String → Prop} {lines : List String} {start stop stop' : Nat}
    (h : EndsAtNext isEnd lines start stop) (h' : EndsAtNext isEnd lines start stop') :
    ¬ stop < stop' := by
  intro hlt
  have hline := List.getElem?_eq_getElem (Nat.lt_of_lt_of_le hlt h'.stop_le)
  exact h'.inside stop _ h.start_le hlt hline (h.behind _ hline)

/-- From a given line on there is one place to end. -/
theorem EndsAtNext.unique {isEnd : String → Prop} {lines : List String} {start stop stop' : Nat}
    (h : EndsAtNext isEnd lines start stop) (h' : EndsAtNext isEnd lines start stop') :
    stop = stop' :=
  Nat.le_antisymm (Nat.not_lt.1 (h'.not_lt h)) (Nat.not_lt.1 (h.not_lt h'))

theorem exists_endsAtNext_takeWhile {lines : List String} {p : String → Bool}
    {isEnd : String → Prop} {start : Nat} (hp : ∀ line, p line = false ↔ isEnd line)
    (hstart : start ≤ lines.length) :
    ∃ stop, stop = start + ((lines.drop start).takeWhile p).length ∧
      (lines.drop start).takeWhile p = lines.extract start stop ∧
      EndsAtNext isEnd lines start stop := by
  have hsplit := List.takeWhile_append_dropWhile (p := p) (l := lines.drop start)
  have hprefix := List.takeWhile_prefix p (l := lines.drop start)
  refine ⟨_, rfl, ?_, Nat.le_add_right _ _, ?_, ?_, ?_⟩
  · rw [List.extract_eq_take_drop, Nat.add_sub_cancel_left]
    exact List.prefix_iff_eq_take.1 hprefix
  · have hlength := hprefix.length_le
    rw [List.length_drop] at hlength
    omega
  · intro n line hfrom hto hline hend
    obtain ⟨k, rfl⟩ := Nat.exists_eq_add_of_le hfrom
    have hk : ((lines.drop start).takeWhile p)[k]? = some line := by
      rw [← List.getElem?_append_left (by omega), hsplit, List.getElem?_drop, hline]
    have hline := List.mem_takeWhile_imp (List.mem_of_getElem? hk)
    rw [(hp line).2 hend] at hline
    exact Bool.false_ne_true hline
  · intro line hline
    have hhead : ((lines.drop start).dropWhile p).head? = some line := by
      calc ((lines.drop start).dropWhile p).head?
          = ((lines.drop start).takeWhile p ++ (lines.drop start).dropWhile p)[
              ((lines.drop start).takeWhile p).length]? := by
            rw [List.getElem?_append_right (Nat.le_refl _), Nat.sub_self, List.head?_eq_getElem?]
        _ = some line := by rw [hsplit, List.getElem?_drop, hline]
    have hnot := List.head?_dropWhile_not p (lines.drop start)
    rw [hhead] at hnot
    exact (hp line).1 hnot

/-! ### Sections -/

section Sections

variable {policy : Policy} {lines : List String}

theorem isSubtaskAt_of_isMarked {start stop k : Nat} {u : Task}
    (hk : IsMarked (lines.extract start stop) start u k) :
    IsSubtaskAt lines stop u (start + k) := by
  rw [extract_eq_drop_take] at hk
  obtain ⟨line, m, hline, hread, hm⟩ := hk.marker
  have hmarker : IsMarker line := by rw [IsMarker, hread, Option.isSome_some]
  rw [List.getElem?_drop] at hline
  have hlt : start + k < (lines.take stop).length := (List.getElem?_eq_some_iff.1 hline).1
  refine ⟨?_, ⟨line, ?_, hmarker, hread.trans hm.symm⟩, fun hkind => ?_⟩
  · rw [hk.line]
    push_cast
    rfl
  · rwa [List.getElem?_take_of_lt (hlt.trans_le (List.length_take_le _ _))] at hline
  · have hend : ∀ line, (marker? line).isNone = false ↔ IsMarker line := fun line => by
      rw [Option.isNone_eq_false_iff, IsMarker]
    obtain ⟨last, -, htake, hends⟩ :=
      exists_endsAtNext_takeWhile hend (show start + k + 1 ≤ (lines.take stop).length from hlt)
    refine ⟨last, ?_, hends⟩
    rw [hk.body hkind, List.drop_drop, ← Nat.add_assoc, htake,
      extract_take_eq (hends.stop_le.trans (List.length_take_le _ _))]

/-- What is read from a section is read from its lines, and its subtasks from markers there. -/
theorem isReadFrom_of_mem_sections {s : Section} (h : s ∈ sections policy lines) {t : Task}
    (hid : t.id = s.id) (hcontent : t.content = s.content) (hsubtasks : t.subtasks = s.subtasks) :
    IsReadFrom lines t s.start (s.start + s.content.length) := by
  obtain ⟨n, line, id, title, hline, htitle, rfl⟩ := mem_sectionsFrom_iff.1 h
  obtain ⟨hlt, -⟩ := List.getElem?_eq_some_iff.1 hline
  have hend : ∀ line, (!isBoundary line) = false ↔ IsTopHeading line := fun line => by
    rw [Bool.not_eq_false', isBoundary_iff]
  obtain ⟨stop, hlength, htake, hends⟩ :=
    exists_endsAtNext_takeWhile hend (show n + 1 ≤ lines.length from hlt)
  simp only [sectionOf, Nat.zero_add, List.length_cons] at hid hcontent hsubtasks ⊢
  have hextract : t.content = lines.extract n stop := by
    rw [hcontent, htake, extract_eq_cons hline hends.start_le]
  have hmarked : ∀ u ∈ t.subtasks, ∃ k, IsMarked (lines.extract n stop) n u k := by
    rw [hsubtasks, ← hcontent, hextract]
    exact fun u hu => exists_isMarked_of_mem_subtasks hu
  have hstop : n + (((lines.drop (n + 1)).takeWhile (!isBoundary ·)).length + 1) = stop := by omega
  rw [hstop]
  refine ⟨hextract, ⟨line, hline, ?_⟩, hends, fun u hu => ?_, ?_⟩
  · rw [isTaskHeading_iff, hid, String.toList_ofList]
    exact ⟨title, htitle⟩
  · obtain ⟨k, hk⟩ := hmarked u hu
    rw [hextract]
    exact ⟨k, hk.lt_length, isSubtaskAt_of_isMarked hk⟩
  · rw [hsubtasks]
    exact pairwise_line_subtasks

end Sections

/-! ### Tasks -/

section Tasks

variable {policy : Policy} {lines : List String} {t u : Task} {s s' : Section}

/-- A task has the lines and the subtasks of a section of its id. One that stands at a heading has
those of that heading, also where another section says the same. -/
structure HasSection (policy : Policy) (lines : List String) (t : Task) (s : Section) : Prop where
  mem : s ∈ sections policy lines
  id : t.id = s.id
  content : t.content = s.content
  subtasks : t.subtasks = s.subtasks
  header : ∀ n, t.origin = .header n → n = s.start

theorem HasSection.isReadFrom (h : HasSection policy lines t s) :
    IsReadFrom lines t s.start (s.start + t.content.length) := by
  rw [h.content]
  exact isReadFrom_of_mem_sections h.mem h.id h.content h.subtasks

theorem isAtRow_of_mem_rowTasks {row : Task} (hrow : row ∈ rowTasks policy lines)
    (hid : t.id = row.id) (hline : t.line = row.line) : IsAtRow lines t := by
  obtain ⟨n, hn⟩ := exists_line_of_mem_rowTasks hrow
  exact ⟨n, hline.trans hn, (exists_mem_rowTasks_iff policy).1 ⟨row, hrow, hn, hid.symm⟩⟩

theorem isAtHeading_standalone (hs : s ∈ sections policy lines) :
    IsAtHeading lines (standalone policy s) := by
  obtain ⟨line, hline, hheading⟩ := (exists_mem_sections_iff policy).1 ⟨s, hs, rfl, rfl⟩
  exact ⟨s.start, line, rfl, hline, hheading⟩

theorem isAt_of_mem_tasks (h : t ∈ tasks policy lines) :
    IsAtRow lines t ∨ IsAtHeading lines t := by
  rcases cases_of_mem_tasks h with hrow | ⟨row, hrow, s, -, -, rfl⟩ | ⟨s, hs, -, rfl⟩
  · exact Or.inl (isAtRow_of_mem_rowTasks hrow rfl rfl)
  · exact Or.inl (isAtRow_of_mem_rowTasks hrow rfl rfl)
  · exact Or.inr (isAtHeading_standalone hs)

theorem hasSection_of_mem_tasks (h : t ∈ tasks policy lines) :
    (t.content = [] ∧ t.subtasks = []) ∨ ∃ s, HasSection policy lines t s := by
  rcases cases_of_mem_tasks h with hrow | ⟨row, hrow, s, hs, hid, rfl⟩ | ⟨s, hs, -, rfl⟩
  · obtain ⟨_, _, rfl, -⟩ := mem_rowTasks_iff.1 hrow
    exact Or.inl ⟨rfl, rfl⟩
  · obtain ⟨_, _, rfl, -⟩ := mem_rowTasks_iff.1 hrow
    exact Or.inr ⟨s, hs, hid.symm, rfl, rfl, fun n hn => by simp [mergeRow, rowTask] at hn⟩
  · exact Or.inr ⟨s, hs, rfl, rfl, rfl, fun n hn => (Origin.header.inj hn).symm⟩

/-- Sections with a line in common are one. -/
theorem eq_of_mem_sections (hs : s ∈ sections policy lines) (hs' : s' ∈ sections policy lines)
    {n : Nat} (hn : s.start ≤ n ∧ n < s.start + s.content.length)
    (hn' : s'.start ≤ n ∧ n < s'.start + s'.content.length) : s = s' := by
  have hsymm : Std.Symm fun a b : Section =>
      a.start + a.content.length ≤ b.start ∨ b.start + b.content.length ≤ a.start :=
    ⟨fun a b h => h.symm⟩
  have hapart : (sections policy lines).Pairwise fun a b =>
      a.start + a.content.length ≤ b.start ∨ b.start + b.content.length ≤ a.start :=
    pairwise_sectionsFrom.imp Or.inl
  by_contra hne
  cases hapart.forall hs hs' hne with
  | inl h => omega
  | inr h => omega

/-- A task without a row has its section for itself. -/
theorem isAtRow_of_hasSection (ht : t ∈ tasks policy lines) (hu : u ∈ tasks policy lines)
    (hne : t.origin ≠ u.origin) (hts : HasSection policy lines t s)
    (hus : HasSection policy lines u s) : IsAtRow lines t := by
  rcases cases_of_mem_tasks ht with hrow | ⟨row, hrow, _, -, -, rfl⟩ | ⟨a, -, hnone, rfl⟩
  · exact isAtRow_of_mem_rowTasks hrow rfl rfl
  · exact isAtRow_of_mem_rowTasks hrow rfl rfl
  · exfalso
    have hid : u.id = a.id := hus.id.trans hts.id.symm
    rcases cases_of_mem_tasks hu with hrow | ⟨row, hrow, _, -, -, rfl⟩ | ⟨b, -, -, rfl⟩
    · exact hnone u hrow hid
    · exact hnone row hrow hid
    · apply hne
      have hstart : a.start = b.start := by rw [hts.header _ rfl, hus.header _ rfl]
      rw [standalone, standalone, hstart]

theorem exists_start (policy : Policy) (lines : List String) : ∃ start : Task → Nat,
    ∀ t ∈ tasks policy lines, (t.content = [] ∧ t.subtasks = []) ∨
      ∃ s, HasSection policy lines t s ∧ start t = s.start := by
  have hchoice : ∀ t, ∃ n, t ∈ tasks policy lines → (t.content = [] ∧ t.subtasks = []) ∨
      ∃ s, HasSection policy lines t s ∧ n = s.start := by
    intro t
    by_cases ht : t ∈ tasks policy lines
    · rcases hasSection_of_mem_tasks ht with hnone | ⟨s, hs⟩
      · exact ⟨0, fun _ => Or.inl hnone⟩
      · exact ⟨s.start, fun _ => Or.inr ⟨s, hs, rfl⟩⟩
    · exact ⟨0, fun hmem => absurd hmem ht⟩
  choose start hstart using hchoice
  exact ⟨start, hstart⟩

end Tasks

/-- **Every task tells where it is from.** It stands at the row or heading that names it; its lines
are those of a section of its id, its subtasks are at their markers there, and no line is of two
tasks unless both are rows of one id. -/
theorem exists_extents_of_text {policy : Policy} {text : String} {path : Option String}
    {l : TaskList} (h : TaskList.ofText? policy text path = some l) :
    l.lines = Text.lines text ∧ ∃ start : Task → Nat,
      (∀ t ∈ l.tasks, (IsAtRow l.lines t ∨ IsAtHeading l.lines t) ∧
        ((t.content = [] ∧ t.subtasks = []) ∨
          IsReadFrom l.lines t (start t) (start t + t.content.length))) ∧
      l.tasks.Pairwise fun t u => ShareLine start t u →
        t.id = u.id ∧ IsAtRow l.lines t ∧ IsAtRow l.lines u := by
  obtain ⟨hlines, htasks⟩ := lines_tasks_of_ofText? h
  rw [htasks, hlines]
  obtain ⟨start, hstart⟩ := exists_start policy (Text.lines text)
  refine ⟨rfl, start, fun t ht => ⟨isAt_of_mem_tasks ht, ?_⟩, ?_⟩
  · cases hstart t ht with
    | inl hnone => exact Or.inl hnone
    | inr hsection =>
        obtain ⟨s, hs, hplace⟩ := hsection
        rw [hplace]
        exact Or.inr hs.isReadFrom
  · refine (List.pairwise_map.1 (nodup_origins_tasks policy _)).imp_of_mem ?_
    -- A line in common makes the two sections one, and only rows share a section.
    rintro t u ht hu hne ⟨n, htfrom, htto, hufrom, huto⟩
    rcases hstart t ht with ⟨hempty, -⟩ | ⟨s, hts, hplace⟩
    · rw [hempty, List.length_nil] at htto
      omega
    rcases hstart u hu with ⟨hempty, -⟩ | ⟨s', hus, hplace'⟩
    · rw [hempty, List.length_nil] at huto
      omega
    rw [hplace, hts.content] at htto
    rw [hplace', hus.content] at huto
    obtain rfl := eq_of_mem_sections hts.mem hus.mem ⟨hplace ▸ htfrom, htto⟩ ⟨hplace' ▸ hufrom, huto⟩
    exact ⟨hts.id.trans hus.id.symm, isAtRow_of_hasSection ht hu hne hts hus,
      isAtRow_of_hasSection hu ht hne.symm hus hts⟩

/-- The lines of a document with two rows of one id and a section of it. -/
def sharedSection : List String :=
  ["## Current Tasks", "| ID | Work |", "|----|------|", "| AB0001 | Plan |",
    "| AB0001 | Plan again |", "", "### AB0001: Plan", "#### 1. Draft (AB0001-1)",
    "A line of it", "- [x] Read [AB0001a]"]

def sharedSectionList : TaskList := listOfLines .standard sharedSection none

theorem ofText?_sharedSection :
    TaskList.ofText? .standard ("\n".intercalate (sharedSection ++ [""])) none =
      some sharedSectionList := by
  have hbreaks : ∀ line ∈ sharedSection, IsUnbroken line := by decide +kernel
  have hsome : tasks .standard sharedSection ≠ [] := by
    rw [ne_eq, ← List.isEmpty_iff]
    decide +kernel
  exact ofText?_intercalate none hbreaks hsome

theorem exists_extents_sharedSection : ∃ l,
    TaskList.ofText? .standard ("\n".intercalate (sharedSection ++ [""])) none = some l ∧
    l.tasks.map (fun t => (t.id, t.content.length)) = [("AB0001", 4), ("AB0001", 4)] ∧
    l.lines = Text.lines ("\n".intercalate (sharedSection ++ [""])) ∧ ∃ start : Task → Nat,
      (∀ t ∈ l.tasks, (IsAtRow l.lines t ∨ IsAtHeading l.lines t) ∧
        ((t.content = [] ∧ t.subtasks = []) ∨
          IsReadFrom l.lines t (start t) (start t + t.content.length))) ∧
      l.tasks.Pairwise fun t u => ShareLine start t u →
        t.id = u.id ∧ IsAtRow l.lines t ∧ IsAtRow l.lines u := by
  have hbreaks : ∀ line ∈ sharedSection, IsUnbroken line := by decide +kernel
  have htasks : (tasks .standard sharedSection).map (fun t => (t.id, t.content.length)) =
      [("AB0001", 4), ("AB0001", 4)] := by decide +kernel
  have hsome : tasks .standard sharedSection ≠ [] := fun hnone => by simp [hnone] at htasks
  have hread := ofText?_intercalate none hbreaks hsome
  exact ⟨_, hread, htasks, exists_extents_of_text hread⟩

end TaskAudit.Document
