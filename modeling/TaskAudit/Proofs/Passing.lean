import TaskAudit.Check.Kpi
import TaskAudit.Proofs.Provenance

/-!
# Lines that readers pass over

Every reader of lines goes through them in order and acts on the lines of one form. Lines of another
form change nothing of what it finds behind them, but for the line numbers.
-/

namespace TaskAudit

open Text Document Content

/-! ### Runs -/

section Runs

variable {α : Type} {p : α → Bool} {run rest : List α}

/-- A run stops where the next element ends it. -/
theorem stops_at_cons {a : α} (ha : p a = false) (rest : List α) :
    ∀ b, (a :: rest).head? = some b → p b = false := by
  intro b hb
  rw [List.head?_cons, Option.some.injEq] at hb
  rw [← hb, ha]

variable (hrun : ∀ a ∈ run, p a = true) (hrest : ∀ a, rest.head? = some a → p a = false)

include hrun hrest

theorem takeWhile_run : (run ++ rest).takeWhile p = run := by
  rw [List.takeWhile_append_of_pos hrun]
  cases rest with
  | nil => simp
  | cons a rest => simp [hrest a rfl]

theorem dropWhile_run : (run ++ rest).dropWhile p = rest := by
  rw [List.dropWhile_append_of_pos hrun]
  cases rest with
  | nil => rfl
  | cons a rest => simp [hrest a rfl]

end Runs

variable {line : String} {before body rest : List String}

/-! ### Fields and sections of a task -/

namespace Document

theorem field?_append {label : String}
    (h : ∀ line ∈ before, labelled? label.toList line.toList = none) :
    field? label (before ++ rest) = field? label rest := by
  induction before with
  | nil => rfl
  | cons line before ih =>
      obtain ⟨hline, hbefore⟩ := List.forall_mem_cons.1 h
      rw [List.cons_append, field?, hline]
      exact ih hbefore

theorem parentLines_append (h : ∀ line ∈ before, marker? line = none) :
    parentLines (before ++ rest) = before ++ parentLines rest := by
  rw [parentLines]
  induction before with
  | nil => rfl
  | cons line before ih =>
      obtain ⟨hline, hbefore⟩ := List.forall_mem_cons.1 h
      rw [List.cons_append, parentLinesAfter, hline, List.cons_append]
      exact congrArg (line :: ·) (ih hbefore)

/-- What follows a numbered subtask belongs to it or to other subtasks, if there is no checkbox. -/
theorem parentLines_of_numbered (hline : marker? line = some .numbered)
    (h : ∀ line ∈ rest, marker? line ≠ some .checkbox) : parentLines (line :: rest) = [] := by
  rw [parentLines, parentLinesAfter, hline]
  show parentLinesAfter true rest = []
  clear hline
  induction rest with
  | nil => rfl
  | cons next rest ih =>
      obtain ⟨hnext, hrest⟩ := List.forall_mem_cons.1 h
      rw [parentLinesAfter]
      split
      · exact ih hrest
      · next hcheckbox => exact absurd hcheckbox hnext
      · exact ih hrest

theorem subtasks_append {policy : Policy} {category : Option String} {number : Int}
    (h : ∀ line ∈ before, marker? line = none) :
    subtasks policy category number (before ++ rest) =
      subtasks policy category (number + before.length) rest := by
  induction before generalizing number with
  | nil => simp
  | cons line before ih =>
      obtain ⟨hline, hbefore⟩ := List.forall_mem_cons.1 h
      rw [List.cons_append, subtasks, hline, List.length_cons]
      simp only [ih hbefore]
      congr 1
      omega

/-- The lines of a numbered subtask end at the next marker. -/
theorem subtasks_numbered {policy : Policy} {category : Option String} {number : Int}
    (hline : marker? line = some .numbered) (hbody : ∀ line ∈ body, marker? line = none)
    (hrest : ∀ next, rest.head? = some next → marker? next ≠ none) :
    subtasks policy category number (line :: body ++ rest) =
      numberedSubtask policy category line body number ::
        subtasks policy category (number + 1 + body.length) rest := by
  have hblock : (body ++ rest).takeWhile (fun l => (marker? l).isNone) = body := by
    refine takeWhile_run (fun l hl => by rw [hbody l hl]; rfl) fun next hnext => ?_
    rw [Option.isNone_eq_false_iff, Option.isSome_iff_ne_none]
    exact hrest next hnext
  rw [List.cons_append, subtasks, hline]
  simp only [hblock, subtasks_append hbody]

/-! ### Sections and definitions of a document -/

theorem definedName?_of_not_isLevelTwo (h : isLevelTwo line = false) :
    definedName? line = none := by
  rw [isLevelTwo, Option.isSome_eq_false_iff, Option.isNone_iff_eq_none] at h
  rw [definedName?, h]
  rfl

theorem isLevelTwo_of_not_isBoundary (h : isBoundary line = false) : isLevelTwo line = false := by
  rw [← Bool.not_eq_true, isLevelTwo, Option.isSome_iff_exists]
  rintro ⟨rest, hrest⟩
  have hboundary : isBoundary line = true := by
    rw [isBoundary, after?_eq_some_iff.1 hrest]
    rfl
  simp [h] at hboundary

theorem sectionsFrom_append {policy : Policy} {number : Nat}
    (h : ∀ line ∈ before, taskHeading? line = none) :
    sectionsFrom policy number (before ++ rest) =
      sectionsFrom policy (number + before.length) rest := by
  induction before generalizing number with
  | nil => rfl
  | cons line before ih =>
      obtain ⟨hline, hbefore⟩ := List.forall_mem_cons.1 h
      rw [List.cons_append, sectionsFrom, hline, List.length_cons]
      simp only [ih hbefore]
      congr 1
      omega

/-- A section ends before the next boundary. -/
theorem sectionsFrom_heading {policy : Policy} {number : Nat} {id title : List Char}
    (hline : taskHeading? line = some (id, title))
    (hbody : ∀ line ∈ body, isBoundary line = false)
    (hrest : ∀ next, rest.head? = some next → isBoundary next = true) :
    sectionsFrom policy number (line :: body ++ rest) =
      sectionOf policy number line id title body ::
        sectionsFrom policy (number + 1 + body.length) rest := by
  have htake : (body ++ rest).takeWhile (!isBoundary ·) = body := by
    apply takeWhile_run
    · exact fun l hl => Bool.not_eq_true' _ ▸ hbody l hl
    · exact fun next hnext => Bool.not_eq_false' _ ▸ hrest next hnext
  have hnone : ∀ line ∈ body, taskHeading? line = none := by
    intro l hl
    rw [Option.eq_none_iff_forall_ne_some]
    intro found hfound
    have := isBoundary_of_taskHeading? hfound
    simp [hbody l hl] at this
  rw [List.cons_append, sectionsFrom, hline]
  simp only [htake, sectionsFrom_append hnone]

theorem definitionsFrom_append {number : Nat} (h : ∀ line ∈ before, definedName? line = none) :
    definitionsFrom number (before ++ rest) = definitionsFrom (number + before.length) rest := by
  induction before generalizing number with
  | nil => rfl
  | cons line before ih =>
      obtain ⟨hline, hbefore⟩ := List.forall_mem_cons.1 h
      rw [List.cons_append, definitionsFrom, hline, List.length_cons]
      simp only [ih hbefore]
      congr 1
      omega

/-- The block of a definition ends before the next heading of level two. -/
theorem definitionsFrom_define {number : Nat} {name : String}
    (hline : definedName? line = some name) (hbody : ∀ line ∈ body, isLevelTwo line = false)
    (hrest : ∀ next, rest.head? = some next → isLevelTwo next = true) :
    definitionsFrom number (line :: body ++ rest) =
      ⟨name, number, body⟩ :: definitionsFrom (number + 1 + body.length) rest := by
  have htake : (body ++ rest).takeWhile (!isLevelTwo ·) = body := by
    apply takeWhile_run
    · exact fun l hl => Bool.not_eq_true' _ ▸ hbody l hl
    · exact fun next hnext => Bool.not_eq_false' _ ▸ hrest next hnext
  have hnone : ∀ line ∈ body, definedName? line = none := fun l hl =>
    definedName?_of_not_isLevelTwo (hbody l hl)
  rw [List.cons_append, definitionsFrom, hline]
  simp only [htake, definitionsFrom_append hnone]

end Document

/-! ### Metrics and complexity -/

namespace Content

theorem sectionBlock?_append {name : String} (h : ∀ line ∈ before, afterName? name line = none) :
    sectionBlock? name (before ++ rest) = sectionBlock? name rest := by
  induction before with
  | nil => rfl
  | cons line before ih =>
      obtain ⟨hline, hbefore⟩ := List.forall_mem_cons.1 h
      rw [List.cons_append, sectionBlock?, hline]
      exact ih hbefore

end Content

end TaskAudit
