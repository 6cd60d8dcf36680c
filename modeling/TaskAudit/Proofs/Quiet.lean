import TaskAudit.Check.Kpi
import TaskAudit.Document
import TaskAudit.Text.Lines

/-!
# Quiet lines

Whatever reads a document looks for marks: number signs, asterisks, braces and opening brackets. A
line without them says nothing to any of its readers, and such lines can be passed over. Some other
lines are passed over by the readers of a task's last fields only.
-/

namespace TaskAudit

open Text Document

namespace Text

theorem after?_eq_none_of_not_mem {beginning cs : List Char} {c : Char} (hc : c ∈ beginning)
    (h : c ∉ cs) : after? beginning cs = none := by
  rw [Option.eq_none_iff_forall_ne_some]
  intro rest hrest
  rw [after?_eq_some_iff] at hrest
  exact h (hrest ▸ List.mem_append_left _ hc)

theorem after?_append (beginning rest : List Char) :
    after? beginning (beginning ++ rest) = some rest :=
  after?_eq_some_iff.2 rfl

theorem mem_of_mem_dropEndWhile {p : Char → Bool} {cs : List Char} {c : Char}
    (h : c ∈ dropEndWhile p cs) : c ∈ cs := by
  have := (List.dropWhile_suffix p).subset (List.mem_reverse.1 h)
  exact List.mem_reverse.1 this

theorem mem_of_mem_trim {cs : List Char} {c : Char} (h : c ∈ trim cs) : c ∈ cs :=
  (List.dropWhile_suffix isBlank).subset (mem_of_mem_dropEndWhile h)

/-- What is not blank is left by trimming. -/
theorem mem_trim_of_mem {cs : List Char} {c : Char} (h : c ∈ cs) (hc : isBlank c = false) :
    c ∈ trim cs := by
  have hstart : ∀ {cs : List Char}, c ∈ cs → c ∈ cs.dropWhile isBlank := by
    intro cs hmem
    rw [← List.takeWhile_append_dropWhile (p := isBlank) (l := cs), List.mem_append] at hmem
    refine hmem.resolve_left fun htake => ?_
    have hblank : isBlank c = true := List.all_eq_true.1 List.all_takeWhile c htake
    exact Bool.false_ne_true (hc.symm.trans hblank)
  exact List.mem_reverse.2 (hstart (List.mem_reverse.2 (hstart h)))

/-- A character that neither marks anything nor breaks a line. -/
def isQuietChar (c : Char) : Bool :=
  c ≠ '#' && c ≠ '*' && c ≠ '{' && c ≠ '[' && !isLineBreak c

theorem isQuietChar_of_toNat {c : Char} (h : c.toNat = 32 ∨ (48 ≤ c.toNat ∧ c.toNat ≤ 90) ∨
    (97 ≤ c.toNat ∧ c.toNat ≤ 122)) : isQuietChar c = true := by
  have hne : ∀ d : Char, d.toNat = 35 ∨ d.toNat = 42 ∨ d.toNat = 123 ∨ d.toNat = 91 → c ≠ d := by
    rintro d hd rfl
    omega
  have hbreak : isLineBreak c = false := by
    simp only [isLineBreak, Bool.or_eq_false_iff, Bool.and_eq_false_iff, decide_eq_false_iff_not,
      beq_eq_false_iff_ne]
    omega
  simp [isQuietChar, hne '#' (by decide), hne '*' (by decide), hne '{' (by decide),
    hne '[' (by decide), hbreak]

def IsQuiet (s : String) : Prop := ∀ c ∈ s.toList, isQuietChar c = true

def IsUnbroken (s : String) : Prop := ∀ c ∈ s.toList, isLineBreak c = false

instance (s : String) : Decidable (IsUnbroken s) :=
  List.decidableBAll (fun c => isLineBreak c = false) s.toList

/-- A text that is on one line and has no blank at its ends. -/
structure IsPhrase (s : String) : Prop where
  isUnbroken : IsUnbroken s
  trimmed : trim s.toList = s.toList

theorem IsPhrase.trimStart_append {s : String} (h : IsPhrase s) (hne : s ≠ "") (more : List Char) :
    trimStart (' ' :: (s.toList ++ more)) = s.toList ++ more := by
  have hstart : s.toList.dropWhile isBlank = s.toList := trimStart_eq_self h.trimmed
  have hnonempty : s.toList.isEmpty = false := by simpa using hne
  rw [trimStart, List.dropWhile_cons_of_pos (by decide), List.dropWhile_append, hstart, hnonempty]
  rfl

theorem IsPhrase.trimEnd_append {s : String} (h : IsPhrase s) (hne : s ≠ "") (before : List Char) :
    trimEnd (before ++ s.toList) = before ++ s.toList := by
  have hend : s.toList.reverse.dropWhile isBlank = s.toList.reverse :=
    List.reverse_eq_iff.1 (trimEnd_eq_self h.trimmed)
  have hnonempty : s.toList.reverse.isEmpty = false := by simpa using hne
  rw [trimEnd, dropEndWhile, List.reverse_append, List.dropWhile_append, hend, hnonempty]
  simp

theorem IsPhrase.trimEnd_append_blank {s : String} (h : IsPhrase s) :
    trimEnd (s.toList ++ [' ']) = s.toList := by
  rw [trimEnd, dropEndWhile_append_singleton, if_pos (by decide)]
  exact trimEnd_eq_self h.trimmed

theorem trimmed_of_isPhrase {s : String} (h : IsPhrase s) : trimmed s = s := by
  rw [trimmed, h.trimmed, String.ofList_toList]

theorem nonBlank?_of_isPhrase {s : String} (h : IsPhrase s) :
    nonBlank? s = if s = "" then none else some s := by
  have hblank : isBlankString s = true ↔ s = "" := by
    rw [isBlankString, ← trim_eq_nil_iff, h.trimmed, String.toList_eq_nil_iff]
  simp only [nonBlank?, hblank, trimmed_of_isPhrase h]

theorem isQuiet_append {s t : String} : IsQuiet (s ++ t) ↔ IsQuiet s ∧ IsQuiet t := by
  rw [IsQuiet, String.toList_append, List.forall_mem_append]
  rfl

/-- For texts that are written out, this form is the quick one to check. -/
theorem isQuiet_ofList {cs : List Char} (h : cs.all isQuietChar = true) :
    IsQuiet (String.ofList cs) := by
  intro c hc
  rw [String.toList_ofList] at hc
  exact List.all_eq_true.1 h c hc

theorem isUnbroken_append {s t : String} : IsUnbroken (s ++ t) ↔ IsUnbroken s ∧ IsUnbroken t := by
  rw [IsUnbroken, String.toList_append, List.forall_mem_append]
  rfl

/-! ### Readers that look for a mark -/

section Readers

variable {line : String}

theorem isBoundary_of_not_mem (h : '#' ∉ line.toList) : isBoundary line = false := by
  have hmarks : line.toList.takeWhile (· = '#') = [] := by
    cases hline : line.toList with
    | nil => rfl
    | cons c rest =>
        apply List.takeWhile_cons_of_neg
        rw [decide_eq_true_eq]
        rintro rfl
        exact h (by simp [hline])
  simp [isBoundary, hmarks]

theorem taskHeading?_of_not_mem (h : '#' ∉ line.toList) :
    taskHeading? line = none := by
  rw [taskHeading?, after?_eq_none_of_not_mem (by simp) h]
  rfl

theorem marker?_of_not_mem (hnumber : '#' ∉ line.toList) (hbox : '[' ∉ line.toList) :
    marker? line = none := by
  have hafterNumber : afterNumber? line.toList = none := by
    rw [afterNumber?, after?_eq_none_of_not_mem (by simp) hnumber]
    rfl
  have hafterBox : afterBox? line.toList = none := by
    rw [afterBox?, after?_eq_none_of_not_mem (by simp) hbox]
    rfl
  simp [marker?, hafterNumber, hafterBox]

theorem labelled?_of_not_mem (h : '*' ∉ line.toList) (label : List Char) :
    labelled? label line.toList = none := by
  rw [labelled?, after?_eq_none_of_not_mem (by simp [boldMark]) h]
  rfl

theorem afterName?_of_not_mem (h : '*' ∉ line.toList) (name : String) :
    Content.afterName? name line = none := by
  have hstart : '*' ∉ trimStart line.toList := fun hc =>
    h ((List.dropWhile_suffix isBlank).subset hc)
  rw [Content.afterName?, after?_eq_none_of_not_mem (by simp [boldMark]) hstart]
  rfl

theorem statedWord?_of_not_mem {cs : List Char} (h : '*' ∉ cs) :
    Check.Kpi.statedWord? cs = none := by
  induction cs with
  | nil => rfl
  | cons c rest ih =>
      have hhere : Check.Kpi.statedHere? (c :: rest) = none := by
        rw [Check.Kpi.statedHere?, after?_eq_none_of_not_mem (by simp [boldMark]) h]
        rfl
      rw [Check.Kpi.statedWord?, hhere]
      exact ih fun hc => h (List.mem_cons_of_mem _ hc)

theorem usage?_of_not_mem {cs : List Char} (h : '{' ∉ cs) : usage? cs = none := by
  rw [usage?]
  rintro rest rfl
  exact h List.mem_cons_self

theorem usedNames_of_not_mem {cs : List Char} (h : '{' ∉ cs) (accepts : List Char → Bool) :
    usedNames accepts cs = [] := by
  induction cs with
  | nil => rw [usedNames]
  | cons c rest ih =>
      rw [usedNames, usage?_of_not_mem h]
      exact ih fun hc => h (List.mem_cons_of_mem _ hc)

theorem references_of_not_mem (h : '{' ∉ line.toList) : references line = [] := by
  rw [references, usedNames_of_not_mem h]
  rfl

theorem trimmed_ne_of_not_mem {c : Char} {heading : String} (hheading : c ∈ heading.toList)
    (h : c ∉ line.toList) : trimmed line ≠ heading := by
  rintro rfl
  rw [trimmed, String.toList_ofList] at hheading
  exact h (mem_of_mem_trim hheading)

end Readers

/-! ### Quiet lines -/

namespace IsQuiet

variable {line : String} (h : IsQuiet line)

include h

theorem isUnbroken : IsUnbroken line := by
  intro c hc
  have := h c hc
  simp only [isQuietChar, Bool.and_eq_true, Bool.not_eq_true'] at this
  exact this.2

theorem number_sign_not_mem : '#' ∉ line.toList := fun hc => absurd (h _ hc) (by decide)

theorem asterisk_not_mem : '*' ∉ line.toList := fun hc => absurd (h _ hc) (by decide)

theorem brace_not_mem : '{' ∉ line.toList := fun hc => absurd (h _ hc) (by decide)

theorem bracket_not_mem : '[' ∉ line.toList := fun hc => absurd (h _ hc) (by decide)

end IsQuiet

end Text

/-! ### Lines that state no dependencies, metrics or complexity -/

/-- What the readers of a task's dependencies, metrics and complexity pass over. -/
structure IsCalm (line : String) : Prop where
  marker? : marker? line = none
  dependencies : labelled? "Dependencies".toList line.toList = none
  metrics : Content.afterName? Check.Kpi.sectionName line = none
  complexity : Check.Kpi.statedWord? line.toList = none

instance (line : String) : Decidable (IsCalm line) :=
  decidable_of_iff
    (Document.marker? line = none ∧ labelled? "Dependencies".toList line.toList = none ∧
      Content.afterName? Check.Kpi.sectionName line = none ∧
      Check.Kpi.statedWord? line.toList = none)
    ⟨fun ⟨h₁, h₂, h₃, h₄⟩ => ⟨h₁, h₂, h₃, h₄⟩, fun h => ⟨h.1, h.2, h.3, h.4⟩⟩

theorem Text.IsQuiet.isCalm {line : String} (h : IsQuiet line) : IsCalm line where
  marker? := marker?_of_not_mem h.number_sign_not_mem h.bracket_not_mem
  dependencies := labelled?_of_not_mem h.asterisk_not_mem _
  metrics := afterName?_of_not_mem h.asterisk_not_mem _
  complexity := statedWord?_of_not_mem h.asterisk_not_mem

end TaskAudit
