import TaskAudit.Audit.File
import TaskAudit.Proofs.Folder
import TaskAudit.Proofs.Merge
import TaskAudit.Proofs.Quiet

/-!
# Line breaks of files

A text falls into lines in one way only: a carriage return and the line feed behind it are one
break, and every other break character is a break of its own. Reading a file writes the breaks that
have a carriage return as line feeds, and each of them stays one break. So a file is read as its
text is, however its lines end.
-/

namespace TaskAudit

open Text

namespace Text

/-- The lines of a text: each of them holds no break character and has a break behind it, or the end
of the text if it is not empty. -/
inductive IsCut : List Char → List (List Char) → Prop
  | nil : IsCut [] []
  | last {line : List Char} :
    line ≠ [] → (∀ c ∈ line, isLineBreak c = false) → IsCut line [line]
  | cons {line mark rest : List Char} {lines : List (List Char)} :
    (∀ c ∈ line, isLineBreak c = false) → IsBreak mark rest → IsCut rest lines →
      IsCut (line ++ (mark ++ rest)) (line :: lines)

section Cuts

variable {c : Char} {cs line mark rest : List Char} {lines : List (List Char)}

/-! ### Cutting a text -/

theorem splitLines_of_unbroken (hne : line ≠ []) (hline : ∀ c ∈ line, isLineBreak c = false) :
    splitLines line = [line] := by
  induction line with
  | nil => exact absurd rfl hne
  | cons c line ih =>
      obtain ⟨hc, hline⟩ := List.forall_mem_cons.1 hline
      rw [splitLines_cons hc]
      by_cases hempty : line = []
      · rw [hempty]
        rfl
      · rw [ih hempty hline, consLine]

theorem IsCut.splitLines_eq (h : IsCut cs lines) : splitLines cs = lines := by
  induction h with
  | nil => rfl
  | last hne hline => exact splitLines_of_unbroken hne hline
  | cons hline hbreak _ ih => rw [splitLines_append hline hbreak, ih]

theorem IsCut.consLine (hc : isLineBreak c = false) (h : IsCut cs lines) :
    IsCut (c :: cs) (consLine c lines) := by
  cases h with
  | nil => exact .last (List.cons_ne_nil c []) (by simpa using hc)
  | last _ hline => exact .last (List.cons_ne_nil c cs) (List.forall_mem_cons.2 ⟨hc, hline⟩)
  | cons hline hbreak hrest => exact .cons (List.forall_mem_cons.2 ⟨hc, hline⟩) hbreak hrest

theorem isCut_splitLines (cs : List Char) : IsCut cs (splitLines cs) := by
  fun_induction splitLines cs with
  | case1 => exact .nil
  | case2 rest ih => exact @IsCut.cons [] ['\r', '\n'] rest _ (by simp) (.inl rfl) ih
  | case3 c rest hpair hc ih =>
      refine @IsCut.cons [] [c] rest _ (by simp) (.inr ⟨c, rfl, hc, ?_⟩) ih
      intro hreturn hfeed
      obtain ⟨tail, htail⟩ := List.head?_eq_some_iff.1 hfeed
      exact hpair tail hreturn htail
  | case4 c rest hpair hc ih => exact ih.consLine (by simpa using hc)

theorem isCut_iff : IsCut cs lines ↔ splitLines cs = lines :=
  ⟨IsCut.splitLines_eq, fun h => h ▸ isCut_splitLines cs⟩

/-! ### Line feeds for carriage returns -/

theorem unifyBreaks_cons (hc : c ≠ '\r') (cs : List Char) :
    unifyBreaks (c :: cs) = c :: unifyBreaks cs := by
  rw [unifyBreaks, if_neg hc]
  exact fun _ h => absurd h hc

theorem unifyBreaks_append (hline : ∀ c ∈ line, isLineBreak c = false) (cs : List Char) :
    unifyBreaks (line ++ cs) = line ++ unifyBreaks cs := by
  induction line with
  | nil => rfl
  | cons c line ih =>
      obtain ⟨hc, hline⟩ := List.forall_mem_cons.1 hline
      have hreturn : c ≠ '\r' := by
        rintro rfl
        exact absurd hc (by decide)
      rw [List.cons_append, unifyBreaks_cons hreturn, ih hline, List.cons_append]

/-- A break stays one break, and what is behind it is not joined to it: a carriage return is gone
before a line feed of the rest could follow it. -/
theorem exists_isBreak_unifyBreaks (h : IsBreak mark rest) :
    ∃ written, IsBreak written (unifyBreaks rest) ∧
      unifyBreaks (mark ++ rest) = written ++ unifyBreaks rest := by
  obtain rfl | ⟨c, rfl, hc, hpair⟩ := h
  · exact ⟨['\n'], isBreak_lineFeed _, rfl⟩
  · by_cases hreturn : c = '\r'
    · subst hreturn
      refine ⟨['\n'], isBreak_lineFeed _, ?_⟩
      rw [List.singleton_append, unifyBreaks, if_pos rfl, List.singleton_append]
      rintro tail - rfl
      exact hpair rfl rfl
    · exact ⟨[c], .inr ⟨c, rfl, hc, fun h => absurd h hreturn⟩, unifyBreaks_cons hreturn rest⟩

/-- The induction is on the lines: a break is the same break whatever is behind it, so each line
keeps its end while those below it are rewritten. -/
theorem IsCut.unifyBreaks (h : IsCut cs lines) : IsCut (unifyBreaks cs) lines := by
  induction h with
  | nil => exact .nil
  | @last line hne hline =>
      have hsame := unifyBreaks_append hline []
      rw [List.append_nil] at hsame
      rw [hsame, Text.unifyBreaks, List.append_nil]
      exact .last hne hline
  | cons hline hbreak _ ih =>
      obtain ⟨written, hwritten, heq⟩ := exists_isBreak_unifyBreaks hbreak
      rw [unifyBreaks_append hline, heq]
      exact .cons hline hwritten ih

theorem splitLines_unifyBreaks (cs : List Char) : splitLines (unifyBreaks cs) = splitLines cs :=
  (isCut_splitLines cs).unifyBreaks.splitLines_eq

theorem carriageReturn_not_mem_unifyBreaks (cs : List Char) : '\r' ∉ unifyBreaks cs := by
  fun_induction unifyBreaks cs with
  | case1 => exact List.not_mem_nil
  | case2 rest ih => simpa using ih
  | case3 c rest _ ih =>
      rw [List.mem_cons, not_or]
      refine ⟨?_, ih⟩
      split
      · decide
      · next hc => exact Ne.symm hc

end Cuts

theorem lines_unified (text : String) : lines (unified text) = lines text := by
  rw [lines, unified, String.toList_ofList, splitLines_unifyBreaks, lines]

theorem map_toList_lines (text : String) :
    (lines text).map String.toList = splitLines text.toList := by
  simp [lines, Function.comp_def]

end Text

namespace Audit

/-- Two ways to read a document come to the same: to task lists that differ in nothing but the path
they are said to be from, or to no task both. -/
inductive ReadAlike : Except Failure TaskList → Except Failure TaskList → Prop
  | lists {l l' : TaskList} : l.tasks = l'.tasks → l.references = l'.references →
    l.lines = l'.lines → l.totalLines = l'.totalLines → ReadAlike (.ok l) (.ok l')
  | noTasks : ReadAlike (.error .noTasks) (.error .noTasks)

/-- Of a text nothing but its lines is read. -/
theorem readAlike_of_lines {text text' : String} (h : Text.lines text = Text.lines text')
    (policy : Policy) (path path' : Option String) :
    ReadAlike (read policy text path) (read policy text' path') := by
  simp only [read, TaskList.ofText?, h]
  by_cases hnone : (Document.tasks policy (Text.lines text')).isEmpty
  · simp only [hnone, if_true]
    exact .noTasks
  · simp only [hnone]
    exact .lists rfl rfl rfl rfl

/-- **A file is read as its text.** A file that holds a text in UTF-8 is read with line feeds alone
where the text has carriage returns. The lines stay those that the text falls into, which it does in
one way only. So the file has the same tasks, references and lines as the text, or both have no
task. -/
theorem listOfFile_readAlike (policy : Policy) {folder : Folder} {path : PathName} {text : String}
    (hpath : path.hasNul = false) (hfile : folder.read? path = some text.toUTF8) :
    folder.text path = .ok (unified text) ∧ '\r' ∉ (unified text).toList ∧
    Text.lines (unified text) = Text.lines text ∧
    (∀ cut, IsCut text.toList cut ↔ (Text.lines text).map String.toList = cut) ∧
    ∀ given, ReadAlike (listOfFile policy folder path) (read policy text given) := by
  have htext := Folder.text_of_read? hpath hfile
  refine ⟨htext, ?_, lines_unified text, fun cut => ?_, fun given => ?_⟩
  · rw [unified, String.toList_ofList]
    exact carriageReturn_not_mem_unifyBreaks text.toList
  · rw [map_toList_lines]
    exact isCut_iff
  · have hlist : listOfFile policy folder path = read policy (unified text) (some path.text) := by
      simp only [listOfFile, textOfFile, htext, bind, Except.bind]
    rw [hlist]
    exact readAlike_of_lines (lines_unified text) policy _ given

/-! ### A file with breaks of every kind -/

/-- Carriage returns before, behind and apart from line feeds, and breaks of other kinds. -/
def mixedBreaks : String :=
  "### AB0001: Plan\r\r\n**Status**: Done\n\r## \x7b\x7ba\x7d\x7d\u2028one\u0085two\x0b\r\nthree\r"

def mixedFolder : Folder :=
  Folder.Disk.folder
    { place := ["work"], files := [(["work", "plan.md"], mixedBreaks.toUTF8)] } fun _ => none

theorem listOfFile_readAlike_mixedBreaks : ∃ l l',
    listOfFile .standard mixedFolder ⟨"/", ["work", "plan.md"]⟩ = .ok l ∧
    read .standard mixedBreaks none = .ok l' ∧
    l.tasks = l'.tasks ∧ l.references = l'.references ∧ l.totalLines = l'.totalLines ∧
    l.lines = ["### AB0001: Plan", "", "**Status**: Done", "", "## \x7b\x7ba\x7d\x7d", "one", "two",
      "", "three"] := by
  have hpath : PathName.hasNul ⟨"/", ["work", "plan.md"]⟩ = false :=
    PathName.hasNul_eq_false_iff.2 (by decide +kernel)
  have hfile : mixedFolder.read? ⟨"/", ["work", "plan.md"]⟩ = some mixedBreaks.toUTF8 := by
    decide +kernel
  have hlines : Text.lines mixedBreaks = ["### AB0001: Plan", "", "**Status**: Done", "",
      "## \x7b\x7ba\x7d\x7d", "one", "two", "", "three"] := by
    decide +kernel
  have hsome : Document.tasks .standard (Text.lines mixedBreaks) ≠ [] := by
    rw [hlines]
    decide +kernel
  obtain ⟨l', hread⟩ : ∃ l', read .standard mixedBreaks none = .ok l' := by
    rw [read, TaskList.ofText?, if_neg (by simpa using hsome)]
    exact ⟨_, rfl⟩
  obtain ⟨-, -, -, -, halike⟩ := listOfFile_readAlike .standard hpath hfile
  have hboth := halike none
  rw [hread] at hboth
  generalize listOfFile .standard mixedFolder ⟨"/", ["work", "plan.md"]⟩ = found at hboth
  cases hboth with
  | @lists l _ htasks hreferences hsame htotal =>
      refine ⟨l, l', rfl, hread, htasks, hreferences, htotal, hsame.trans ?_⟩
      rw [(Document.lines_tasks_of_ofText? (read_eq_ok_iff.1 hread)).1, hlines]

end Audit

end TaskAudit
