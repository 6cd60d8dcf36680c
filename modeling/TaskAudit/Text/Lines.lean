import TaskAudit.Text.Blank

/-!
# Lines of a document

A document is cut at ten line breaks, a carriage return and line feed counting as one; a break at
the very end opens no further line. Reading from a file first writes every carriage return as a line
feed, and that changes no line.
-/

namespace TaskAudit.Text

def isLineBreak (c : Char) : Bool :=
  let n := c.toNat
  (10 ≤ n && n ≤ 13) || (0x1C ≤ n && n ≤ 0x1E) || n == 0x85 || n == 0x2028 || n == 0x2029

/-- Puts a character in front of the first line. -/
def consLine (c : Char) : List (List Char) → List (List Char)
  | [] => [[c]]
  | line :: rest => (c :: line) :: rest

def splitLines : List Char → List (List Char)
  | [] => []
  | '\r' :: '\n' :: rest => [] :: splitLines rest
  | c :: rest => if isLineBreak c then [] :: splitLines rest else consLine c (splitLines rest)

/-- Writes the line ends of files as line feeds: a carriage return with a line feed after it, or
alone. -/
def unifyBreaks : List Char → List Char
  | [] => []
  | '\r' :: '\n' :: rest => '\n' :: unifyBreaks rest
  | c :: rest => (if c = '\r' then '\n' else c) :: unifyBreaks rest

def lines (text : String) : List String :=
  (splitLines text.toList).map String.ofList

def unified (text : String) : String := String.ofList (unifyBreaks text.toList)

/-- A line break in front of a rest: a carriage return and a line feed together, or a break
character that is not the first of these two. -/
def IsBreak (mark rest : List Char) : Prop :=
  mark = ['\r', '\n'] ∨
    ∃ c, mark = [c] ∧ isLineBreak c = true ∧ (c = '\r' → rest.head? ≠ some '\n')

theorem isBreak_lineFeed (rest : List Char) : IsBreak ['\n'] rest :=
  .inr ⟨'\n', rfl, rfl, fun h => absurd h (by decide)⟩

theorem splitLines_cons {c : Char} (h : isLineBreak c = false) (cs : List Char) :
    splitLines (c :: cs) = consLine c (splitLines cs) := by
  have hreturn : c ≠ '\r' := by
    rintro rfl
    exact absurd h (by decide)
  rw [splitLines, h]
  · rfl
  · exact fun _ hr => absurd hr hreturn

theorem splitLines_break {mark rest : List Char} (h : IsBreak mark rest) :
    splitLines (mark ++ rest) = [] :: splitLines rest := by
  obtain rfl | ⟨c, rfl, hc, hpair⟩ := h
  · rfl
  · rw [List.singleton_append, splitLines, if_pos hc]
    rintro tail rfl rfl
    exact hpair rfl rfl

theorem splitLines_append {line mark rest : List Char} (hline : ∀ c ∈ line, isLineBreak c = false)
    (h : IsBreak mark rest) : splitLines (line ++ (mark ++ rest)) = line :: splitLines rest := by
  induction line with
  | nil => exact splitLines_break h
  | cons c line ih =>
    obtain ⟨hc, hline⟩ := List.forall_mem_cons.1 hline
    rw [List.cons_append, splitLines_cons hc, ih hline, consLine]

/-- Lines that are written one below the other, each ended by a line feed, are read back. -/
theorem lines_intercalate {ls : List String}
    (h : ∀ line ∈ ls, ∀ c ∈ line.toList, isLineBreak c = false) :
    lines ("\n".intercalate (ls ++ [""])) = ls := by
  have hbreak : "\n".toList = ['\n'] := rfl
  rw [lines, String.toList_intercalate, hbreak]
  induction ls with
  | nil => rfl
  | cons line rest ih =>
    obtain ⟨hline, hrest⟩ := List.forall_mem_cons.1 h
    have hne : (rest ++ [""]).map String.toList ≠ [] := by simp
    rw [List.cons_append, List.map_cons, List.intercalate_cons_of_ne_nil hne, List.append_assoc,
      splitLines_append hline (isBreak_lineFeed _), List.map_cons, ih hrest,
      String.ofList_toList]

end TaskAudit.Text
