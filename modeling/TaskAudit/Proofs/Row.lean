import TaskAudit.Proofs.TaskNumber

/-!
# Rows that are written and read

A row of cells without bars or blanks around them is read back cell by cell, and a row of at least
two cells that starts with an id is a row of a table.
-/

namespace TaskAudit

open Text

namespace Text

/-! ### Blanks at the ends -/

theorem isBlank_eq_false {c : Char} (hlow : 0x20 < c.toNat) (hhigh : c.toNat < 0x85) :
    isBlank c = false := by
  simp only [isBlank, isWhiteSpace, Bool.or_eq_false_iff, Bool.and_eq_false_iff,
    decide_eq_false_iff_not, beq_eq_false_iff_ne]
  omega

theorem dropWhile_append_singleton {p : Char → Bool} {c : Char} (hc : p c = true)
    (cs : List Char) :
    (cs ++ [c]).dropWhile p = if cs.all p then [] else cs.dropWhile p ++ [c] := by
  induction cs with
  | nil => simp [hc]
  | cons d cs ih =>
      by_cases hd : p d
      · simpa [hd] using ih
      · simp [hd]

/-- Blanks at the ends make no difference to what trimming leaves. -/
theorem trim_between_blanks (cs : List Char) : trim (' ' :: cs ++ [' ']) = trim cs := by
  have hblank : isBlank ' ' = true := by decide
  have hstart : trim (' ' :: cs ++ [' ']) = trim (cs ++ [' ']) := by
    rw [trim, trimOf, List.cons_append, List.dropWhile_cons_of_pos hblank]
    rfl
  rw [hstart, trim, trimOf, dropWhile_append_singleton hblank]
  split
  · next hall =>
    have hnil : cs.dropWhile isBlank = [] := (allBlank_iff_trimStart_eq_nil cs).1 hall
    rw [trim, trimOf, hnil]
  · rw [dropEndWhile_append_singleton, if_pos hblank]
    rfl

theorem trimOf_eq_self {p : Char → Bool} {cs : List Char} (h : ∀ c ∈ cs, p c = false) :
    trimOf p cs = cs :=
  trimOf_eq_self_iff.2 fun c hc => h c hc.mem

/-! ### Cutting at a character -/

section SplitOn

variable {stop : Char} {piece : List Char} (h : stop ∉ piece)

include h

theorem splitOn_of_not_mem : splitOn stop piece = [piece] := by
  induction piece with
  | nil => rfl
  | cons c cs ih =>
      rw [List.mem_cons, not_or] at h
      obtain ⟨hc, hcs⟩ := h
      rw [splitOn, if_neg (Ne.symm hc), ih hcs]

theorem splitOn_append_cons (rest : List Char) :
    splitOn stop (piece ++ stop :: rest) = piece :: splitOn stop rest := by
  induction piece with
  | nil => simp [splitOn]
  | cons c cs ih =>
      rw [List.mem_cons, not_or] at h
      obtain ⟨hc, hcs⟩ := h
      rw [List.cons_append, splitOn, if_neg (Ne.symm hc), ih hcs]

end SplitOn

end Text

/-! ### Tables -/

namespace Document

theorem trimmed_heading (table : TaskTable) : trimmed table.heading = table.heading := by
  cases table with
  | current => decide +kernel
  | completed => decide +kernel

/-- The rows of a table are those between the line below its column row and the next line that ends
it. -/
theorem tableRows_append {before rows more : List String} {heading columns separator : String}
    (hbefore : ∀ line ∈ before, trimmed line ≠ heading) (hheading : trimmed heading = heading)
    (hrows : ∀ line ∈ rows, endsTable line = false)
    (hmore : ∀ line, more.head? = some line → endsTable line = true) :
    tableRows (before ++ heading :: columns :: separator :: (rows ++ more)) heading =
      (ratingColumn? (some columns),
        (rows.zipIdx (before.length + 3)).filterMap fun entry => row? entry.1 entry.2) := by
  have hfind : (before ++ heading :: columns :: separator :: (rows ++ more)).findIdx?
      (trimmed · = heading) = some before.length := by
    have hnone : before.findIdx? (trimmed · = heading) = none := by
      rw [List.findIdx?_eq_none_iff]
      intro line hline
      simpa using hbefore line hline
    simp [List.findIdx?_append, hnone, List.findIdx?_cons, hheading]
  have hcolumns : (before ++ heading :: columns :: separator :: (rows ++ more))[
      before.length + 1]? = some columns := by
    simp
  have hzip : ((before ++ heading :: columns :: separator :: (rows ++ more)).zipIdx).drop
      (before.length + 3) = rows.zipIdx (before.length + 3) ++
        more.zipIdx (before.length + 3 + rows.length) := by
    have hlength : before.length = (before.zipIdx).length := by simp
    rw [List.zipIdx_append, hlength, List.drop_length_add_append]
    simp [List.zipIdx_append, Nat.add_assoc]
  have htake : (rows.zipIdx (before.length + 3) ++
      more.zipIdx (before.length + 3 + rows.length)).takeWhile
        (fun entry => !endsTable entry.1) = rows.zipIdx (before.length + 3) := by
    apply takeWhile_run
    · intro entry hentry
      have hmem : entry.1 ∈ rows := by
        have := List.mem_map_of_mem (f := Prod.fst) hentry
        rwa [List.zipIdx_map_fst] at this
      simp [hrows _ hmem]
    · intro entry hentry
      cases more with
      | nil => simp at hentry
      | cons line more =>
          rw [List.zipIdx_cons, List.head?_cons, Option.some.injEq] at hentry
          rw [← hentry, hmore line rfl]
          rfl
  simp only [tableRows, hfind, hcolumns, hzip, htake]

end Document

namespace Template.Entry

open Document

/-- A text that can stand in a cell: no bar is in it, and no blank at its ends. -/
structure IsCell (s : String) : Prop where
  noBar : '|' ∉ s.toList
  trimmed : trim s.toList = s.toList

/-- What stands between the outer bars of a row. -/
def inner (texts : List (List Char)) : List Char :=
  ' ' :: [' ', '|', ' '].intercalate texts ++ [' ']

theorem inner_cons_cons (text next : List Char) (more : List (List Char)) :
    inner (text :: next :: more) = (' ' :: text ++ [' ']) ++ '|' :: inner (next :: more) := by
  simp [inner]

theorem isCell_ofNumber {code : String} {n : Nat} (hcode : TaskId.IsCode code) (hn : n ≤ 9999) :
    IsCell (TaskId.ofNumber code n) := by
  constructor
  · intro hbar
    exact absurd (TaskId.range_of_mem_ofNumber hcode hn hbar) (by decide)
  · refine trimOf_eq_self fun c hc => ?_
    have := TaskId.range_of_mem_ofNumber hcode hn hc
    exact isBlank_eq_false (by omega) (by omega)

theorem toList_row (texts : List String) :
    (row texts).toList = '|' :: inner (texts.map String.toList) ++ ['|'] := by
  simp [row, inner, String.toList_intercalate]

theorem mem_inner {texts : List (List Char)} {c : Char} (h : c ∈ inner texts) :
    c = ' ' ∨ c = '|' ∨ ∃ text ∈ texts, c ∈ text := by
  induction texts with
  | nil =>
      exact Or.inl (by simpa [inner] using h)
  | cons text texts ih =>
      cases texts with
      | nil =>
          simp only [inner, List.intercalate_singleton, List.cons_append, List.mem_cons,
            List.mem_append, List.not_mem_nil, or_false] at h
          rcases h with hspace | htext | hspace
          · exact Or.inl hspace
          · exact Or.inr (Or.inr ⟨text, List.mem_cons_self, htext⟩)
          · exact Or.inl hspace
      | cons next more =>
          rw [inner_cons_cons, List.mem_append, List.mem_cons, List.cons_append, List.mem_cons,
            List.mem_append, List.mem_singleton] at h
          rcases h with (hspace | htext | hspace) | hbar | hrest
          · exact Or.inl hspace
          · exact Or.inr (Or.inr ⟨text, List.mem_cons_self, htext⟩)
          · exact Or.inl hspace
          · exact Or.inr (Or.inl hbar)
          · rcases ih hrest with hspace | hbar | ⟨other, hother, hc⟩
            · exact Or.inl hspace
            · exact Or.inr (Or.inl hbar)
            · exact Or.inr (Or.inr ⟨other, List.mem_cons_of_mem _ hother, hc⟩)

theorem mem_row {texts : List String} {c : Char} (h : c ∈ (row texts).toList) :
    c = ' ' ∨ c = '|' ∨ ∃ s ∈ texts, c ∈ s.toList := by
  rw [toList_row, List.mem_append, List.mem_cons, List.mem_singleton] at h
  rcases h with (hbar | hinner) | hbar
  · exact Or.inr (Or.inl hbar)
  · rcases mem_inner hinner with hspace | hbar | ⟨text, htext, hc⟩
    · exact Or.inl hspace
    · exact Or.inr (Or.inl hbar)
    · obtain ⟨s, hs, rfl⟩ := List.mem_map.1 htext
      exact Or.inr (Or.inr ⟨s, hs, hc⟩)
  · exact Or.inr (Or.inl hbar)

theorem isQuiet_row {texts : List String} (h : ∀ s ∈ texts, IsQuiet s) : IsQuiet (row texts) := by
  intro c hc
  rcases mem_row hc with rfl | rfl | ⟨s, hs, hmem⟩
  · rfl
  · rfl
  · exact h s hs c hmem

theorem isUnbroken_row {texts : List String} (h : ∀ s ∈ texts, IsUnbroken s) :
    IsUnbroken (row texts) := by
  intro c hc
  rcases mem_row hc with rfl | rfl | ⟨s, hs, hmem⟩
  · rfl
  · rfl
  · exact h s hs c hmem

theorem endsTable_row (texts : List String) : endsTable (row texts) = false := by
  have hbar : isBlank '|' = false := by decide
  simp [endsTable, toList_row, after?, isBlankString, allBlank, hbar]

theorem taskHeading?_row (cells : List String) : taskHeading? (row cells) = none := by
  rw [taskHeading?, toList_row]
  rfl

theorem trimmed_row_ne (cells : List String) (table : TaskTable) :
    trimmed (row cells) ≠ table.heading := by
  have hbar : isBlank '|' = false := by decide
  intro heq
  rw [trimmed, toList_row, trim_between hbar hbar, ← String.toList_inj,
    String.toList_ofList] at heq
  cases table with
  | current => simp [TaskTable.heading] at heq
  | completed => simp [TaskTable.heading] at heq

theorem splitOn_inner {texts : List (List Char)} (hne : texts ≠ [])
    (hbar : ∀ text ∈ texts, '|' ∉ text) :
    splitOn '|' (inner texts) = texts.map fun text => ' ' :: text ++ [' '] := by
  induction texts with
  | nil => exact absurd rfl hne
  | cons text texts ih =>
      obtain ⟨hfirst, hrest⟩ := List.forall_mem_cons.1 hbar
      have hpiece : '|' ∉ ' ' :: text ++ [' '] := by simp [hfirst]
      cases texts with
      | nil =>
          rw [inner, List.intercalate_singleton, splitOn_of_not_mem hpiece]
          rfl
      | cons next more =>
          rw [inner_cons_cons, splitOn_append_cons hpiece, ih (List.cons_ne_nil _ _) hrest]
          rfl

/-- **Cells are read back** from the row that they are written in. -/
theorem cells_row {texts : List String} (hne : texts ≠ []) (hcells : ∀ s ∈ texts, IsCell s) :
    Document.cells (row texts) = texts := by
  have hbar : isBlank '|' = false := by decide
  have hafter : after? ['|'] ('|' :: inner (texts.map String.toList) ++ ['|']) =
      some (inner (texts.map String.toList) ++ ['|']) := after?_append ['|'] _
  have hdrop : dropEndBar (inner (texts.map String.toList) ++ ['|']) =
      inner (texts.map String.toList) := by
    simp [dropEndBar]
  have hsplit : splitOn '|' (inner (texts.map String.toList)) =
      (texts.map String.toList).map fun text => ' ' :: text ++ [' '] := by
    refine splitOn_inner (by simpa using hne) ?_
    intro text htext
    obtain ⟨s, hs, rfl⟩ := List.mem_map.1 htext
    exact (hcells s hs).noBar
  rw [Document.cells, toList_row, trim_between hbar hbar]
  simp only [hafter, Option.getD_some, hdrop, hsplit, List.map_map]
  refine (List.map_congr_left fun s hs => ?_).trans (List.map_id texts)
  simp only [Function.comp_apply]
  rw [trim_between_blanks, (hcells s hs).trimmed, String.ofList_toList, id_eq]

theorem row?_row {id second : String} {more : List String}
    (hcells : ∀ s ∈ id :: second :: more, IsCell s)
    (hid : ∃ c ∈ id.toList, TaskId.isCapital c = true) (line : Nat) :
    row? (row (id :: second :: more)) line =
      some ⟨line, id, second, id :: second :: more⟩ := by
  obtain ⟨c, hc, hcapital⟩ := hid
  have hbar : isBlank '|' = false := by decide
  have hstarts : startsRow (row (id :: second :: more)) = true := by
    rw [startsRow, toList_row, trimStart, List.cons_append,
      List.dropWhile_cons_of_neg (by simp [hbar])]
    rfl
  have hmem : c ∈ '|' :: inner ((id :: second :: more).map String.toList) ++ ['|'] := by
    simp [inner, hc]
  have hrange := TaskId.isCapital_iff.1 hcapital
  have hnot : ∀ d : Char, d.toNat < 65 ∨ 90 < d.toNat → c ≠ d := by
    rintro d hd rfl
    omega
  have hseparator : isSeparatorRow (row (id :: second :: more)) = false := by
    simp only [isSeparatorRow, toList_row, trim_between hbar hbar, Bool.and_eq_false_iff]
    refine Or.inr (List.all_eq_false.2 ⟨c, hmem, ?_⟩)
    simp [hnot '|' (by decide), hnot '-' (by decide), hnot ':' (by decide),
      isBlank_eq_false (by omega : 0x20 < c.toNat) (by omega)]
  have hne : id.isEmpty = false := by
    rw [← Bool.not_eq_true, String.isEmpty_iff]
    rintro rfl
    simp at hc
  rw [row?, hstarts, hseparator, cells_row (List.cons_ne_nil _ _) hcells]
  simp [hne]

end Template.Entry

end TaskAudit
