import TaskAudit.Proofs.Appended
import TaskAudit.Proofs.MarkedId

/-!
# Lines of checkboxes

A checkbox is written with its id in brackets behind the description or in bold before it. The id is
looked for in brackets at the end first, and in bold anywhere after that; what is left of the line
without both is the description. A description that holds no id in bold is read back from either
line, and in the second form it must not end in an id in brackets.
-/

namespace TaskAudit.Document

open Text TaskId

def HoldsBoldId (text : String) : Prop :=
  ∃ before id after, IsCheckboxId id ∧
    text.toList = before ++ (boldMark ++ id ++ boldMark ++ after)

def EndsInId (text : String) : Prop :=
  ∃ before id, IsCheckboxId id ∧ text.toList = before ++ ('[' :: id ++ [']'])

/-- The lines that a checkbox is written on. -/
inductive IsCheckboxLine (box : Char) (description id : String) : String → Prop where
  | bracketed : IsCheckboxLine box description id
      ("- [" ++ String.singleton box ++ "] " ++ description ++ " [" ++ id ++ "]")
  | bold (h : ¬ EndsInId description) : IsCheckboxLine box description id
      ("- [" ++ String.singleton box ++ "] **" ++ id ++ "**: " ++ description)

/-- What is read of a checkbox line. -/
structure IsReadOfCheckbox (box : Char) (description id : String) (u : Task) : Prop where
  marker : u.marker = some .checkbox
  id : u.id = id
  content : u.content = []
  status : u.status = if box = ' ' then "Planned" else "Completed"
  description : u.description = description

section Marks

variable {text : String}

theorem firstFound?_bold?_eq_none_iff :
    firstFound? bold? text.toList = none ↔ ¬ HoldsBoldId text := by
  rw [firstFound?_eq_none_iff]
  constructor
  · rintro hnone ⟨before, id, after, hid, htext⟩
    have hlt : before.length < text.toList.length := by
      simp [htext, boldMark]
    have hread : bold? (text.toList.drop before.length) = some (id, after) := by
      rw [htext, List.drop_left]
      exact bold?_eq_some_iff.2 ⟨hid, rfl⟩
    simp [hnone _ hlt] at hread
  · intro hnot n _
    rw [Option.eq_none_iff_forall_ne_some]
    rintro ⟨id, after⟩ hread
    obtain ⟨hid, hdrop⟩ := bold?_eq_some_iff.1 hread
    exact hnot ⟨text.toList.take n, id, after, hid, by rw [← hdrop, List.take_append_drop]⟩

theorem endFound?_bracketed?_eq_none_iff :
    endFound? bracketed? text.toList = none ↔ ¬ EndsInId text := by
  rw [endFound?_eq_none_iff]
  constructor
  · rintro hnone ⟨before, id, hid, htext⟩
    have hread : bracketed? ('[' :: id ++ [']']) = some (id, []) :=
      bracketed?_eq_some_iff.2 ⟨hid, rfl⟩
    exact hnone _ (htext ▸ List.suffix_append before _) (List.cons_ne_nil _ _) id hread
  · rintro hnot tail ⟨before, hbefore⟩ - id hread
    obtain ⟨hid, rfl⟩ := bracketed?_eq_some_iff.1 hread
    exact hnot ⟨before, id, hid, hbefore.symm⟩

theorem endFound?_bracketed?_append {id : List Char} (hid : IsCheckboxId id)
    (before : List Char) :
    endFound? bracketed? (before ++ ' ' :: ('[' :: id ++ [']'])) = some (before ++ [' '], id) :=
  endFound?_append_blank (fun _ _ => blank_not_mem_of_bracketed?)
    (bracketed?_eq_some_iff.2 ⟨hid, rfl⟩) (List.cons_ne_nil _ _) before

theorem endFound?_bracketed?_append_eq_none (h : ¬ EndsInId text) (before : List Char) :
    endFound? bracketed? (before ++ ' ' :: text.toList) = none :=
  endFound?_append_blank_eq_none (fun _ _ => blank_not_mem_of_bracketed?)
    (endFound?_bracketed?_eq_none_iff.2 h) before

theorem dropBoldIds_eq_self {cs : List Char} (h : firstFound? bold? cs = none) :
    dropBoldIds cs = cs := by
  induction cs with
  | nil => rw [dropBoldIds]
  | cons c cs ih =>
      rw [firstFound?] at h
      split at h
      · next found hread => exact absurd h (Option.some_ne_none _)
      · next hread =>
        rw [dropBoldIds]
        split
        · next hfound => simp [hread] at hfound
        · rw [ih h]

theorem dropBoldIds_of_bold? {cs id rest : List Char} (h : bold? cs = some (id, rest)) :
    dropBoldIds cs = dropBoldIds (afterLabel rest) := by
  cases cs with
  | nil => simp [bold?_eq_some_iff, boldMark] at h
  | cons c cs =>
      rw [dropBoldIds]
      split
      · next found hread =>
        obtain ⟨-, rfl⟩ := Prod.mk.inj (Option.some.inj (hread.symm.trans h))
        rfl
      · next hread => simp [hread] at h

end Marks

/-! ### What follows a box -/

section Boxes

variable {box : Char} (hbox : box = ' ' ∨ box = 'x' ∨ box = 'X')

include hbox

theorem afterBox?_append (rest : List Char) :
    afterBox? ("- [".toList ++ box :: ']' :: rest) = some (decide (box ≠ ' '), rest) := by
  have hafter : after? ['-', ' ', '['] ("- [".toList ++ box :: ']' :: rest) =
      some (box :: ']' :: rest) := after?_append _ _
  rw [afterBox?, hafter]
  rcases hbox with rfl | rfl | rfl <;> rfl

theorem firstFound?_bold?_append (rest : List Char) :
    firstFound? bold? ("- [".toList ++ box :: ']' :: ' ' :: rest) = firstFound? bold? rest := by
  have hbefore : ∀ c ∈ "- [".toList ++ [box, ']', ' '], ∀ cs, bold? (c :: cs) = none := by
    intro c hc cs
    have hne : c ≠ '*' := by
      rintro rfl
      rcases hbox with rfl | rfl | rfl <;> simp at hc
    have hafter : after? boldMark (c :: cs) = none := by rw [boldMark, after?, if_neg hne.symm]
    rw [bold?, hafter]
    rfl
  have hline : "- [".toList ++ box :: ']' :: ' ' :: rest =
      ("- [".toList ++ [box, ']', ' ']) ++ rest := by
    simp
  rw [hline, firstFound?_append hbefore]

end Boxes

/-! ### The two forms -/

section Lines

variable {box : Char} {description id line : String}

/-- Both forms have the same beginning, and an id that is marked behind it. -/
theorem toList_of_isCheckboxLine (h : IsCheckboxLine box description id line) :
    line.toList = "- [".toList ++ box :: ']' :: ' ' ::
        (description.toList ++ ' ' :: ('[' :: id.toList ++ [']'])) ∨
      ¬ EndsInId description ∧ line.toList = "- [".toList ++ box :: ']' :: ' ' ::
        (boldMark ++ id.toList ++ boldMark ++ ':' :: ' ' :: description.toList) := by
  cases h with
  | bracketed => exact Or.inl (by simp)
  | bold hends => exact Or.inr ⟨hends, by simp [boldMark]⟩

variable (hbox : box = ' ' ∨ box = 'x' ∨ box = 'X')

section Box

include hbox

theorem afterBox?_of_isCheckboxLine (h : IsCheckboxLine box description id line) :
    ∃ rest, afterBox? line.toList = some (decide (box ≠ ' '), rest) := by
  rcases toList_of_isCheckboxLine h with hline | ⟨-, hline⟩
  · exact ⟨_, hline ▸ afterBox?_append hbox _⟩
  · exact ⟨_, hline ▸ afterBox?_append hbox _⟩

theorem marker?_of_isCheckboxLine (h : IsCheckboxLine box description id line) :
    marker? line = some .checkbox := by
  obtain ⟨rest, hrest⟩ := afterBox?_of_isCheckboxLine hbox h
  have hnumber : afterNumber? line.toList = none := by
    rcases toList_of_isCheckboxLine h with hline | ⟨-, hline⟩
    · rw [hline]
      rfl
    · rw [hline]
      rfl
  simp [marker?, hnumber, hrest]

end Box

theorem trimEnd_of_isCheckboxLine (hd : IsPhrase description) (hne : description ≠ "")
    (h : IsCheckboxLine box description id line) : trimEnd line.toList = line.toList := by
  rcases toList_of_isCheckboxLine h with hline | ⟨-, hline⟩
  · have hlast : line.toList = ("- [".toList ++ box :: ']' :: ' ' ::
        (description.toList ++ ' ' :: '[' :: id.toList)) ++ [']'] := by
      simp [hline]
    rw [hlast, trimEnd, dropEndWhile_append_singleton, if_neg (by decide)]
  · have hlast : line.toList = ("- [".toList ++ box :: ']' :: ' ' ::
        (boldMark ++ id.toList ++ boldMark ++ [':', ' '])) ++ description.toList := by
      simp [hline]
    rw [hlast, hd.trimEnd_append hne]

variable (hid : IsCheckboxId id.toList) (hd : IsPhrase description) (hne : description ≠ "")

include hbox hid hd hne

/-- An id in brackets is found at the end; one in bold is looked for when none is there. -/
theorem checkboxIdOf?_of_isCheckboxLine (h : IsCheckboxLine box description id line) :
    checkboxIdOf? line = some id.toList := by
  rw [checkboxIdOf?, trimEnd_of_isCheckboxLine hd hne h]
  rcases toList_of_isCheckboxLine h with hline | ⟨hends, hline⟩
  · have hsplit : line.toList = ("- [".toList ++ box :: ']' :: ' ' :: description.toList) ++
        ' ' :: ('[' :: id.toList ++ [']']) := by
      simp [hline]
    rw [hsplit, endFound?_bracketed?_append hid]
  · have hsplit : line.toList = ("- [".toList ++ box :: ']' :: ' ' ::
        (boldMark ++ id.toList ++ boldMark ++ [':'])) ++ ' ' :: description.toList := by
      simp [hline]
    have hmark : bold? (boldMark ++ id.toList ++ boldMark ++ ':' :: ' ' :: description.toList) =
        some (id.toList, ':' :: ' ' :: description.toList) := bold?_eq_some_iff.2 ⟨hid, rfl⟩
    rw [hsplit, endFound?_bracketed?_append_eq_none hends, ← hsplit, hline]
    simp only [firstFound?_bold?_append hbox]
    rw [boldMark, List.append_assoc, List.append_assoc, List.cons_append] at hmark ⊢
    rw [firstFound?, hmark]

/-- What is left of the line without its box and its id. -/
theorem checkboxDescription_of_isCheckboxLine (hplain : ¬ HoldsBoldId description)
    (h : IsCheckboxLine box description id line) :
    checkboxDescription line = description.toList := by
  have hdrop : dropBoldIds description.toList = description.toList :=
    dropBoldIds_eq_self (firstFound?_bold?_eq_none_iff.2 hplain)
  rw [checkboxDescription, trimEnd_of_isCheckboxLine hd hne h]
  rcases toList_of_isCheckboxLine h with hline | ⟨hends, hline⟩
  · rw [hline, afterBox?_append hbox]
    simp only [hd.trimStart_append hne, endFound?_bracketed?_append hid, hd.trimEnd_append_blank,
      hdrop, hd.trimmed]
  · obtain ⟨text, htext⟩ : ∃ text, text =
        boldMark ++ id.toList ++ boldMark ++ ':' :: ' ' :: description.toList := ⟨_, rfl⟩
    have hstart : trimStart (' ' :: text) = text := htext ▸ rfl
    have hnone : endFound? bracketed? text = none := by
      have hsplit : text = (boldMark ++ id.toList ++ boldMark ++ [':']) ++
          ' ' :: description.toList := by
        simp [htext]
      rw [hsplit, endFound?_bracketed?_append_eq_none hends]
    have hmark : bold? text = some (id.toList, ':' :: ' ' :: description.toList) :=
      bold?_eq_some_iff.2 ⟨hid, htext⟩
    have hafter : afterLabel (':' :: ' ' :: description.toList) = description.toList := by
      have hrest := hd.trimStart_append hne []
      rwa [List.append_nil] at hrest
    rw [hline, afterBox?_append hbox, ← htext]
    simp only [hstart, hnone, dropBoldIds_of_bold? hmark, hafter, hdrop, hd.trimmed]

end Lines

/-! ### Subtasks -/

/-- **Checkboxes are read back** from either form of their lines, and nothing around them matters to
what is read. -/
theorem exists_subtask_of_isCheckboxLine {box : Char} {description id line : String}
    (hbox : box = ' ' ∨ box = 'x' ∨ box = 'X') (hid : IsCheckboxId id.toList)
    (hd : IsPhrase description) (hne : description ≠ "") (hplain : ¬ HoldsBoldId description)
    (hline : IsCheckboxLine box description id line) (policy : Policy) (category : Option String)
    (start : Int) (before rest : List String) : ∃ u,
      subtasks policy category start (before ++ line :: rest) =
        subtasks policy category start before ++
          u :: subtasks policy category (start + before.length + 1) rest ∧
      u.line = start + before.length ∧ IsReadOfCheckbox box description id u := by
  have hmarker := marker?_of_isCheckboxLine hbox hline
  obtain ⟨more, hmore⟩ := afterBox?_of_isCheckboxLine hbox hline
  have hread := checkboxIdOf?_of_isCheckboxLine hbox hid hd hne hline
  have hshown := checkboxDescription_of_isCheckboxLine hbox hid hd hne hplain hline
  refine ⟨checkboxSubtask policy category line (start + before.length), ?_, rfl, rfl, ?_, rfl, ?_,
    ?_⟩
  · rw [subtasks_append_of_stops (by simp [hmarker]), subtasks, hmarker]
  · simp [checkboxSubtask, hread]
  · rcases hbox with rfl | rfl | rfl <;> simp [checkboxSubtask, hmore] <;> rfl
  · simp [checkboxSubtask, hshown]

theorem exists_subtask_of_isCheckboxLine_bothForms : ∃ first second,
    subtasks .standard none 0 (["The list:"] ++ "- [ ] Read [AB0002] **first** [AB0001a]" ::
        ["- [X] **AB0001b**: Test **it**: [AB0002] too"]) =
      subtasks .standard none 0 ["The list:"] ++ first ::
        subtasks .standard none 2 ["- [X] **AB0001b**: Test **it**: [AB0002] too"] ∧
    subtasks .standard none 2 ([] ++ "- [X] **AB0001b**: Test **it**: [AB0002] too" :: []) =
      subtasks .standard none 2 [] ++ second :: subtasks .standard none 3 [] ∧
    IsReadOfCheckbox ' ' "Read [AB0002] **first**" "AB0001a" first ∧
    IsReadOfCheckbox 'X' "Test **it**: [AB0002] too" "AB0001b" second := by
  have hplain : IsPlain ("AB".toList ++ "0001".toList) :=
    isPlain_append (by decide) (by decide) (by decide)
  have hidFirst : IsCheckboxId "AB0001a".toList :=
    ⟨_, some 'a', hplain, by simp [isSmall], rfl⟩
  have hidSecond : IsCheckboxId "AB0001b".toList :=
    ⟨_, some 'b', hplain, by simp [isSmall], rfl⟩
  have hfirst : IsCheckboxLine ' ' "Read [AB0002] **first**" "AB0001a"
      "- [ ] Read [AB0002] **first** [AB0001a]" := .bracketed
  have hsecond : IsCheckboxLine 'X' "Test **it**: [AB0002] too" "AB0001b"
      "- [X] **AB0001b**: Test **it**: [AB0002] too" :=
    .bold (endFound?_bracketed?_eq_none_iff.1 (by decide))
  obtain ⟨first, hread, -, hfirst⟩ := exists_subtask_of_isCheckboxLine (by decide) hidFirst
    ⟨by decide, by decide⟩ (by decide)
    (firstFound?_bold?_eq_none_iff.1 (by decide)) hfirst .standard none 0 ["The list:"]
    ["- [X] **AB0001b**: Test **it**: [AB0002] too"]
  obtain ⟨second, hread', -, hsecond⟩ := exists_subtask_of_isCheckboxLine (by decide) hidSecond
    ⟨by decide, by decide⟩ (by decide)
    (firstFound?_bold?_eq_none_iff.1 (by decide)) hsecond .standard none 2 [] []
  exact ⟨first, second, hread, hread', hfirst, hsecond⟩

end TaskAudit.Document
