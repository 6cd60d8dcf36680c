import TaskAudit.Proofs.Appended
import TaskAudit.Proofs.MarkedId

/-!
# Headers of numbered subtasks

A header is written with a number, a description and an id in parentheses behind them. It is read
with two eyes: the description goes up to the id at the end, but the id is the first one that stands
in parentheses anywhere. So what is read is what was written unless the description mentions another
id in parentheses, or is empty, when the id at the end is taken for it.
-/

namespace TaskAudit.Document

open Text TaskId

def numberedHeader (number description id : String) : String :=
  "#### " ++ number ++ ". " ++ description ++ " (" ++ id ++ ")"

/-- At a place of a text stands the id of a numbered subtask in parentheses. -/
def MentionsAt (text : String) (n : Nat) (id : String) : Prop :=
  (∃ parent, IsPart id parent) ∧ ∃ rest, text.toList.drop n = '(' :: id.toList ++ ')' :: rest

def MentionsFirst (text id : String) : Prop :=
  ∃ n, MentionsAt text n id ∧ ∀ m < n, ∀ other, ¬ MentionsAt text m other

/-! ### The id -/

section Id

variable {text id : String}

theorem exists_parenthesized?_iff {n : Nat} :
    (∃ rest, parenthesized? (text.toList.drop n) = some (id.toList, rest)) ↔
      MentionsAt text n id := by
  simp [parenthesized?_eq_some_iff, MentionsAt]

theorem parenthesized?_drop_eq_none_iff {n : Nat} :
    parenthesized? (text.toList.drop n) = none ↔ ∀ id, ¬ MentionsAt text n id := by
  simp only [← exists_parenthesized?_iff, not_exists]
  constructor
  · intro hnone id rest
    simp [hnone]
  · intro h
    rw [Option.eq_none_iff_forall_ne_some]
    rintro ⟨found, rest⟩ hfound
    exact h (String.ofList found) rest (by rw [hfound, String.toList_ofList])

theorem MentionsAt.lt_length {n : Nat} (h : MentionsAt text n id) : n < text.toList.length := by
  obtain ⟨-, rest, hrest⟩ := h
  by_contra hge
  rw [List.drop_eq_nil_of_le (Nat.le_of_not_lt hge)] at hrest
  simp at hrest

theorem firstFound?_parenthesized?_iff :
    firstFound? parenthesized? text.toList = some id.toList ↔ MentionsFirst text id := by
  simp only [firstFound?_eq_some_iff, exists_parenthesized?_iff, parenthesized?_drop_eq_none_iff]
  constructor
  · rintro ⟨n, -, hn, hbefore⟩
    exact ⟨n, hn, hbefore⟩
  · rintro ⟨n, hn, hbefore⟩
    exact ⟨n, hn.lt_length, hn, hbefore⟩

theorem firstFound?_parenthesized?_eq_none_iff :
    firstFound? parenthesized? text.toList = none ↔ ∀ n id, ¬ MentionsAt text n id := by
  simp only [firstFound?_eq_none_iff, parenthesized?_drop_eq_none_iff]
  exact ⟨fun h n id hn => h n hn.lt_length id hn, fun h n _ => h n⟩

theorem mentions_cases (text : String) :
    (∃ id, MentionsFirst text id) ∨ ∀ n id, ¬ MentionsAt text n id := by
  cases hfound : firstFound? parenthesized? text.toList with
  | none => exact Or.inr (firstFound?_parenthesized?_eq_none_iff.1 hfound)
  | some found =>
      refine Or.inl ⟨String.ofList found, firstFound?_parenthesized?_iff.1 ?_⟩
      rw [hfound, String.toList_ofList]

/-- No id in parentheses goes across a blank, so the two sides of one can be searched in turn. -/
theorem firstFound?_append_blank (cs rest : List Char) :
    firstFound? parenthesized? (cs ++ ' ' :: rest) =
      (firstFound? parenthesized? cs).or (firstFound? parenthesized? rest) := by
  induction cs with
  | nil =>
      have hblank : parenthesized? (' ' :: rest) = none :=
        parenthesized?_cons_of_ne (by decide) rest
      simp [firstFound?, hblank]
  | cons c cs ih =>
      have hread := parenthesized?_append_blank (c :: cs) rest
      rw [List.cons_append] at hread ⊢
      cases hhere : parenthesized? (c :: cs) with
      | none =>
          rw [hhere] at hread
          simpa [firstFound?, hhere, hread] using ih
      | some found =>
          rw [hhere] at hread
          simp [firstFound?, hhere, hread]

end Id

/-! ### Headers -/

section Headers

theorem afterNumber?_append {number : List Char} (hne : number ≠ [])
    (hnumber : ∀ c ∈ number, isDigit c = true) (rest : List Char) :
    afterNumber? ("#### ".toList ++ (number ++ '.' :: rest)) = some rest := by
  have hpoint : ∀ c, ('.' :: rest).head? = some c → isDigit c = false :=
    stops_at_cons (by decide) rest
  have hafter : after? ['#', '#', '#', '#', ' '] ("#### ".toList ++ (number ++ '.' :: rest)) =
      some (number ++ '.' :: rest) := after?_append _ _
  rw [afterNumber?, hafter, Option.bind_eq_bind, Option.bind_some, takeWhile_run hnumber hpoint,
    dropWhile_run hnumber hpoint, if_neg hne]
  exact after?_append ['.'] rest

variable {number description id parent : String}

theorem toList_numberedHeader : (numberedHeader number description id).toList =
    "#### ".toList ++ (number.toList ++ '.' :: ' ' ::
      (description.toList ++ ' ' :: ('(' :: id.toList ++ [')']))) := by
  -- The equation lemma of a long append takes seconds to make, so the definition is opened
  -- without it.
  delta numberedHeader
  simp

theorem trimEnd_numberedHeader : trimEnd (numberedHeader number description id).toList =
    (numberedHeader number description id).toList := by
  have hlast : (numberedHeader number description id).toList =
      ("#### ".toList ++ (number.toList ++ '.' :: ' ' ::
        (description.toList ++ ' ' :: '(' :: id.toList))) ++ [')'] := by
    simp [toList_numberedHeader]
  rw [hlast, trimEnd, dropEndWhile_append_singleton, if_neg (by decide)]

theorem parenthesized?_of_isPart (hid : IsPart id parent) :
    parenthesized? ('(' :: id.toList ++ [')']) = some (id.toList, []) := by
  rw [parenthesized?_eq_some_iff, String.ofList_toList]
  exact ⟨⟨parent, hid⟩, rfl⟩

variable (hne : number ≠ "") (hnumber : ∀ c ∈ number.toList, isDigit c = true)

include hne hnumber

theorem afterNumber?_numberedHeader : afterNumber? (numberedHeader number description id).toList =
    some (' ' :: (description.toList ++ ' ' :: ('(' :: id.toList ++ [')']))) := by
  rw [toList_numberedHeader]
  exact afterNumber?_append (mt String.toList_eq_nil_iff.1 hne) hnumber _

theorem marker?_numberedHeader :
    marker? (numberedHeader number description id) = some .numbered := by
  rw [marker?, afterNumber?_numberedHeader hne hnumber]
  rfl

omit hne in
theorem firstFound?_numberedHeader (hid : IsPart id parent) :
    firstFound? parenthesized? (numberedHeader number description id).toList =
      some ((firstFound? parenthesized? description.toList).getD id.toList) := by
  have hbefore : ∀ c ∈ "#### ".toList ++ (number.toList ++ ['.', ' ']),
      ∀ cs, parenthesized? (c :: cs) = none := by
    intro c hc cs
    refine parenthesized?_cons_of_ne ?_ cs
    rintro rfl
    have hdigit : '(' ∉ number.toList := fun hmem => absurd (hnumber _ hmem) (by decide)
    simp [hdigit] at hc
  have hmark : firstFound? parenthesized? ('(' :: id.toList ++ [')']) = some id.toList := by
    rw [List.cons_append, firstFound?, ← List.cons_append, parenthesized?_of_isPart hid]
  calc firstFound? parenthesized? (numberedHeader number description id).toList
      = firstFound? parenthesized? ("#### ".toList ++ (number.toList ++ ['.', ' ']) ++
          (description.toList ++ ' ' :: ('(' :: id.toList ++ [')']))) := by
        rw [toList_numberedHeader]
        simp
    _ = firstFound? parenthesized? (description.toList ++ ' ' :: ('(' :: id.toList ++ [')'])) :=
        firstFound?_append hbefore
    _ = (firstFound? parenthesized? description.toList).or (some id.toList) := by
        rw [firstFound?_append_blank, hmark]
    _ = some ((firstFound? parenthesized? description.toList).getD id.toList) := by
        cases firstFound? parenthesized? description.toList <;> rfl

/-- What is shown of a header ends before the id at its end, and is that id if nothing is there. -/
theorem numberedDescription_numberedHeader (hid : IsPart id parent) (hd : IsPhrase description) :
    numberedDescription (numberedHeader number description id) =
      if description = "" then '(' :: id.toList ++ [')'] else description.toList := by
  have hmark := parenthesized?_of_isPart hid
  have hnone : '\n' ∉ '(' :: id.toList ++ [')'] := by
    simp [hid.not_mem (c := '\n') (by decide) (by decide) (by decide)]
  rw [numberedDescription, trimEnd_numberedHeader, afterNumber?_numberedHeader hne hnumber]
  by_cases hempty : description = ""
  · have hopen : isBlank '(' = false := by decide
    have hclose : isBlank ')' = false := by decide
    have htext : trimStart (' ' :: (description.toList ++ ' ' :: ('(' :: id.toList ++ [')']))) =
        '(' :: id.toList ++ [')'] := by
      simp [hempty, trimStart, hopen, show isBlank ' ' = true by decide]
    have hfound : endFound? parenthesized? ('(' :: id.toList ++ [')']) = some ([], id.toList) := by
      rw [List.cons_append, endFound?, ← List.cons_append, hmark]
    simp only [Option.map_some, htext, hfound]
    have hnothing : trimEnd [] = [] := rfl
    rw [if_pos hempty, if_pos hnothing, if_neg, trim_between hopen hclose]
    simpa using hnone
  · have hnonempty : description.toList ≠ [] := mt String.toList_eq_nil_iff.1 hempty
    have htext : trimStart (' ' :: (description.toList ++ ' ' :: ('(' :: id.toList ++ [')']))) =
        description.toList ++ ' ' :: ('(' :: id.toList ++ [')']) := hd.trimStart_append hempty _
    have hfound : endFound? parenthesized?
        (description.toList ++ ' ' :: ('(' :: id.toList ++ [')'])) =
          some (description.toList ++ [' '], id.toList) :=
      endFound?_append_blank (fun _ _ => blank_not_mem_of_parenthesized?) hmark
        (List.cons_ne_nil _ _) _
    simp only [Option.map_some, htext, hfound, hd.trimEnd_append_blank]
    have hunbroken : '\n' ∉ description.toList := fun hc => absurd (hd.isUnbroken _ hc) (by decide)
    rw [if_neg hempty, if_neg hnonempty, if_neg (by simp [hnonempty, hunbroken]), hd.trimmed]

end Headers

/-! ### Subtasks -/

/-- What is read of a header: its description, or its id where there is none, and the id that its
description mentions first, or its own. -/
structure IsReadOfHeader (description id : String) (u : Task) : Prop where
  mentioned : ∀ other, MentionsFirst description other → u.id = other
  own : (∀ n other, ¬ MentionsAt description n other) → u.id = id
  parentId : ∃ owner, IsPart u.id owner ∧ u.parentId = some owner
  description : u.description = if description = "" then "(" ++ id ++ ")" else description

/-- A subtask has the id and the description that its header was written with, or where none was
written the description in the lines below. -/
structure IsReadBack (description id parent : String) (u : Task) : Prop where
  id : u.id = id
  parentId : u.parentId = some parent
  description : u.description =
    if description = "" then (filledField? "Description" u.content).getD "" else description

variable {number description id parent : String}

theorem isReadOfHeader_numberedSubtask (hne : number ≠ "")
    (hnumber : ∀ c ∈ number.toList, isDigit c = true) (hid : IsPart id parent)
    (hd : IsPhrase description) {policy : Policy} {category : Option String} {body : List String}
    {line : Int} : IsReadOfHeader description id
      (numberedSubtask policy category (numberedHeader number description id) body line) := by
  obtain ⟨u, hu⟩ : ∃ u, u = numberedSubtask policy category
      (numberedHeader number description id) body line := ⟨_, rfl⟩
  rw [← hu]
  have hmentioned : ∀ other, MentionsFirst description other → u.id = other := by
    intro other hother
    simp [hu, numberedSubtask, firstFound?_numberedHeader hnumber hid,
      firstFound?_parenthesized?_iff.2 hother]
  have hown : (∀ n other, ¬ MentionsAt description n other) → u.id = id := by
    intro hnone
    simp [hu, numberedSubtask, firstFound?_numberedHeader hnumber hid,
      firstFound?_parenthesized?_eq_none_iff.2 hnone]
  have hparent : u.parentId = numberedParent? u.id := by
    simp [hu, numberedSubtask, firstFound?_numberedHeader hnumber hid]
  refine ⟨hmentioned, hown, ?_, ?_⟩
  · rcases mentions_cases description with ⟨other, hother⟩ | hnone
    · have hread := hmentioned other hother
      obtain ⟨n, ⟨⟨owner, howner⟩, -⟩, -⟩ := hother
      exact ⟨owner, by rwa [hread], by rw [hparent, hread, numberedParent?_of_isPart howner]⟩
    · have hread := hown hnone
      exact ⟨parent, by rwa [hread], by rw [hparent, hread, numberedParent?_of_isPart hid]⟩
  · simp only [hu, numberedSubtask, numberedDescription_numberedHeader hne hnumber hid hd]
    by_cases hempty : description = ""
    · simp [hempty, String.append_assoc]
    · simp [hempty]

theorem IsReadOfHeader.isReadBack_iff {u : Task} (h : IsReadOfHeader description id u)
    (hid : IsPart id parent) : IsReadBack description id parent u ↔
      (description = "" → filledField? "Description" u.content = some ("(" ++ id ++ ")")) ∧
      ∀ other, MentionsFirst description other → other = id := by
  constructor
  · intro hback
    refine ⟨fun hempty => ?_, fun other hother => (h.mentioned other hother).symm.trans hback.id⟩
    have hshown := hback.description
    rw [h.description, if_pos hempty, if_pos hempty] at hshown
    cases hfield : filledField? "Description" u.content with
    | none => simp [hfield] at hshown
    | some stated => rw [hshown, hfield, Option.getD_some]
  · rintro ⟨hstated, hsame⟩
    have hread : u.id = id := by
      rcases mentions_cases description with ⟨other, hother⟩ | hnone
      · exact (h.mentioned other hother).trans (hsame other hother)
      · exact h.own hnone
    refine ⟨hread, ?_, ?_⟩
    · obtain ⟨owner, howner, hparent⟩ := h.parentId
      rw [hread] at howner
      rw [hparent, ← numberedParent?_of_isPart howner, numberedParent?_of_isPart hid]
    · rw [h.description]
      by_cases hempty : description = ""
      · rw [if_pos hempty, if_pos hempty, hstated hempty, Option.getD_some]
      · rw [if_neg hempty, if_neg hempty]

/-- **A header is read as it was written** unless its description mentions another id in
parentheses before its own, which is then taken for it, or is empty, when the id stands in for it
whatever the lines below state. -/
theorem exists_subtask_of_numberedHeader (hne : number ≠ "")
    (hnumber : ∀ c ∈ number.toList, isDigit c = true) (hid : IsPart id parent)
    (hd : IsPhrase description) (policy : Policy) (category : Option String) (start : Int)
    (before body : List String) : ∃ u more,
      subtasks policy category start (before ++ numberedHeader number description id :: body) =
        subtasks policy category start before ++ u :: more ∧
      u.marker = some .numbered ∧ u.line = start + before.length ∧
      u.content = body.takeWhile (fun line => (marker? line).isNone) ∧
      IsReadOfHeader description id u ∧
      (IsReadBack description id parent u ↔
        (description = "" → filledField? "Description" u.content = some ("(" ++ id ++ ")")) ∧
        ∀ other, MentionsFirst description other → other = id) := by
  have hmarker : marker? (numberedHeader number description id) = some .numbered :=
    marker?_numberedHeader hne hnumber
  have hread : ∀ {block : List String} {line : Int}, IsReadOfHeader description id
      (numberedSubtask policy category (numberedHeader number description id) block line) :=
    isReadOfHeader_numberedSubtask hne hnumber hid hd
  refine ⟨_, subtasks policy category (start + before.length + 1) body, ?_, rfl, rfl, rfl, hread,
    hread.isReadBack_iff hid⟩
  rw [subtasks_append_of_stops (by simp [hmarker]), subtasks, hmarker]

theorem isPart_first : IsPart "AB0001-1" "AB0001" := by
  have hplain : IsPlain ("AB".toList ++ "0001".toList) :=
    isPlain_append (by decide) (by decide) (by decide)
  exact ⟨hplain, ['1'], by simp, List.all_eq_true.1 (by decide), rfl⟩

theorem exists_subtask_of_plainHeader : IsPart "AB0001-1" "AB0001" ∧
    IsPhrase "Redo AB0002-3 (again)" ∧ ∃ u more,
      subtasks .standard none 0 ([] ++ numberedHeader "1" "Redo AB0002-3 (again)" "AB0001-1" ::
          ["**Description**: Draft it", "- [x] Read it [AB0001a]"]) =
        subtasks .standard none 0 [] ++ u :: more ∧
      u.content = ["**Description**: Draft it"] ∧
      IsReadBack "Redo AB0002-3 (again)" "AB0001-1" "AB0001" u := by
  have hphrase : IsPhrase "Redo AB0002-3 (again)" := ⟨by decide, by decide⟩
  have hnone : ∀ n id, ¬ MentionsAt "Redo AB0002-3 (again)" n id :=
    firstFound?_parenthesized?_eq_none_iff.1 (by decide)
  have hnumber : ∀ c ∈ "1".toList, isDigit c = true := List.all_eq_true.1 (by decide)
  obtain ⟨u, more, hread, -, -, hcontent, -, hback⟩ :=
    exists_subtask_of_numberedHeader (by decide) hnumber isPart_first hphrase
      .standard none 0 [] ["**Description**: Draft it", "- [x] Read it [AB0001a]"]
  refine ⟨isPart_first, hphrase, u, more, hread, ?_, hback.2 ⟨nofun, ?_⟩⟩
  · rw [hcontent]
    decide
  · rintro other ⟨n, hother, -⟩
    exact absurd hother (hnone n other)

/-- The description below a header without one is not read, and an id that a header mentions is. -/
theorem exists_not_isReadBack : IsPart "AB0001-1" "AB0001" ∧
    (IsPhrase "" ∧ ∃ u, subtasks .standard none 0
        [numberedHeader "1" "" "AB0001-1", "**Description**: Draft it"] = [u] ∧
      ¬ IsReadBack "" "AB0001-1" "AB0001" u) ∧
    IsPhrase "Redo (AB0002-3) first" ∧ ∃ u, subtasks .standard none 0
        [numberedHeader "1" "Redo (AB0002-3) first" "AB0001-1"] = [u] ∧
      ¬ IsReadBack "Redo (AB0002-3) first" "AB0001-1" "AB0001" u := by
  refine ⟨isPart_first, ⟨⟨by decide, by decide⟩, _, rfl, fun h => ?_⟩,
    ⟨by decide, by decide⟩, _, rfl, fun h => ?_⟩
  · exact absurd h.description (by decide)
  · exact absurd h.id (by decide)

end TaskAudit.Document
