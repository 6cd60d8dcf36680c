import TaskAudit.Proofs.Entry
import TaskAudit.Proofs.NumberedHeader

/-!
# Subtasks that are written and read

The heading of a numbered subtask gives its number and the id of its parent; both are read back from
the end of the heading, and its status and rating from the lines below.
-/

namespace TaskAudit

open Text Document

namespace Template.Part

/-- A subtask that can be read back. -/
structure IsReadable (p : Part) : Prop where
  number : ∀ c ∈ p.number.toList, c.isDigit = true
  numbered : p.number ≠ ""
  description : IsQuiet p.description
  noParenthesis : '(' ∉ p.description.toList
  status : IsField p.status
  rating : ∀ rating, p.rating = some rating → IsField rating

theorem isReadable_first : first.IsReadable where
  number := by simp [first]
  numbered := by decide
  description := isQuiet_ofList rfl
  noParenthesis := by decide
  status := isField_ofList rfl rfl rfl
  rating := by
    rintro _ ⟨⟩
    exact isField_ofList rfl rfl rfl

theorem isReadable_second : second.IsReadable where
  number := by simp [second]
  numbered := by decide
  description := isQuiet_ofList rfl
  noParenthesis := by decide
  status := isField_ofList rfl rfl rfl
  rating := by
    rintro _ ⟨⟩

variable {p : Part} (h : p.IsReadable)

/-! ### Lines -/

section Lines

include h

theorem isQuiet_number : IsQuiet p.number := by
  intro c hc
  have : 48 ≤ c.toNat ∧ c.toNat ≤ 57 := Char.isDigit_iff_toNat.1 (h.number c hc)
  exact isQuietChar_of_toNat (by omega)

theorem isOwn_of_mem_body : ∀ line ∈ p.body, IsOwn line := by
  have herrors : ∀ line ∈ [label "Error Handling", use "error-handling-subtask", ""],
      IsOwn line := by
    simp only [List.forall_mem_cons]
    exact ⟨isOwn_label (isName_ofList rfl rfl), (isOwn_use _ (by decide)).1,
      isPassive_empty.isOwn, by simp⟩
  intro line hline
  simp only [body, List.mem_append] at hline
  rcases hline with ((hline | hline) | hline) | hline
  · rcases List.mem_cons.1 hline with rfl | hline
    · exact isPassive_empty.isOwn
    · exact isOwn_of_mem_field (isName_ofList rfl rfl) h.description line hline
  · exact isOwn_of_mem_field (isName_ofList rfl rfl) h.status.quiet line hline
  · cases hsome : p.rating with
    | none => simp [hsome] at hline
    | some rating =>
        rw [hsome] at hline
        have hquiet : IsQuiet rating := (h.rating rating hsome).quiet
        exact isOwn_of_mem_field (isName_ofList rfl rfl) hquiet line hline
  · exact herrors line hline

theorem filledField?_status : filledField? "Status" p.body = some p.status := by
  have hname : IsName "Status" := isName_ofList rfl rfl
  have hdescription : IsName "Description" := isName_ofList rfl rfl
  have hlines : ∃ rest, p.body =
      ("" :: field "Description" p.description) ++ label "Status" :: p.status :: rest := by
    simp [body, field]
  obtain ⟨rest, hrest⟩ := hlines
  rw [hrest]
  refine filledField?_label hname h.status (List.forall_mem_cons.2 ⟨?_, ?_⟩)
  · exact labelled?_of_not_mem (by decide) _
  · exact labelled?_of_mem_field hdescription hname (by decide) h.description

theorem filledField?_rating {rating : String} (hrating : p.rating = some rating) :
    filledField? "Review Rating" p.body = some rating := by
  have hname : IsName "Review Rating" := isName_ofList rfl rfl
  have hdescription : IsName "Description" := isName_ofList rfl rfl
  have hstatus : IsName "Status" := isName_ofList rfl rfl
  have hlines : ∃ rest, p.body =
      ("" :: field "Description" p.description ++ field "Status" p.status) ++
        label "Review Rating" :: rating :: rest := by
    simp [body, field, hrating]
  obtain ⟨rest, hrest⟩ := hlines
  rw [hrest]
  refine filledField?_label hname (h.rating rating hrating) ?_
  refine List.forall_mem_append.2 ⟨List.forall_mem_cons.2 ⟨?_, ?_⟩, ?_⟩
  · exact labelled?_of_not_mem (by decide) _
  · exact labelled?_of_mem_field hdescription hname (by decide) h.description
  · exact labelled?_of_mem_field hstatus hname (by decide) h.status.quiet

end Lines

/-! ### Headings -/

section Headings

variable {parentId : String}

/-- The text of a heading before the id in it. -/
def beginning (p : Part) : List Char :=
  "#### ".toList ++ (p.number.toList ++ (". ".toList ++ (p.description.toList ++ " ".toList)))

theorem toList_heading : (p.heading parentId).toList =
    p.beginning ++ '(' :: (parentId.toList ++ '-' :: (p.number.toList ++ [')'])) := by
  delta heading beginning
  simp

theorem isBoundary_heading : isBoundary (p.heading parentId) = false := by
  rw [isBoundary, toList_heading]
  delta beginning
  simp

include h

theorem isInner_heading (hid : IsQuiet parentId) : IsInner (p.heading parentId) where
  isUnbroken := by
    delta heading
    simp only [isUnbroken_append]
    have hnumber := (isQuiet_number h).isUnbroken
    exact ⟨⟨⟨⟨⟨⟨⟨⟨by decide, hnumber⟩, by decide⟩, h.description.isUnbroken⟩, by decide⟩,
      hid.isUnbroken⟩, by decide⟩, hnumber⟩, by decide⟩
  isBoundary := isBoundary_heading
  references := by
    have hbrace : '{' ∉ (p.heading parentId).toList := by
      rw [toList_heading]
      delta beginning
      simp [(isQuiet_number h).brace_not_mem, h.description.brace_not_mem, hid.brace_not_mem]
    simp [references_of_not_mem hbrace]

omit h in
theorem heading_eq : p.heading parentId =
    numberedHeader p.number p.description (parentId ++ "-" ++ p.number) := by
  delta heading numberedHeader
  simp [String.append_assoc]

theorem isDigit_number : ∀ c ∈ p.number.toList, isDigit c = true := fun c hc =>
  isDigit_of_isDigit (h.number c hc)

theorem marker?_heading : marker? (p.heading parentId) = some .numbered := by
  rw [heading_eq]
  exact marker?_numberedHeader h.numbered (isDigit_number h)

/-- The id that is read from a heading is made from the one that it was written with. -/
theorem firstFound?_heading {code : String} {n : Nat} (hcode : TaskId.IsCode code) (hn : n ≤ 9999) :
    firstFound? parenthesized? (p.heading (TaskId.ofNumber code n)).toList =
      some (TaskId.ofNumber code n ++ "-" ++ p.number).toList := by
  have hid : TaskId.IsPart (TaskId.ofNumber code n ++ "-" ++ p.number)
      (TaskId.ofNumber code n) := by
    refine ⟨TaskId.isPlain_ofNumber hcode hn, p.number.toList, ?_, isDigit_number h, ?_⟩
    · exact mt String.toList_eq_nil_iff.1 h.numbered
    · simp
  have hnone : firstFound? parenthesized? p.description.toList = none := by
    have hbefore : ∀ c ∈ p.description.toList, ∀ cs, parenthesized? (c :: cs) = none :=
      fun c hc => parenthesized?_cons_of_ne fun heq => h.noParenthesis (heq ▸ hc)
    have happend : firstFound? parenthesized? (p.description.toList ++ []) = none :=
      firstFound?_append hbefore
    rwa [List.append_nil] at happend
  rw [heading_eq, firstFound?_numberedHeader (isDigit_number h) hid, hnone, Option.getD_none]

end Headings

/-! ### Subtasks -/

/-- What is read of a subtask whose parent's id has the given code and number. -/
structure IsRead (p : Part) (code : String) (n : Nat) (t : Task) : Prop where
  kind : t.kind = .subtask
  marker : t.marker = some .numbered
  listed : t.origin ≠ .apart
  id : t.id = TaskId.ofNumber code n ++ "-" ++ p.number
  code : t.code = some code
  content : t.content = p.body
  status : t.status = p.status
  rating : ∀ rating, p.rating = some rating → t.rating = some rating

include h in
/-- **A subtask is read back** from its heading and the lines below. -/
theorem isRead_numberedSubtask {policy : Policy} {category : Option String} {code : String}
    {n : Nat} {line : Int} (hcode : TaskId.IsCode code) (hn : n ≤ 9999) :
    p.IsRead code n (numberedSubtask policy category (p.heading (TaskId.ofNumber code n)) p.body
      line) := by
  have hid := firstFound?_heading h hcode hn
  constructor
  case kind => rfl
  case marker => rfl
  case listed => exact Origin.noConfusion
  case id =>
    simp only [numberedSubtask, hid, Option.map_some, String.ofList_toList, Option.getD_some]
  case code =>
    simp only [numberedSubtask, hid, Option.map_some, String.ofList_toList, Option.bind_some]
    exact TaskId.code?_part hcode hn
  case content => rfl
  case status => simp only [numberedSubtask, filledField?_status h, Option.getD_some]
  case rating =>
    intro rating hrating
    exact filledField?_rating h hrating

end Template.Part

end TaskAudit
