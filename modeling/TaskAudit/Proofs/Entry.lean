import TaskAudit.Proofs.Wording

/-!
# Sections that are written and read

The section of a template's main task starts with its heading and ends where the next one starts.
Its lines belong to the task, its subtasks' lines apart, and its status, priority and rating are
read back from them.
-/

namespace TaskAudit

open Text Document Content

namespace Template

/-! ### Lines inside of sections -/

def definedNames : List String := blocks.map Prod.fst

/-- A line that uses defined names only. -/
structure IsLine (line : String) : Prop where
  isUnbroken : IsUnbroken line
  references : ∀ name ∈ references line, name ∈ definedNames

/-- A line that no section ends at. -/
structure IsInner (line : String) : Prop extends IsLine line where
  isBoundary : isBoundary line = false

/-- A line inside of a section that starts no subtask. -/
structure IsOwn (line : String) : Prop extends IsInner line where
  marker? : marker? line = none

/-- A line that refers to nothing and says nothing of dependencies, metrics or complexity. -/
def IsPassive (line : String) : Prop :=
  IsQuiet line ∨ ∃ name, IsCalmName name ∧ line = label name

theorem isPassive_label {name : String} (h : IsCalmName name) : IsPassive (label name) :=
  Or.inr ⟨name, h, rfl⟩

theorem isPassive_empty : IsPassive "" := Or.inl (isQuiet_ofList rfl)

theorem isOwn_of_isQuiet {line : String} (h : IsQuiet line) : IsOwn line where
  isUnbroken := h.isUnbroken
  isBoundary := isBoundary_of_not_mem h.number_sign_not_mem
  references := by simp [references_of_not_mem h.brace_not_mem]
  marker? := h.isCalm.marker?

section LabelAppend

variable {name rest : String} (h : IsName name) (hrest : IsQuiet rest)

include h hrest

theorem not_mem_label_append {c : Char} (hstar : c ≠ '*') (hc : isQuietChar c = false) :
    c ∉ (label name ++ rest).toList := by
  rw [String.toList_append, List.mem_append, not_or]
  exact ⟨not_mem_label h hstar hc, fun hmem => by simp [hrest c hmem] at hc⟩

theorem references_label_append : references (label name ++ rest) = [] :=
  references_of_not_mem (not_mem_label_append h hrest (by decide) rfl)

/-- What follows a label on its line makes no difference to what the line is. -/
theorem isOwn_label_append : IsOwn (label name ++ rest) := by
  have hnumber := not_mem_label_append h hrest (by decide : '#' ≠ '*') rfl
  refine ⟨⟨⟨?_, ?_⟩, isBoundary_of_not_mem hnumber⟩, ?_⟩
  · exact isUnbroken_append.2 ⟨isUnbroken_label h, hrest.isUnbroken⟩
  · simp [references_label_append h hrest]
  · exact marker?_of_not_mem hnumber (not_mem_label_append h hrest (by decide) rfl)

end LabelAppend

theorem references_label {name : String} (h : IsName name) : references (label name) = [] :=
  references_of_not_mem (not_mem_label h (by decide) rfl)

theorem isOwn_label {name : String} (h : IsName name) : IsOwn (label name) := by
  have hempty : IsQuiet "" := isQuiet_ofList rfl
  simpa using isOwn_label_append h hempty

theorem isOwn_of_mem_field {name value : String} (hname : IsName name) (hvalue : IsQuiet value) :
    ∀ line ∈ field name value, IsOwn line := by
  simp only [field, List.forall_mem_cons]
  exact ⟨isOwn_label hname, isOwn_of_isQuiet hvalue, isOwn_of_isQuiet (isQuiet_ofList rfl), by simp⟩

theorem isOwn_use : ∀ name ∈ definedNames, IsOwn (use name) ∧ references (use name) = [name] := by
  intro name hname
  have hplain : ∀ name ∈ definedNames, IsUnbroken (use name) ∧ isBoundary (use name) = false ∧
      Document.marker? (use name) = none ∧ Document.references (use name) = [name] := by
    decide +kernel
  obtain ⟨hunbroken, hboundary, hmarker, hreferences⟩ := hplain name hname
  refine ⟨⟨⟨⟨hunbroken, ?_⟩, hboundary⟩, hmarker⟩, hreferences⟩
  rw [hreferences]
  simpa using hname

theorem isCalm_use_errorHandling : IsCalm (use "error-handling") := by decide +kernel

namespace IsPassive

variable {line : String} (h : IsPassive line)

include h

theorem isOwn : IsOwn line := by
  rcases h with hquiet | ⟨name, hname, rfl⟩
  · exact isOwn_of_isQuiet hquiet
  · exact isOwn_label hname.toIsName

theorem isCalm : IsCalm line := by
  rcases h with hquiet | ⟨name, hname, rfl⟩
  · exact hquiet.isCalm
  · exact hname.isCalm_label

theorem references_eq_nil : references line = [] := by
  rcases h with hquiet | ⟨name, hname, rfl⟩
  · exact references_of_not_mem hquiet.brace_not_mem
  · exact references_label hname.toIsName

end IsPassive

theorem flatMap_references_eq_nil {lines : List String} (h : ∀ line ∈ lines, IsPassive line) :
    lines.flatMap references = [] :=
  List.flatMap_eq_nil_iff.2 fun line hline => (h line hline).references_eq_nil

theorem isPassive_of_mem_field {name value : String} (hname : IsCalmName name)
    (hvalue : IsQuiet value) : ∀ line ∈ field name value, IsPassive line := by
  simp only [field, List.forall_mem_cons]
  exact ⟨isPassive_label hname, Or.inl hvalue, isPassive_empty, by simp⟩

theorem IsReadable.isPassive {template : Template} {sections : List String}
    (h : template.IsReadable sections) :
    ∀ line ∈ categoryLines template sections, IsPassive line := by
  intro line hline
  obtain ⟨name, hname, hline⟩ := List.mem_flatMap.1 hline
  rcases List.mem_cons.1 hline with rfl | hline
  · exact isPassive_label (h.names name hname)
  rcases List.mem_append.1 hline with hline | hline
  · left
    cases hget : Catalog.get? name template.sections with
    | none =>
        rw [hget] at hline
        rw [List.mem_singleton.1 hline]
        exact isQuiet_ofList rfl
    | some lines =>
        rw [hget] at hline
        exact h.lines _ (Catalog.mem_of_get?_eq_some hget) line hline
  · rw [List.mem_singleton.1 hline]
    exact isPassive_empty

/-! ### Fields -/

/-- A value that can be read back from the line below a label and from a cell of a row. -/
structure IsField (s : String) : Prop extends IsTitle s where
  notBlank : isBlankString s = false

theorem isField_ofList {cs : List Char} (hquiet : cs.all isQuietChar = true)
    (hcell : (!cs.contains '|' && trim cs == cs) = true) (hblank : allBlank cs = false) :
    IsField (String.ofList cs) := by
  refine ⟨isTitle_ofList hquiet hcell, ?_⟩
  rw [isBlankString, String.toList_ofList, hblank]

theorem nonBlank?_trimmed {s : String} (h : IsField s) : nonBlank? (trimmed s) = some s := by
  have htrimmed : trimmed s = s := by rw [trimmed, h.trimmed, String.ofList_toList]
  rw [htrimmed, nonBlank?, h.notBlank, htrimmed]
  rfl

theorem field?_label {name value : String} {rest : List String} (hname : IsName name) :
    field? name (label name :: value :: rest) = some (trimmed value) := by
  have hlabelled : labelled? name.toList (label name).toList = some (false, []) := by
    rw [labelled?_label hname hname, if_pos rfl]
  simp only [field?, hlabelled, List.head?_cons, Option.map_some]

theorem filledField?_label {before rest : List String} {name value : String} (hname : IsName name)
    (hvalue : IsField value)
    (h : ∀ line ∈ before, labelled? name.toList line.toList = none) :
    filledField? name (before ++ label name :: value :: rest) = some value := by
  simp only [filledField?, field?_append h, field?_label hname, Option.bind_some]
  exact nonBlank?_trimmed hvalue

theorem labelled?_of_mem_field {name other value : String} (hname : IsName name)
    (hother : IsName other) (hne : other ≠ name) (hvalue : IsQuiet value) :
    ∀ line ∈ field name value, labelled? other.toList line.toList = none := by
  simp only [field, List.forall_mem_cons]
  refine ⟨?_, ?_, ?_, by simp⟩
  · rw [labelled?_label hname hother, if_neg hne]
  · exact labelled?_of_not_mem hvalue.asterisk_not_mem _
  · exact labelled?_of_not_mem (by decide) _

/-! ### Main tasks -/

namespace Entry

/-- A main task that can be read back, with the code and the number of its id. -/
structure IsReadable (e : Entry) (code : String) (n : Nat) : Prop where
  id : e.id = TaskId.ofNumber code n
  isCode : TaskId.IsCode code
  number_le : n ≤ 9999
  title : IsTitle e.title
  description : IsQuiet e.description
  status : IsField e.status
  priority : IsField e.priority
  rating : ∀ rating, e.rating = some rating → IsField rating
  requirement : IsQuiet e.requirement
  closing : ∀ line ∈ e.closing, IsOwn line

/-- What is read of a main task whose section holds the given lines of its category. -/
structure IsRead (policy : Policy) (e : Entry) (ofCategory : List String) (code : String) (n : Nat)
    (t : Task) : Prop where
  kind : t.kind = .main
  listed : t.origin ≠ .apart
  id : t.id = TaskId.ofNumber code n
  code : t.code = some code
  category : t.category = policy.categoryOf? n
  ownLines : t.ownLines = e.lines ofCategory
  status : t.status = e.status
  priority : t.priority = some e.priority
  rating : ∀ rating, e.rating = some rating → t.rating = some rating

variable {e : Entry} {code : String} {n : Nat} {ofCategory : List String}
  (h : e.IsReadable code n)

include h

theorem isQuiet_id : IsQuiet e.id := h.id ▸ TaskId.isQuiet_ofNumber h.isCode h.number_le

/-! #### Headings -/

omit h in
theorem toList_heading :
    e.heading.toList = "### ".toList ++ (e.id.toList ++ (": ".toList ++ e.title.toList)) := by
  simp [heading]

theorem not_mem_heading {c : Char} (hmark : c ≠ '#') (hc : isQuietChar c = false) :
    c ∉ e.heading.toList := by
  have hid : c ∉ e.id.toList := fun hmem => by simp [isQuiet_id h c hmem] at hc
  have htitle : c ∉ e.title.toList := fun hmem => by simp [h.title.quiet c hmem] at hc
  have hspace : c ≠ ' ' := fun heq => by simp [heq, show isQuietChar ' ' = true by decide] at hc
  have hcolon : c ≠ ':' := fun heq => by simp [heq, show isQuietChar ':' = true by decide] at hc
  simp [toList_heading, hmark, hid, htitle, hspace, hcolon]

theorem references_heading : references e.heading = [] :=
  references_of_not_mem (not_mem_heading h (by decide) rfl)

theorem isLine_heading : IsLine e.heading where
  isUnbroken := by
    simp only [heading, isUnbroken_append]
    exact ⟨⟨⟨by decide, (isQuiet_id h).isUnbroken⟩, by decide⟩, h.title.quiet.isUnbroken⟩
  references := by simp [references_heading h]

omit h in
theorem definedName?_heading : definedName? e.heading = none := by
  simp [definedName?, toList_heading, after?]

theorem isCalm_heading : IsCalm e.heading where
  marker? := by
    have hnumber : afterNumber? e.heading.toList = none := by
      simp [afterNumber?, toList_heading, after?]
    have hbox : afterBox? e.heading.toList = none := by
      simp [afterBox?, toList_heading, after?]
    simp [marker?, hnumber, hbox]
  dependencies := labelled?_of_not_mem (not_mem_heading h (by decide) rfl) _
  metrics := afterName?_of_not_mem (not_mem_heading h (by decide) rfl) _
  complexity := statedWord?_of_not_mem (not_mem_heading h (by decide) rfl)

theorem taskHeading?_heading :
    taskHeading? e.heading = some (e.id.toList, ' ' :: e.title.toList) := by
  have hdigits := isNumberText_numberText h.number_le
  obtain ⟨d, ds, htext, hd⟩ := TaskId.exists_digit_numberText h.number_le
  have hcapitals : ∀ c ∈ code.toList, isHeadingCapital c = true := by
    intro c hc
    simp [isHeadingCapital, h.isCode.isCapital c hc]
  have hcode : ∀ c, ((numberText n).toList ++ (": ".toList ++ e.title.toList)).head? = some c →
      isHeadingCapital c = false := by
    intro c hc
    have hdash : d ≠ '-' := by
      rintro rfl
      exact absurd hd (by decide)
    rw [htext, List.cons_append] at hc
    refine stops_at_cons ?_ _ c hc
    simp [isHeadingCapital, TaskId.isCapital_eq_false_of_isDigit hd, hdash]
  have hnumber : ∀ c ∈ (numberText n).toList, isDigit c = true := fun c hc =>
    isDigit_of_isDigit (hdigits.isDigit c hc)
  have hcolon : ∀ c, (": ".toList ++ e.title.toList).head? = some c → isDigit c = false := by
    rw [String.toList_ofList, List.cons_append]
    exact stops_at_cons (by decide) _
  have hleast := h.isCode.least
  have hmost := h.isCode.most
  rw [← String.length_toList] at hleast hmost
  have hlengths : 2 ≤ code.toList.length ∧ code.toList.length ≤ 9 ∧
      3 ≤ (numberText n).toList.length ∧ (numberText n).toList.length ≤ 4 := by
    rw [hdigits.length]
    omega
  have hafter : after? ['#', '#', '#', ' '] e.heading.toList =
      some (code.toList ++ ((numberText n).toList ++ (": ".toList ++ e.title.toList))) := by
    rw [toList_heading, h.id, TaskId.toList_ofNumber, List.append_assoc]
    exact after?_append _ _
  simp only [taskHeading?, hafter, Option.bind_eq_bind, Option.bind_some,
    takeWhile_run hcapitals hcode, dropWhile_run hcapitals hcode, takeWhile_run hnumber hcolon,
    dropWhile_run hnumber hcolon, if_pos hlengths]
  rw [h.id, TaskId.toList_ofNumber]
  rfl

/-! #### Lines -/

omit h in
theorem lines_append (parts : List String) : e.lines ofCategory ++ parts =
    e.heading :: (e.opening ofCategory ++ e.closing ++ parts) := by
  simp [lines]

/-- All lines before the closing ones are passive, but for one reference at their end. -/
theorem exists_opening_eq (hcategory : ∀ line ∈ ofCategory, IsPassive line) : ∃ before,
    e.opening ofCategory = before ++ [label "Error Handling", use "error-handling", ""] ∧
      ∀ line ∈ before, IsPassive line := by
  have hrequirements : ∀ line ∈ [label "Requirements", e.requirement, ""], IsPassive line :=
    isPassive_of_mem_field (IsCalmName.of_ofList rfl rfl) h.requirement
  refine ⟨_, rfl, ?_⟩
  intro line hline
  simp only [List.mem_append] at hline
  rcases hline with ((((hline | hline) | hline) | hline) | hline) | hline
  · rcases List.mem_cons.1 hline with rfl | hline
    · exact isPassive_empty
    · exact isPassive_of_mem_field (IsCalmName.of_ofList rfl rfl) h.description line hline
  · exact isPassive_of_mem_field (IsCalmName.of_ofList rfl rfl) h.status.quiet line hline
  · exact isPassive_of_mem_field (IsCalmName.of_ofList rfl rfl) h.priority.quiet line hline
  · cases hsome : e.rating with
    | none => simp [hsome] at hline
    | some rating =>
        rw [hsome] at hline
        have hquiet : IsQuiet rating := (h.rating rating hsome).quiet
        exact isPassive_of_mem_field (IsCalmName.of_ofList rfl rfl) hquiet line hline
  · exact hrequirements line hline
  · exact hcategory line hline

theorem mem_opening (hcategory : ∀ line ∈ ofCategory, IsPassive line) :
    ∀ line ∈ e.opening ofCategory, IsPassive line ∨ line = use "error-handling" := by
  obtain ⟨before, hopening, hbefore⟩ := exists_opening_eq h hcategory
  rw [hopening, List.forall_mem_append]
  refine ⟨fun line hline => Or.inl (hbefore line hline), ?_⟩
  simp only [List.forall_mem_cons]
  exact ⟨Or.inl (isPassive_label (IsCalmName.of_ofList rfl rfl)), Or.inr trivial,
    Or.inl isPassive_empty, by simp⟩

/-- Of the names that a section uses, that of error handling comes first. -/
theorem flatMap_references_lines (hcategory : ∀ line ∈ ofCategory, IsPassive line) :
    (e.lines ofCategory).flatMap references =
      "error-handling" :: e.closing.flatMap references := by
  have hlabel : IsPassive (label "Error Handling") :=
    isPassive_label (IsCalmName.of_ofList rfl rfl)
  obtain ⟨before, hopening, hbefore⟩ := exists_opening_eq h hcategory
  rw [lines, hopening]
  simp [references_heading h, flatMap_references_eq_nil hbefore, hlabel.references_eq_nil,
    isPassive_empty.references_eq_nil, (isOwn_use "error-handling" (by decide)).2]

theorem isCalm_of_mem_opening (hcategory : ∀ line ∈ ofCategory, IsPassive line) :
    ∀ line ∈ e.heading :: e.opening ofCategory, IsCalm line := by
  refine List.forall_mem_cons.2 ⟨isCalm_heading h, ?_⟩
  intro line hline
  rcases mem_opening h hcategory line hline with hpassive | rfl
  · exact hpassive.isCalm
  · exact isCalm_use_errorHandling

theorem isOwn_of_mem_body (hcategory : ∀ line ∈ ofCategory, IsPassive line) :
    ∀ line ∈ e.opening ofCategory ++ e.closing, IsOwn line := by
  refine List.forall_mem_append.2 ⟨?_, h.closing⟩
  intro line hline
  rcases mem_opening h hcategory line hline with hpassive | rfl
  · exact hpassive.isOwn
  · exact (isOwn_use _ (by decide)).1

theorem marker?_of_mem_lines (hcategory : ∀ line ∈ ofCategory, IsPassive line) :
    ∀ line ∈ e.lines ofCategory, marker? line = none := by
  rw [lines, List.cons_append, List.forall_mem_cons]
  exact ⟨(isCalm_heading h).marker?, fun line hline =>
    (isOwn_of_mem_body h hcategory line hline).marker?⟩

/-! #### Fields -/

/-- The lines of a section before its status. -/
def beginning (e : Entry) : List String := e.heading :: "" :: field "Description" e.description

theorem labelled?_of_mem_beginning {name : String} (hname : IsName name)
    (hne : name ≠ "Description") :
    ∀ line ∈ e.beginning, labelled? name.toList line.toList = none := by
  have hdescription : IsName "Description" := isName_ofList rfl rfl
  simp only [beginning, List.forall_mem_cons]
  refine ⟨?_, labelled?_of_not_mem (by decide) _, ?_⟩
  · exact labelled?_of_not_mem (not_mem_heading h (by decide) rfl) _
  · exact labelled?_of_mem_field hdescription hname hne h.description

theorem filledField?_status : filledField? "Status" (e.lines ofCategory) = some e.status := by
  have hname : IsName "Status" := isName_ofList rfl rfl
  have hlines : ∃ rest, e.lines ofCategory = e.beginning ++ label "Status" :: e.status :: rest := by
    simp [lines, opening, beginning, field]
  obtain ⟨rest, hrest⟩ := hlines
  rw [hrest]
  exact filledField?_label hname h.status (labelled?_of_mem_beginning h hname (by decide))

theorem filledField?_priority : filledField? "Priority" (e.lines ofCategory) = some e.priority := by
  have hname : IsName "Priority" := isName_ofList rfl rfl
  have hstatus : IsName "Status" := isName_ofList rfl rfl
  have hlines : ∃ rest, e.lines ofCategory =
      (e.beginning ++ field "Status" e.status) ++ label "Priority" :: e.priority :: rest := by
    simp [lines, opening, beginning, field]
  obtain ⟨rest, hrest⟩ := hlines
  rw [hrest]
  refine filledField?_label hname h.priority (List.forall_mem_append.2 ⟨?_, ?_⟩)
  · exact labelled?_of_mem_beginning h hname (by decide)
  · exact labelled?_of_mem_field hstatus hname (by decide) h.status.quiet

theorem filledField?_rating {rating : String} (hrating : e.rating = some rating) :
    filledField? "Review Rating" (e.lines ofCategory) = some rating := by
  have hname : IsName "Review Rating" := isName_ofList rfl rfl
  have hstatus : IsName "Status" := isName_ofList rfl rfl
  have hpriority : IsName "Priority" := isName_ofList rfl rfl
  have hlines : ∃ rest, e.lines ofCategory =
      (e.beginning ++ field "Status" e.status ++ field "Priority" e.priority) ++
        label "Review Rating" :: rating :: rest := by
    simp [lines, opening, beginning, field, hrating]
  obtain ⟨rest, hrest⟩ := hlines
  rw [hrest]
  refine filledField?_label hname (h.rating rating hrating) ?_
  refine List.forall_mem_append.2 ⟨List.forall_mem_append.2 ⟨?_, ?_⟩, ?_⟩
  · exact labelled?_of_mem_beginning h hname (by decide)
  · exact labelled?_of_mem_field hstatus hname (by decide) h.status.quiet
  · exact labelled?_of_mem_field hpriority hname (by decide) h.priority.quiet

end Entry

end Template

end TaskAudit
