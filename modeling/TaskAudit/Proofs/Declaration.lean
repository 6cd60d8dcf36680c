import TaskAudit.Proofs.Dependencies
import TaskAudit.Proofs.Passing
import TaskAudit.Proofs.Quiet

/-!
# Declared dependencies

The section of dependencies that a task has in its own lines settles what the task depends on if it
names any, or if the task uses no reference but those that say there are none. Otherwise a block may
come to bear although the section says that there are no dependencies.
-/

namespace TaskAudit

open Text Document

namespace Content

/-! ### The value of a section -/

/-- Whether the name of a section has a colon, and what follows it, if a line starts with it. -/
def sectionText? (name line : String) : Option (Bool × List Char) := do
  let (inner, afterLabel) := dropColon (← after? (boldMark ++ name.toList) (trimStart line.toList))
  let (outer, value) := dropColon (← after? boldMark afterLabel)
  return (inner || outer, value)

/-- What a section says: the text after its colon, or else the next line. -/
def sectionValue (name line : String) (rest : List String) : String :=
  match sectionText? name line with
  | some (true, value) => String.ofList (trim value)
  | _ => (rest.head?.map trimmed).getD ""

/-- A section that starts its line and says all it says on it. -/
structure IsFlush (line : String) : Prop where
  noBlank : trimStart line.toList = line.toList
  noBreak : '\n' ∉ line.toList

variable {name line : String}

theorem isSome_sectionText? (name line : String) :
    (sectionText? name line).isSome = (afterName? name line).isSome := by
  simp only [sectionText?, afterName?]
  cases after? (boldMark ++ name.toList) (trimStart line.toList) with
  | none => rfl
  | some rest =>
      cases hafter : after? boldMark (dropColon rest).2 <;> simp [hafter]

theorem oneLine?_eq_some {cs : List Char} (h : '\n' ∉ cs) : oneLine? cs = some cs := by
  induction cs with
  | nil => rfl
  | cons c cs ih =>
      obtain ⟨hc, hcs⟩ := not_or.1 (List.mem_cons.not.1 h)
      rw [oneLine?, if_neg (Ne.symm hc), ih hcs]
      · rfl
      · rintro rfl
        exact absurd rfl hc

theorem suffix_dropColon (cs : List Char) : (dropColon cs).2 <:+ cs := by
  unfold dropColon
  split
  · exact List.suffix_cons _ _
  · exact List.suffix_rfl

theorem suffix_of_after? {beginning cs rest : List Char} (h : after? beginning cs = some rest) :
    rest <:+ cs :=
  ⟨beginning, (after?_eq_some_iff.1 h).symm⟩

theorem suffix_of_sectionText? {colon : Bool} {value : List Char}
    (h : sectionText? name line = some (colon, value)) : value <:+ line.toList := by
  obtain ⟨rest, hrest, h⟩ := Option.bind_eq_some_iff.1 h
  obtain ⟨tail, htail, h⟩ := Option.bind_eq_some_iff.1 h
  obtain ⟨-, rfl⟩ := Prod.mk.inj (Option.some.inj h)
  exact (suffix_dropColon tail).trans ((suffix_of_after? htail).trans
    ((suffix_dropColon rest).trans ((suffix_of_after? hrest).trans (List.dropWhile_suffix _))))

/-- A field is a section whose name starts its line. -/
theorem labelled?_eq_sectionText? (hflush : IsFlush line) :
    labelled? name.toList line.toList = sectionText? name line := by
  have hread : labelled? name.toList line.toList = (sectionText? name line).bind fun found =>
      (oneLine? found.2).map (found.1, ·) := by
    simp only [labelled?, sectionText?, hflush.noBlank]
    cases after? (boldMark ++ name.toList) line.toList with
    | none => rfl
    | some rest =>
        cases hafter : after? boldMark (dropColon rest).2 with
        | none => simp [hafter]
        | some tail =>
            cases honeLine : oneLine? (dropColon tail).2 <;> simp [hafter, honeLine]
  rw [hread]
  cases hfound : sectionText? name line with
  | none => rfl
  | some found =>
      have hbreak : '\n' ∉ found.2 := fun hmem =>
        hflush.noBreak ((suffix_of_sectionText? hfound).subset hmem)
      rw [Option.bind_some, oneLine?_eq_some hbreak]
      rfl

theorem labelled?_eq_none (h : afterName? name line = none) :
    labelled? name.toList line.toList = none := by
  rw [Option.eq_none_iff_forall_ne_some]
  intro found hfound
  obtain ⟨rest, hrest, hfound⟩ := Option.bind_eq_some_iff.1 hfound
  obtain ⟨tail, htail, -⟩ := Option.bind_eq_some_iff.1 hfound
  have hmark : after? boldMark (dropColon rest).2 = some tail := htail
  have hstart : trimStart line.toList = line.toList := by
    rw [after?_eq_some_iff.1 hrest]
    exact List.dropWhile_cons_of_neg (by decide)
  rw [afterName?, hstart, hrest] at h
  exact absurd (hmark.symm.trans h) (Option.some_ne_none tail)

end Content

namespace Check.Dependencies

open Content

variable {t : Task} {before rest : List String} {line : String}

/-! ### What is declared -/

/-- A section that starts its line is read as the field of dependencies. -/
theorem fieldIds_eq_ids (hbefore : ∀ l ∈ before, afterName? "Dependencies" l = none)
    (hline : (afterName? "Dependencies" line).isSome = true) (hflush : IsFlush line) :
    fieldIds (before ++ line :: rest) = ids (sectionValue "Dependencies" line rest) := by
  rw [fieldIds, field?_append fun l hl => labelled?_eq_none (hbefore l hl), field?,
    labelled?_eq_sectionText? hflush, sectionValue]
  rw [← isSome_sectionText?] at hline
  obtain ⟨⟨colon, value⟩, hfound⟩ := Option.isSome_iff_exists.1 hline
  rw [hfound]
  cases colon with
  | true => rfl
  | false =>
      cases rest with
      | nil =>
          have hempty : ids "" = [] := by decide +kernel
          exact hempty.symm
      | cons next rest => rfl

/-- The ids of the first block with a section of dependencies, among the references in use. -/
def blockIds (references : References) (t : Task) : List String :=
  let blocks := (referencesIn t.ownLines).filterMap fun name =>
    if isNoneName name then none else references.find? name
  match blocks.find? (hasSection · "Dependencies") with
  | some block => fieldIds block
  | none => []

theorem declared_eq_ite (references : References) (t : Task) : declared references t =
    if fieldIds t.ownLines = [] then blockIds references t else fieldIds t.ownLines := by
  simp only [declared, blockIds]
  cases fieldIds t.ownLines with
  | nil => rfl
  | cons id more => rfl

theorem blockIds_eq_nil {references : References}
    (h : ∀ name ∈ referencesIn t.ownLines, isNoneName name = true ∨ references.find? name = none) :
    blockIds references t = [] := by
  have hblocks : ((referencesIn t.ownLines).filterMap fun name =>
      if isNoneName name then none else references.find? name) = [] := by
    rw [List.filterMap_eq_nil_iff]
    intro name hname
    split
    · rfl
    · next hother => exact (h name hname).resolve_left hother
  rw [blockIds, hblocks]
  rfl

/-- A reference in use, other than those that say there are no dependencies, may name some. -/
theorem exists_blockIds_ne_nil {name : String} (hname : name ∈ referencesIn t.ownLines)
    (hother : isNoneName name = false) : ∃ references, blockIds references t ≠ [] := by
  obtain ⟨block, hblock⟩ : ∃ block, block = ["**Dependencies**: AB0001"] := ⟨_, rfl⟩
  refine ⟨Catalog.ofPairs [(name, block)], ?_⟩
  have hfind : ∀ used, (Catalog.ofPairs [(name, block)]).find? used =
      if name = used then some block else none := by
    intro used
    rw [Catalog.find?_ofPairs]
    rfl
  simp only [blockIds, hfind]
  generalize hblocks : ((referencesIn t.ownLines).filterMap fun used =>
    if isNoneName used then none else if name = used then some block else none) = blocks
  have hmem : block ∈ blocks := by
    rw [← hblocks, List.mem_filterMap]
    exact ⟨name, hname, by simp [hother]⟩
  have hall : ∀ b ∈ blocks, b = block := by
    intro b hb
    rw [← hblocks, List.mem_filterMap] at hb
    obtain ⟨used, -, hused⟩ := hb
    split at hused
    · exact absurd hused nofun
    · split at hused
      · exact (Option.some.inj hused).symm
      · exact absurd hused nofun
  cases hfirst : blocks.find? (hasSection · "Dependencies") with
  | none =>
      have hnot := List.find?_eq_none.1 hfirst block hmem
      rw [hblock] at hnot
      exact absurd (by decide +kernel) hnot
  | some b =>
      rw [hall b (List.mem_of_find?_eq_some hfirst), hblock]
      decide +kernel

/-- A task's dependencies are some ids whatever its references stand for exactly if they are those
of its own field, and there is at least one or no reference that may name others. -/
theorem forall_declared_eq_iff (expected : List String) :
    (∀ references, declared references t = expected) ↔ fieldIds t.ownLines = expected ∧
      (expected ≠ [] ∨ ∀ name ∈ referencesIn t.ownLines, isNoneName name = true) := by
  constructor
  · intro h
    have hown : fieldIds t.ownLines = expected := by
      have hempty : blockIds ∅ t = [] := blockIds_eq_nil fun _ _ => .inr rfl
      rw [← h ∅, declared_eq_ite, hempty, eq_comm, ite_eq_right_iff]
      exact Eq.symm
    refine ⟨hown, or_iff_not_imp_left.2 fun hnone name hname => ?_⟩
    rw [not_not] at hnone
    by_contra hother
    obtain ⟨references, hsome⟩ := exists_blockIds_ne_nil hname (by simpa using hother)
    refine hsome ?_
    have hdeclared := h references
    rwa [declared_eq_ite, hown, if_pos hnone, hnone] at hdeclared
  · rintro ⟨rfl, hsettled⟩ references
    rw [declared_eq_ite, ite_eq_right_iff]
    intro hnone
    have hnames := hsettled.resolve_left fun hne => hne hnone
    rw [hnone, blockIds_eq_nil fun name hname => .inl (hnames name hname)]

/-! ### What is reported -/

/-- A task that depends on nothing is on no cycle. -/
theorem cycleIssues_of_declared_eq_nil {l : TaskList} (h : declared l.references t = []) :
    cycleIssues l t = [] := by
  have hnone : Graph.cycle? ((graph l).insert t.id []) t.id = none := by
    rw [Graph.cycle?_eq_none_iff]
    intro hcycle
    obtain ⟨next, hedge, -⟩ := Relation.TransGen.head'_iff.1 hcycle
    rw [Graph.Edge, Graph.next, Catalog.find?_insert, if_pos rfl] at hedge
    exact absurd hedge List.not_mem_nil
  simp [cycleIssues, cycle?, h, hnone]

variable {scope : Scope}

theorem kind_of_declared_eq_nil (hdeclared : isDeclared t = true)
    (h : declared scope.references t = []) {i : Issue} (hi : i ∈ issues t scope) :
    i.kind = .missingDependencyReference := by
  have hcycles : cycleIssues scope.list t = [] := cycleIssues_of_declared_eq_nil h
  have hexistence : existenceIssues scope.list t = [] := by
    have hlist : declared scope.list.references t = [] := h
    simp [existenceIssues, hlist]
  rw [issues, if_pos hdeclared, hcycles, hexistence, ite_self, List.append_nil,
    List.append_nil] at hi
  exact kind_of_mem_referenceIssues hi

theorem exists_reported_of_mem_declared (hdeclared : isDeclared t = true)
    (hon : scope.settings.isOn "validate_existence" true = true) {id : String}
    (hid : id ∈ declared scope.references t) (hunknown : id ∉ scope.list.ids) :
    ∃ unknown, id ∈ unknown ∧ .invalidDependencyReference t.id unknown ∈ issues t scope := by
  obtain ⟨unknown, heq⟩ : ∃ unknown, unknown =
      (declared scope.list.references t).filter (!scope.list.ids.contains ·) := ⟨_, rfl⟩
  have hmem : id ∈ unknown := by
    rw [heq, List.mem_filter]
    exact ⟨hid, by simpa using hunknown⟩
  have hexistence : existenceIssues scope.list t = [.invalidDependencyReference t.id unknown] := by
    rw [existenceIssues, ← heq]
    exact if_neg (by simpa using List.ne_nil_of_mem hmem)
  refine ⟨unknown, hmem, ?_⟩
  rw [issues, if_pos hdeclared, if_pos hon, hexistence]
  simp

/-- **Declared dependencies.** The section of dependencies in a task's own lines settles what the
task depends on, whatever references stand for, exactly if it is read as a field and either names
some ids or the task uses no reference but those that say there are none. It is read as a field if
it starts its line. Wherever it settles them, a task whose section names none has no error about ids
or cycles, and every id in it that is not of the list is reported. -/
theorem declared_of_section (hlines : t.ownLines = before ++ line :: rest)
    (hbefore : ∀ l ∈ before, afterName? "Dependencies" l = none)
    (hline : (afterName? "Dependencies" line).isSome = true) :
    let stated := ids (sectionValue "Dependencies" line rest)
    ((∀ references, declared references t = stated) ↔ fieldIds t.ownLines = stated ∧
      (stated ≠ [] ∨ ∀ name ∈ referencesIn t.ownLines, isNoneName name = true)) ∧
    (IsFlush line → fieldIds t.ownLines = stated) ∧
    ∀ scope : Scope, declared scope.references t = stated →
      ∃ v, Check.dependencies.run t scope = .ok v ∧
        (stated = [] → ∀ i ∈ v.errors, i.kind ≠ .invalidDependencyReference ∧
          i.kind ≠ .circularDependency) ∧
        (scope.settings.isOn "validate_existence" true = true →
          ∀ id ∈ stated, id ∉ scope.list.ids →
            ∃ unknown, id ∈ unknown ∧ .invalidDependencyReference t.id unknown ∈ v.errors) := by
  intro stated
  have hdeclared : isDeclared t = true := by
    have hsection : hasSection t.ownLines "Dependencies" = true :=
      hasSection_of_mem (by simp [hlines]) hline
    rw [isDeclared, hsection, Bool.true_or]
  refine ⟨forall_declared_eq_iff stated, fun hflush => ?_, fun scope hstated => ?_⟩
  · rw [hlines]
    exact fieldIds_eq_ids hbefore hline hflush
  refine ⟨.ofIssues (issues t scope), rfl, fun hnone i hi => ?_, fun hon id hid hunknown => ?_⟩
  · rw [kind_of_declared_eq_nil hdeclared (hstated.trans hnone) (List.mem_filter.1 hi).1]
    exact ⟨nofun, nofun⟩
  · obtain ⟨unknown, hmem, hissue⟩ :=
      exists_reported_of_mem_declared hdeclared hon (hstated ▸ hid) hunknown
    exact ⟨unknown, hmem, List.mem_filter.2 ⟨hissue, rfl⟩⟩

/-- A task with some section of dependencies that uses a reference besides. -/
def sharingTask (line : String) : Task :=
  { (default : Task) with id := "AB0001", content := [line, "\x7b\x7bshared\x7d\x7d"] }

/-- A list of one task, with a block that says what depends on another. -/
def sharingScope (t : Task) : Scope where
  policy := default
  list :=
    { tasks := [t]
      references := Catalog.ofPairs [("shared", ["**Dependencies**: AB0008"])]
      path := none
      totalLines := 0
      lines := [] }
  settings := []

theorem declared_of_section_sharingTask :
    (∀ references, declared references (sharingTask "**Dependencies**: AB0009") = ["AB0009"]) ∧
    ∃ v, Check.dependencies.run (sharingTask "**Dependencies**: AB0009")
        (sharingScope (sharingTask "**Dependencies**: AB0009")) = .ok v ∧
      ∃ unknown, "AB0009" ∈ unknown ∧ .invalidDependencyReference "AB0001" unknown ∈ v.errors := by
  have hlines : (sharingTask "**Dependencies**: AB0009").ownLines =
      [] ++ "**Dependencies**: AB0009" :: ["\x7b\x7bshared\x7d\x7d"] := by
    decide +kernel
  have hstated : ids (sectionValue "Dependencies" "**Dependencies**: AB0009"
      ["\x7b\x7bshared\x7d\x7d"]) = ["AB0009"] := by
    decide +kernel
  obtain ⟨hiff, hflush, hreported⟩ := declared_of_section hlines (by simp) (by decide +kernel)
  rw [hstated] at hiff hflush hreported
  have hdeclared := hiff.2 ⟨hflush ⟨by decide +kernel, by decide +kernel⟩, .inl (by simp)⟩
  obtain ⟨v, hv, -, hunknown⟩ := hreported _ (hdeclared _)
  exact ⟨hdeclared, v, hv, hunknown rfl "AB0009" (.head _) (by decide +kernel)⟩

/-- A section that says there are no dependencies does not keep a block from naming some, and one
after blanks names none itself. -/
theorem exists_declared_ne_stated :
    (ids (sectionValue "Dependencies" "**Dependencies**: None"
        ["\x7b\x7bshared\x7d\x7d"]) = [] ∧
      ∃ v, Check.dependencies.run (sharingTask "**Dependencies**: None")
          (sharingScope (sharingTask "**Dependencies**: None")) = .ok v ∧
        v.errors.map (·.kind) = [.invalidDependencyReference]) ∧
    hasSection (sharingTask " **Dependencies**: AB0009").ownLines "Dependencies" = true ∧
    ids (sectionValue "Dependencies" " **Dependencies**: AB0009"
        ["\x7b\x7bshared\x7d\x7d"]) = ["AB0009"] ∧
      ∃ v, Check.dependencies.run (sharingTask " **Dependencies**: AB0009")
          ⟨default, default, []⟩ = .ok v ∧ v.errors.map (·.kind) = [] := by
  refine ⟨⟨by decide +kernel, _, rfl, by decide +kernel⟩, by decide +kernel, by decide +kernel, _,
    rfl, by decide +kernel⟩

end Check.Dependencies

end TaskAudit
