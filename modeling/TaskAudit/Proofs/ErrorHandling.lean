import TaskAudit.Proofs.UndefinedName

/-!
# How error handling is documented

A task with a heading for error handling needs the parts of it among its own lines and the blocks of
all defined references that they use; a task without one needs them in the blocks of the references
for error handling. Which parts are needed and how each is headed is said here without the reader of
lines, and so is which names are used. The check of subtasks asks whether anything is documented at
all, and comes to the same answer.
-/

namespace TaskAudit

open Text Document

/-! ### Labels at the start of a line -/

namespace Content

/-- After blanks a line starts with a label in bold, with or without a colon. -/
def IsHeadedBy (label : List Char) (line : String) : Prop :=
  ∃ blanks colon rest : List Char, (∀ c ∈ blanks, isBlank c = true) ∧
    (colon = [] ∨ colon = [':']) ∧
    line.toList = blanks ++ (boldMark ++ (label ++ (colon ++ (boldMark ++ rest))))

section Labels

variable {cs rest label : List Char} {line name : String} {lines : List String}

theorem trimStart_eq_bold_iff : trimStart cs = boldMark ++ rest ↔
    ∃ blanks, (∀ c ∈ blanks, isBlank c = true) ∧ cs = blanks ++ (boldMark ++ rest) := by
  constructor
  · intro h
    refine ⟨cs.takeWhile isBlank, fun c hc => List.mem_takeWhile_imp hc, ?_⟩
    rw [← h, trimStart, List.takeWhile_append_dropWhile]
  · rintro ⟨blanks, hblanks, rfl⟩
    exact dropWhile_run hblanks (stops_at_cons (by decide) _)

theorem after?_dropColon_eq_some_iff : after? boldMark (dropColon cs).2 = some rest ↔
    ∃ colon, (colon = [] ∨ colon = [':']) ∧ cs = colon ++ (boldMark ++ rest) := by
  rw [after?_eq_some_iff]
  constructor
  · intro h
    unfold dropColon at h
    split at h
    · exact ⟨[':'], .inr rfl, congrArg (':' :: ·) h⟩
    · exact ⟨[], .inl rfl, h⟩
  · rintro ⟨colon, rfl | rfl, rfl⟩
    · rfl
    · rfl

theorem isHeadedBy_iff : IsHeadedBy label line ↔ ∃ colon rest, (colon = [] ∨ colon = [':']) ∧
    trimStart line.toList = boldMark ++ (label ++ (colon ++ (boldMark ++ rest))) := by
  simp only [trimStart_eq_bold_iff, IsHeadedBy]
  constructor
  · rintro ⟨blanks, colon, rest, hblanks, hcolon, hline⟩
    exact ⟨colon, rest, hcolon, blanks, hblanks, hline⟩
  · rintro ⟨colon, rest, hcolon, blanks, hblanks, hline⟩
    exact ⟨blanks, colon, rest, hblanks, hcolon, hline⟩

theorem afterName?_eq_some_iff : afterName? name line = some rest ↔
    ∃ colon, (colon = [] ∨ colon = [':']) ∧
      trimStart line.toList = boldMark ++ (name.toList ++ (colon ++ (boldMark ++ rest))) := by
  constructor
  · intro h
    obtain ⟨tail, htail, hrest⟩ := Option.bind_eq_some_iff.1 h
    obtain ⟨colon, hcolon, rfl⟩ := after?_dropColon_eq_some_iff.1 hrest
    exact ⟨colon, hcolon, by rw [after?_eq_some_iff.1 htail, List.append_assoc]⟩
  · rintro ⟨colon, hcolon, h⟩
    refine Option.bind_eq_some_iff.2 ⟨colon ++ (boldMark ++ rest), ?_, ?_⟩
    · rw [after?_eq_some_iff, h, List.append_assoc]
    · exact after?_dropColon_eq_some_iff.2 ⟨colon, hcolon, rfl⟩

theorem isSome_afterName?_iff :
    (afterName? name line).isSome = true ↔ IsHeadedBy name.toList line := by
  rw [isHeadedBy_iff, Option.isSome_iff_exists, exists_comm]
  simp only [afterName?_eq_some_iff]

theorem hasSection_iff :
    hasSection lines name = true ↔ ∃ line ∈ lines, IsHeadedBy name.toList line := by
  rw [hasSection, List.any_eq_true]
  exact exists_congr fun line => and_congr_right fun _ => isSome_afterName?_iff

instance (label : List Char) (line : String) : Decidable (IsHeadedBy label line) :=
  decidable_of_iff ((afterName? (String.ofList label) line).isSome = true) (by
    rw [isSome_afterName?_iff, String.toList_ofList])

end Labels

end Content

open Content

namespace Check.ErrorHandling

/-! ### Parts of the documentation -/

/-- A part of the documentation of error handling: one of the four that a main task needs, or of the
two that a subtask needs. -/
inductive Part where
  | principles
  | implementation
  | examples
  | specifics
  | approach
  | reporting
  deriving DecidableEq, Repr

namespace Part

def name : Part → String
  | principles => "Core Principles"
  | implementation => "Error Implementation"
  | examples => "Error Examples"
  | specifics => "Framework Specifics"
  | approach => "Task-Specific Approach"
  | reporting => "Error Reporting"

/-- A line is the heading of a part. Principles have two headings, and the specifics are those of
any framework. -/
def Heads : Part → String → Prop
  | principles, line =>
    IsHeadedBy "Core Principles".toList line ∨ IsHeadedBy "Task Principles".toList line
  | specifics, line => ∃ framework : List Char, framework ≠ [] ∧ '*' ∉ framework ∧
    IsHeadedBy (framework ++ " Specifics".toList) line
  | part, line => IsHeadedBy part.name.toList line

end Part

/-- The parts that a task needs. -/
def parts (t : Task) : List Part :=
  if t.isSubtask then [.approach, .reporting]
  else [.principles, .implementation, .examples, .specifics]

theorem dropLast_colon_eq_iff {label start : List Char} (hstart : start.getLast? ≠ some ':') :
    (if label.getLast? = some ':' then label.dropLast else label) = start ↔
      ∃ colon, (colon = [] ∨ colon = [':']) ∧ label = start ++ colon := by
  constructor
  · rintro rfl
    split
    · next hlast => exact ⟨[':'], .inr rfl, (List.dropLast_append_getLast? _ hlast).symm⟩
    · exact ⟨[], .inl rfl, (List.append_nil _).symm⟩
  · rintro ⟨colon, rfl | rfl, rfl⟩
    · rw [List.append_nil, if_neg hstart]
    · rw [if_pos List.getLast?_concat, List.dropLast_concat]

/-- The label of a line is what stands between the first two pairs of asterisks. -/
theorem startsSpecifics_iff_label {line : String} : startsSpecifics line = true ↔
    ∃ label tail framework : List Char, '*' ∉ label ∧ framework ≠ [] ∧
      trimStart line.toList = boldMark ++ (label ++ (boldMark ++ tail)) ∧
      (if label.getLast? = some ':' then label.dropLast else label) =
        framework ++ " Specifics".toList := by
  constructor
  · intro h
    unfold startsSpecifics at h
    split at h
    · exact absurd h Bool.false_ne_true
    · next rest hrest =>
      have hsplit := List.takeWhile_append_dropWhile (p := (· ≠ '*')) (l := rest)
      have hclean : '*' ∉ rest.takeWhile (· ≠ '*') := fun hmem =>
        absurd rfl (of_decide_eq_true (List.mem_takeWhile_imp (p := (· ≠ '*')) hmem))
      generalize rest.takeWhile (· ≠ '*') = label at h hsplit hclean
      simp only [Bool.and_eq_true, decide_eq_true_eq, List.isSuffixOf_iff_suffix,
        Option.isSome_iff_exists, after?_eq_some_iff] at h
      obtain ⟨⟨⟨framework, hframework⟩, hlonger⟩, tail, htail⟩ := h
      refine ⟨label, tail, framework, hclean, ?_, ?_, hframework.symm⟩
      · rintro rfl
        rw [← hframework] at hlonger
        exact absurd hlonger (Nat.lt_irrefl _)
      · rw [after?_eq_some_iff.1 hrest, ← hsplit, htail]
  · rintro ⟨label, tail, framework, hclean, hne, hline, hlabel⟩
    have hplain : ∀ c ∈ label, decide (c ≠ '*') = true := fun c hc =>
      decide_eq_true fun heq => hclean (heq ▸ hc)
    have hstops : ∀ c, (boldMark ++ tail).head? = some c → decide (c ≠ '*') = false :=
      stops_at_cons rfl _
    have htake : (label ++ (boldMark ++ tail)).takeWhile (· ≠ '*') = label :=
      takeWhile_run hplain hstops
    have hdrop : (label ++ (boldMark ++ tail)).dropWhile (· ≠ '*') = boldMark ++ tail :=
      dropWhile_run hplain hstops
    have hlonger : " Specifics".toList.length < (framework ++ " Specifics".toList).length := by
      have hpos := List.length_pos_iff.2 hne
      rw [List.length_append]
      omega
    rw [startsSpecifics, hline, after?_append]
    dsimp only
    rw [htake, hdrop, hlabel, after?_append, Option.isSome_some, Bool.and_true, Bool.and_eq_true]
    exact ⟨List.isSuffixOf_iff_suffix.2 (List.suffix_append _ _), decide_eq_true hlonger⟩

theorem startsSpecifics_iff {line : String} :
    startsSpecifics line = true ↔ Part.specifics.Heads line := by
  -- The ending has no colon, so one that is dropped was that of the label.
  have hending : ∀ framework : List Char,
      (framework ++ " Specifics".toList).getLast? ≠ some ':' := by
    intro framework
    rw [List.getLast?_append_of_ne_nil framework (by decide)]
    decide
  simp only [startsSpecifics_iff_label, Part.Heads, isHeadedBy_iff]
  constructor
  · rintro ⟨label, tail, framework, hclean, hne, hline, hlabel⟩
    obtain ⟨colon, hcolon, rfl⟩ := (dropLast_colon_eq_iff (hending framework)).1 hlabel
    simp only [List.mem_append, not_or] at hclean
    refine ⟨framework, hne, hclean.1.1, colon, tail, hcolon, ?_⟩
    rw [hline, List.append_assoc _ colon]
  · rintro ⟨framework, hne, hclean, colon, tail, hcolon, hline⟩
    have hlabel := (dropLast_colon_eq_iff (hending framework)).2 ⟨colon, hcolon, rfl⟩
    refine ⟨_, tail, framework, ?_, hne, by rw [hline, ← List.append_assoc _ colon], hlabel⟩
    simp only [List.mem_append, hclean, false_or, not_or]
    refine ⟨by decide, ?_⟩
    rcases hcolon with rfl | rfl <;> decide

instance : ∀ (p : Part) (line : String), Decidable (p.Heads line)
  | .principles, _ => inferInstanceAs (Decidable (_ ∨ _))
  | .specifics, _ => decidable_of_iff _ startsSpecifics_iff
  | .implementation, _ => inferInstanceAs (Decidable (IsHeadedBy _ _))
  | .examples, _ => inferInstanceAs (Decidable (IsHeadedBy _ _))
  | .approach, _ => inferInstanceAs (Decidable (IsHeadedBy _ _))
  | .reporting, _ => inferInstanceAs (Decidable (IsHeadedBy _ _))

/-- The names of the parts among some that are headed by no line. -/
def unheaded (lines : List String) (parts : List Part) : List String :=
  (parts.filter fun p => ¬ ∃ line ∈ lines, p.Heads line).map Part.name

section Parts

variable {lines : List String} {ps more : List Part} {p : Part}

theorem unheaded_append :
    unheaded lines (ps ++ more) = unheaded lines ps ++ unheaded lines more := by
  rw [unheaded, List.filter_append, List.map_append, unheaded, unheaded]

theorem unheaded_singleton :
    unheaded lines [p] = if ∃ line ∈ lines, p.Heads line then [] else [p.name] := by
  rw [unheaded, List.filter_singleton]
  split <;> simp_all

theorem heads_iff_isHeadedBy_name {line : String} (hprinciples : p ≠ .principles)
    (hspecifics : p ≠ .specifics) : p.Heads line ↔ IsHeadedBy p.name.toList line := by
  cases p with
  | principles => exact absurd rfl hprinciples
  | specifics => exact absurd rfl hspecifics
  | implementation | examples | approach | reporting => exact Iff.rfl

/-- Parts that are headed by their names are looked up as sections. -/
theorem missingSections_map_name (ps : List Part) (hprinciples : .principles ∉ ps)
    (hspecifics : .specifics ∉ ps) :
    missingSections lines (ps.map Part.name) = unheaded lines ps := by
  rw [missingSections, unheaded, List.filter_map]
  refine congrArg (List.map Part.name) (List.filter_congr fun p hp => ?_)
  have hheads : ∀ line, p.Heads line ↔ IsHeadedBy p.name.toList line := fun _ =>
    heads_iff_isHeadedBy_name (ne_of_mem_of_not_mem hp hprinciples)
      (ne_of_mem_of_not_mem hp hspecifics)
  rw [Bool.eq_iff_iff, Function.comp_apply, Bool.not_eq_true', ← Bool.not_eq_true, hasSection_iff,
    decide_eq_true_iff]
  simp only [hheads]

theorem missingMainParts_eq_unheaded : missingMainParts lines =
    unheaded lines [.principles, .implementation, .examples, .specifics] := by
  have hprinciples : (hasSection lines "Core Principles" || hasSection lines "Task Principles") =
      true ↔ ∃ line ∈ lines, Part.principles.Heads line := by
    simp only [Bool.or_eq_true, hasSection_iff, Part.Heads, and_or_left, exists_or]
  have hspecifics : lines.any startsSpecifics = true ↔
      ∃ line ∈ lines, Part.specifics.Heads line := by
    simp only [List.any_eq_true, startsSpecifics_iff]
  calc missingMainParts lines
      = unheaded lines [.principles] ++
          missingSections lines ([Part.implementation, .examples].map Part.name) ++
          unheaded lines [.specifics] := by
        simp only [missingMainParts, hprinciples, hspecifics, unheaded_singleton]
        rfl
    _ = unheaded lines ([.principles] ++ [.implementation, .examples] ++ [.specifics]) := by
        rw [missingSections_map_name _ (by decide) (by decide), unheaded_append, unheaded_append]

theorem missingParts_eq_unheaded (t : Task) : missingParts t lines = unheaded lines (parts t) := by
  unfold missingParts parts
  split
  · exact missingSections_map_name [.approach, .reporting] (by decide) (by decide)
  · exact missingMainParts_eq_unheaded

end Parts

/-! ### Names of references for error handling -/

def IsErrorHandlingName (name : List Char) : Prop :=
  ∃ start ∈ ["error-handling", "def-error-handling", "subtask-error-handling"],
    start.toList <+: name

/-- A task's own lines use a name of a kind. -/
def UsesName (kind : List Char → Prop) (t : Task) (name : String) : Prop :=
  ∃ line ∈ t.ownLines, ∃ names, UsesOf kind line.toList names ∧ name.toList ∈ names

section Names

variable {t : Task} {name : String}

theorem isErrorHandlingName_iff {name : List Char} :
    isErrorHandlingName name = true ↔ IsErrorHandlingName name := by
  rw [isErrorHandlingName, List.any_eq_true]
  refine exists_congr fun start => and_congr_right fun _ => ?_
  rw [Option.isSome_iff_exists]
  exact exists_congr fun rest => by rw [after?_eq_some_iff, eq_comm]

theorem mem_usedNames_iff {accepts : List Char → Bool} {kind : List Char → Prop}
    (hkind : ∀ name, accepts name = true ↔ kind name) (hnamed : ¬ kind []) :
    name ∈ firstSeen (t.ownLines.flatMap fun line =>
      (usedNames accepts line.toList).map String.ofList) ↔ UsesName kind t name := by
  obtain rfl : (fun name => accepts name = true) = kind := funext fun name => propext (hkind name)
  rw [mem_firstSeen, List.mem_flatMap]
  refine exists_congr fun line => and_congr_right fun _ => ?_
  have huses := usesOf_usedNames (Bool.not_eq_true _ ▸ hnamed) line.toList
  constructor
  · intro h
    obtain ⟨found, hfound, rfl⟩ := List.mem_map.1 h
    exact ⟨_, huses, by rwa [String.toList_ofList]⟩
  · rintro ⟨names, hnames, hname⟩
    rw [hnames.unique huses] at hname
    exact List.mem_map.2 ⟨_, hname, String.ofList_toList⟩

theorem mem_referenceNames_iff :
    name ∈ referenceNames t.ownLines ↔ UsesName IsErrorHandlingName t name := by
  refine mem_usedNames_iff (fun _ => isErrorHandlingName_iff) ?_
  rw [← isErrorHandlingName_iff]
  decide

theorem mem_referencesIn_iff : name ∈ referencesIn t.ownLines ↔ UsesName (· ≠ []) t name :=
  mem_usedNames_iff (by simp) (by simp)

end Names

/-! ### The evidence -/

/-- A task's own lines have a heading for error handling. -/
def HasHeading (t : Task) : Prop := ∃ line ∈ t.ownLines, IsHeadedBy "Error Handling".toList line

/-- A task has a heading for error handling, or it uses the defined name of a reference for it. -/
def IsDocumented (references : References) (t : Task) : Prop :=
  HasHeading t ∨ ∃ name, UsesName IsErrorHandlingName t name ∧ name ∈ references.names

/-- A line is in the block of a defined reference that a task uses. -/
def IsInBlock (references : References) (kind : List Char → Prop) (t : Task) (line : String) :
    Prop :=
  ∃ name, UsesName kind t name ∧ ∃ block, references.find? name = some block ∧ line ∈ block

/-- The lines that document the error handling of a task: with a heading its own ones and those of
all blocks that they use, without one those of the blocks for error handling. -/
def IsEvidence (references : References) (t : Task) (line : String) : Prop :=
  (HasHeading t ∧ (line ∈ t.ownLines ∨ IsInBlock references (· ≠ []) t line)) ∨
    (¬ HasHeading t ∧ IsInBlock references IsErrorHandlingName t line)

section Evidence

variable {references : References} {t : Task} {line : String}

theorem hasHeading_iff : hasSection t.ownLines "Error Handling" = true ↔ HasHeading t :=
  hasSection_iff

theorem isDocumented_iff :
    isDocumented references t.ownLines = true ↔ IsDocumented references t := by
  rw [isDocumented, Bool.or_eq_true, hasHeading_iff, List.any_eq_true]
  simp only [mem_referenceNames_iff, Catalog.contains_iff_mem, IsDocumented]

instance (t : Task) : Decidable (HasHeading t) :=
  decidable_of_iff _ hasHeading_iff

instance (references : References) (t : Task) : Decidable (IsDocumented references t) :=
  decidable_of_iff _ isDocumented_iff

theorem exists_mem_names_iff :
    (∃ name, UsesName IsErrorHandlingName t name ∧ name ∈ references.names) ↔
      ((referenceNames t.ownLines).filter references.contains).isEmpty = false := by
  rw [List.isEmpty_eq_false_iff_exists_mem]
  exact exists_congr fun name => by
    rw [List.mem_filter, mem_referenceNames_iff, Catalog.contains_iff_mem]

def evidence (references : References) (t : Task) : List String :=
  if HasHeading t then expanded references t.ownLines
  else ((referenceNames t.ownLines).filter references.contains).flatMap fun name =>
    (references.find? name).getD []

theorem mem_getD_find?_iff {name : String} : line ∈ (references.find? name).getD [] ↔
    ∃ block, references.find? name = some block ∧ line ∈ block := by
  cases references.find? name <;> simp

theorem mem_evidence_iff : line ∈ evidence references t ↔ IsEvidence references t line := by
  rw [evidence, IsEvidence]
  split
  · next hheading =>
    simp only [hheading, true_and, not_true_eq_false, false_and, or_false, expanded,
      List.mem_append, List.mem_flatMap, mem_referencesIn_iff, mem_getD_find?_iff, IsInBlock]
  · next hheading =>
    simp only [hheading, false_and, not_false_eq_true, true_and, false_or, List.mem_flatMap,
      List.mem_filter, mem_referenceNames_iff, mem_getD_find?_iff, IsInBlock]
    -- A name with a block is defined, so it does not matter that names are filtered first.
    refine exists_congr fun name => and_congr_left ?_
    rintro ⟨block, hblock, -⟩
    rw [Catalog.contains, hblock, Option.isSome_some]
    exact and_iff_left rfl

instance (references : References) (t : Task) (p : Part) :
    Decidable (∃ line, IsEvidence references t line ∧ p.Heads line) :=
  decidable_of_iff (∃ line ∈ evidence references t, p.Heads line) (by
    simp only [mem_evidence_iff])

/-- The names of the parts that a task needs and that nothing in its documentation heads. -/
def absent (references : References) (t : Task) : List String :=
  ((parts t).filter fun p => ¬ ∃ line, IsEvidence references t line ∧ p.Heads line).map Part.name

theorem missingParts_evidence : missingParts t (evidence references t) = absent references t := by
  rw [missingParts_eq_unheaded, unheaded, absent]
  simp only [mem_evidence_iff]

theorem documentationIssues_eq : documentationIssues references true t =
    if IsDocumented references t then
      (if absent references t = [] then []
        else [.incompleteErrorHandling t.id (absent references t)])
    else [.missingErrorHandling t.id (referenceNames t.ownLines) t.isSubtask] := by
  have hincomplete : incomplete t (evidence references t) =
      if absent references t = [] then []
        else [.incompleteErrorHandling t.id (absent references t)] := by
    simp only [incomplete, missingParts_evidence, List.isEmpty_iff]
  rw [← hincomplete, evidence, documentationIssues]
  simp only [hasHeading_iff, if_true]
  by_cases hheading : HasHeading t
  · have hdocumented : IsDocumented references t := .inl hheading
    rw [if_pos hheading, if_pos hheading, if_pos hdocumented]
  · have hdocumented : IsDocumented references t ↔
        ((referenceNames t.ownLines).filter references.contains).isEmpty = false := by
      rw [IsDocumented, or_iff_right hheading, exists_mem_names_iff]
    rw [if_neg hheading, if_neg hheading]
    simp only [hdocumented]
    cases ((referenceNames t.ownLines).filter references.contains).isEmpty <;> rfl

end Evidence

end Check.ErrorHandling

/-! ### Subtasks -/

/-- An error lists a section among those that a subtask lacks. -/
def Issue.ListsSection (i : Issue) (name : String) : Prop :=
  i.kind = .missingSubtaskSections ∧
    ∃ names, ("missing_sections", Value.texts names) ∈ i.details ∧ name ∈ names

theorem Issue.listsSection_missingSubtaskSections {id name : String} {names : List String}
    {line : Option Int} :
    (missingSubtaskSections id names line).ListsSection name ↔ name ∈ names := by
  constructor
  · rintro ⟨-, others, hdetails, hname⟩
    have heq := congrArg Prod.snd (List.mem_singleton.1 hdetails)
    rwa [← Value.texts_inj.1 heq]
  · exact fun hname => ⟨rfl, names, .head _, hname⟩

namespace Check

theorem Status.isWarning_of_mem_ratingIssues {policy : Policy} {t : Task} {i : Issue}
    (h : i ∈ ratingIssues policy t) : i.isWarning = false := by
  rw [ratingIssues] at h
  split at h
  · simp at h
  · split at h
    · rw [List.mem_singleton.1 h]
      rfl
    · rw [eq_of_mem_ite_nil h]
      rfl

namespace Subtasks

def issuesOf (parent : Task) (scope : Scope) (t : Task) : List Issue :=
  statusIssues scope.policy t ++ numberedIssues scope t ++ codeIssues parent t

section Issues

variable {parent t : Task} {scope : Scope} {i : Issue} {name : String}

theorem run_eq (hparent : parent.isMain = true) : subtasks.run parent scope =
    .ok (.ofIssues (parent.subtasks.flatMap (issuesOf parent scope))) := by
  simp only [subtasks, hparent, if_true]
  rfl

theorem isWarning_of_mem_issuesOf (h : i ∈ issuesOf parent scope t) : i.isWarning = false := by
  simp only [issuesOf, List.mem_append] at h
  rcases h with (h | h) | h
  · rw [eq_of_mem_ite_nil h]
    rfl
  · rw [numberedIssues] at h
    split at h
    · rcases List.mem_append.1 h with h | h
      · rw [eq_of_mem_ite_nil h]
        rfl
      · exact Status.isWarning_of_mem_ratingIssues h
    · simp at h
  · rw [eq_of_mem_ite_singleton h]
    rfl

theorem errors_issuesOf (parent : Task) (scope : Scope) :
    (Verdict.ofIssues (parent.subtasks.flatMap (issuesOf parent scope))).errors =
      parent.subtasks.flatMap (issuesOf parent scope) := by
  refine List.filter_eq_self.2 fun i hi => ?_
  obtain ⟨t, -, hmem⟩ := List.mem_flatMap.1 hi
  rw [isWarning_of_mem_issuesOf hmem]
  rfl

theorem exists_listsSection_iff (hmarker : t.marker = some .numbered) :
    (∃ i ∈ issuesOf parent scope t, i.ListsSection name) ↔
      name ∈ missing scope.references (scope.settings.isOn "strict_formatting") t := by
  constructor
  · rintro ⟨i, hi, hlists⟩
    have hkind := hlists.1
    simp only [issuesOf, List.mem_append, numberedIssues, if_pos hmarker] at hi
    rcases hi with (h | h | h) | h
    · rw [eq_of_mem_ite_nil h] at hkind
      cases hkind
    · rw [eq_of_mem_ite_nil h] at hlists
      exact Issue.listsSection_missingSubtaskSections.1 hlists
    · rcases Status.kind_of_mem_ratingIssues h with h | h
      · cases hkind.symm.trans h
      · cases hkind.symm.trans h
    · rw [eq_of_mem_ite_singleton h] at hkind
      cases hkind
  · intro hname
    refine ⟨.missingSubtaskSections t.id (missing scope.references _ t) (some t.line),
      List.mem_append_left _ (List.mem_append_right _ ?_),
      Issue.listsSection_missingSubtaskSections.2 hname⟩
    rw [numberedIssues, if_pos hmarker]
    refine List.mem_append_left _ ?_
    rw [if_neg (by simpa using List.ne_nil_of_mem hname)]
    exact .head _

theorem mem_missing_iff {references : References} {describe : Bool}
    (hsubtask : t.isSubtask = true) : "Error Handling" ∈ missing references describe t ↔
      ¬ ErrorHandling.IsDocumented references t := by
  have hlines : t.ownLines = t.content := if_pos hsubtask
  have hother : ∀ lines, "Error Handling" ∉
      missingSections lines ((if describe then ["Description"] else []) ++ ["Status"]) := by
    intro lines hmem
    have hname := (List.mem_filter.1 hmem).1
    cases describe with
    | true => exact absurd hname (by decide)
    | false => exact absurd hname (by decide)
  rw [← ErrorHandling.isDocumented_iff, hlines, missing, List.mem_append, or_iff_right (hother _)]
  cases ErrorHandling.isDocumented references t.content <;> simp

end Issues

end Subtasks

namespace ErrorHandling

theorem length_documentationIssues_le (references : References) (t : Task) :
    (documentationIssues references true t).length ≤ 1 := by
  rw [documentationIssues_eq]
  split_ifs
  · exact Nat.zero_le 1
  · exact Nat.le_refl 1
  · exact Nat.le_refl 1

theorem exists_missing_iff {references : References} {t : Task} :
    (∃ i ∈ documentationIssues references true t, i.kind = .missingErrorHandling) ↔
      ¬ IsDocumented references t := by
  rw [documentationIssues_eq]
  split_ifs with hdocumented hnone
  · exact iff_of_false (by simp) (not_not_intro hdocumented)
  · refine iff_of_false ?_ (not_not_intro hdocumented)
    rintro ⟨i, hi, hkind⟩
    rw [List.mem_singleton.1 hi] at hkind
    cases hkind
  · exact iff_of_true ⟨_, .head _, rfl⟩ hdocumented

/-- **The documentation of error handling is classified.** A task has at most one issue about it.
Without a heading and without a defined reference for error handling it is missing, and the issue
has exactly the names of such references that the task uses. Otherwise it is incomplete if no line
of its evidence is the heading of some parts that it needs, and the issue has these in order. The
check of subtasks lists the section for a numbered subtask exactly if it is missing. -/
theorem documentation_classified (references : References) (t : Task) :
    (documentationIssues references true t).length ≤ 1 ∧
    (∃ names : List String, names.Nodup ∧
      (∀ name, name ∈ names ↔ UsesName IsErrorHandlingName t name) ∧
      documentationIssues references true t =
        if IsDocumented references t then
          (if absent references t = [] then []
            else [.incompleteErrorHandling t.id (absent references t)])
        else [.missingErrorHandling t.id names t.isSubtask]) ∧
    ∀ (parent : Task) (scope : Scope), parent.isMain = true → t ∈ parent.subtasks →
      t.isSubtask = true → t.marker = some .numbered → scope.references = references →
      ∃ v, subtasks.run parent scope = .ok v ∧
        v.errors = parent.subtasks.flatMap (Subtasks.issuesOf parent scope) ∧
        ((∃ i ∈ v.errors, i ∈ Subtasks.issuesOf parent scope t ∧ i.ListsSection "Error Handling") ↔
          ∃ i ∈ documentationIssues references true t, i.kind = .missingErrorHandling) := by
  refine ⟨length_documentationIssues_le references t, ⟨referenceNames t.ownLines,
    nodup_firstSeen _, fun name => mem_referenceNames_iff, documentationIssues_eq⟩, ?_⟩
  rintro parent scope hparent ht hsubtask hmarker rfl
  have herrors := Subtasks.errors_issuesOf parent scope
  refine ⟨_, Subtasks.run_eq hparent, herrors, ?_⟩
  have hof : ∀ i ∈ Subtasks.issuesOf parent scope t,
      i ∈ parent.subtasks.flatMap (Subtasks.issuesOf parent scope) :=
    fun i hi => List.mem_flatMap.2 ⟨t, ht, hi⟩
  calc (∃ i ∈ _, i ∈ Subtasks.issuesOf parent scope t ∧ i.ListsSection "Error Handling")
      ↔ ∃ i ∈ Subtasks.issuesOf parent scope t, i.ListsSection "Error Handling" := by
        rw [herrors]
        exact exists_congr fun i => and_iff_right_of_imp fun h => hof i h.1
    _ ↔ ¬ IsDocumented scope.references t :=
        (Subtasks.exists_listsSection_iff hmarker).trans (Subtasks.mem_missing_iff hsubtask)
    _ ↔ _ := exists_missing_iff.symm

def numberedPart (id : String) (lines : List String) : Task where
  id := id
  description := "Part"
  status := Task.plannedStatus
  priority := none
  content := lines
  subtasks := []
  line := 1
  kind := .subtask
  code := some "AB"
  category := none
  parentId := some "AB0001"
  rating := none
  marker := some .numbered
  origin := .apart

/-- It uses a name for error handling that is defined and one that is not, and another block. -/
def borrowingPart : Task := numberedPart "AB0001-1"
  ["\x7b\x7berror-handling\x7d\x7d \x7b\x7bsubtask-error-handling\x7d\x7d",
    "\x7b\x7breports\x7d\x7d"]

def emptyPart : Task := numberedPart "AB0001-2" ["\x7b\x7berror-handling\x7d\x7d"]

def twoParts : Task :=
  { numberedPart "AB0001" [] with
    kind := .main, marker := none, subtasks := [borrowingPart, emptyPart] }

def lentBlocks : References :=
  .ofPairs [("subtask-error-handling", ["**Task-Specific Approach:** retry"]),
    ("reports", ["**Error Reporting**"])]

theorem documentation_classified_twoParts :
    documentationIssues lentBlocks true borrowingPart =
      [.incompleteErrorHandling "AB0001-1" ["Error Reporting"]] ∧
    ∃ names v, "error-handling" ∈ names ∧
      documentationIssues lentBlocks true emptyPart =
        [.missingErrorHandling "AB0001-2" names true] ∧
      subtasks.run twoParts ⟨.standard, ⟨[twoParts], lentBlocks, none, 0, []⟩, []⟩ = .ok v ∧
      ∃ i ∈ v.errors, i.ListsSection "Error Handling" := by
  have hlent : IsDocumented lentBlocks borrowingPart := by decide +kernel
  have habsent : absent lentBlocks borrowingPart = ["Error Reporting"] := by decide +kernel
  have hempty : ¬ IsDocumented lentBlocks emptyPart := by decide +kernel
  have hused : UsesName IsErrorHandlingName emptyPart "error-handling" :=
    mem_referenceNames_iff.1 (by decide +kernel)
  obtain ⟨-, ⟨others, -, -, hborrowing⟩, -⟩ := documentation_classified lentBlocks borrowingPart
  obtain ⟨-, ⟨names, -, hnames, hmissing⟩, hsubtasks⟩ :=
    documentation_classified lentBlocks emptyPart
  rw [if_pos hlent, habsent, if_neg (List.cons_ne_nil _ _)] at hborrowing
  rw [if_neg hempty] at hmissing
  obtain ⟨v, hrun, -, hiff⟩ := hsubtasks twoParts
    ⟨.standard, ⟨[twoParts], lentBlocks, none, 0, []⟩, []⟩ rfl (.tail _ (.head _)) rfl rfl rfl
  obtain ⟨i, hi, -, hlists⟩ := hiff.2 (exists_missing_iff.2 hempty)
  exact ⟨hborrowing, names, v, (hnames _).2 hused, hmissing, hrun, i, hi, hlists⟩

end ErrorHandling

end Check

end TaskAudit
