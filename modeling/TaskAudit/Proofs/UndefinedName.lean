import TaskAudit.Proofs.Closure
import TaskAudit.Proofs.Kinds
import TaskAudit.Proofs.Representation

/-!
# Names that a task uses without a definition

The checks of metrics and of dependencies look for references in a task's own lines, and each lists
those without a definition. A task's own lines are lines of the document, so whatever these checks
list was found in the document as a whole: it has one error there, whose first line is not behind
the first line of the task that uses the name.
-/

namespace TaskAudit

open Document

theorem Value.texts_inj {names others : List String} :
    texts names = texts others ↔ names = others := by
  rw [texts, texts, Value.list.injEq]
  exact List.map_inj_right fun _ _ => Value.text.inj

/-- An error lists a name among references that a task uses without a definition, for its metrics
or for its dependencies. -/
def Issue.Lists (i : Issue) (name : String) : Prop :=
  (i.kind = .missingKpiReference ∨ i.kind = .missingDependencyReference) ∧
    ∃ names, ("missing_references", Value.texts names) ∈ i.details ∧ name ∈ names

/-! ### Lines of a task -/

namespace Document

theorem parentLinesAfter_subset (inNumbered : Bool) (content : List String) :
    parentLinesAfter inNumbered content ⊆ content := by
  induction content generalizing inNumbered with
  | nil => exact List.Subset.refl _
  | cons line rest ih =>
      have hrest : ∀ inNumbered, parentLinesAfter inNumbered rest ⊆ line :: rest :=
        fun inNumbered => List.subset_cons_of_subset _ (ih inNumbered)
      rw [parentLinesAfter]
      split
      · exact hrest true
      · exact hrest false
      · split
        · exact hrest true
        · exact List.cons_subset_cons _ (ih false)

theorem exists_extract_of_extract {lines content : List String} {start stop : Nat}
    (h : content = lines.extract start stop) :
    ∃ start, content = lines.extract start (start + content.length) := by
  refine ⟨start, ?_⟩
  rw [List.extract_eq_take_drop] at h
  rw [List.extract_eq_take_drop, Nat.add_sub_cancel_left, h, List.length_take,
    ← List.take_eq_take_min]

/-- The lines of a task, main or not, stand in the document one after the other. -/
theorem exists_extract_of_mem_allTasks {policy : Policy} {text : String} {path : Option String}
    {l : TaskList} (hread : TaskList.ofText? policy text path = some l) {t : Task}
    (ht : t ∈ l.allTasks) :
    ∃ start, t.content = l.lines.extract start (start + t.content.length) := by
  have hnone : ∀ {content : List String}, content = [] →
      ∃ start, content = l.lines.extract start (start + content.length) := by
    rintro _ rfl
    exact ⟨0, by simp⟩
  obtain ⟨hlines, htasks⟩ := lines_tasks_of_ofText? hread
  obtain ⟨main, hmain, hmem⟩ := List.mem_flatMap.1 ht
  have hentries := (TaskList.isRead_of_text hread).subtasks main hmain
  rw [htasks] at hmain
  rcases hasSection_of_mem_tasks hmain with ⟨hcontent, hsubtasks⟩ | ⟨s, hs⟩
  · rw [hsubtasks, List.mem_singleton] at hmem
    exact hnone (hmem ▸ hcontent)
  have hfrom := hs.isReadFrom
  rw [← hlines] at hfrom
  cases List.mem_cons.1 hmem with
  | inl heq => exact heq ▸ exists_extract_of_extract hfrom.content
  | inr hmem =>
      obtain ⟨k, -, hk⟩ := hfrom.subtasks t hmem
      cases (hentries t hmem).marked with
      | inl hnumbered =>
          obtain ⟨last, hlast, -⟩ := hk.content hnumbered.marker
          exact exists_extract_of_extract hlast
      | inr hcheckbox => exact hnone hcheckbox.content

end Document

theorem Task.ownLines_subset (t : Task) : t.ownLines ⊆ t.content := by
  rw [ownLines]
  split
  · exact List.Subset.refl _
  · exact parentLinesAfter_subset false t.content

/-! ### What the two checks list -/

namespace Check

section Listed

variable {t : Task} {scope : Scope} {i : Issue}

/-- An error that lists some names, all of them used in a task's own lines and not defined. -/
def ListsUndefined (references : References) (t : Task) (i : Issue) : Prop :=
  ∃ names, names ≠ [] ∧ i.details = [("missing_references", Value.texts names)] ∧
    ∀ name ∈ names, name ∈ referencesIn t.ownLines ∧ name ∉ references.names

theorem undefined_of_mem_filter {references : References} {p : String → Bool} {name : String}
    (h : name ∈ ((referencesIn t.ownLines).filter p).filter (!references.contains ·)) :
    name ∈ referencesIn t.ownLines ∧ name ∉ references.names := by
  simp only [List.mem_filter, Bool.not_eq_true', ← Bool.not_eq_true,
    Catalog.contains_iff_mem] at h
  exact ⟨h.1.1, h.2⟩

theorem Kpi.listsUndefined {found : List Issue} (hfound : issues t scope = .ok found)
    (h : i ∈ found) (hkind : i.kind = .missingKpiReference) :
    ListsUndefined scope.references t i := by
  rcases cases_of_mem_issues hfound h with
    rfl | ⟨hne, rfl⟩ | ⟨missing, rfl⟩ | ⟨m, -, value, limit, least, word, rfl⟩
  · exact nomatch hkind
  · exact ⟨_, hne, rfl, fun _ => undefined_of_mem_filter⟩
  · exact nomatch hkind
  · exact nomatch hkind

theorem Dependencies.listsUndefined (h : i ∈ issues t scope)
    (hkind : i.kind = .missingDependencyReference) : ListsUndefined scope.references t i := by
  have hreference : i ∈ referenceIssues scope.references t := by
    rw [issues] at h
    split at h
    · simp only [List.mem_append] at h
      rcases h with (h | h) | h
      · exact h
      · split at h
        · cases hkind.symm.trans (kind_of_mem_existenceIssues h)
        · simp at h
      · obtain ⟨path, rfl⟩ := exists_eq_of_mem_cycleIssues h
        cases hkind
    · rw [List.mem_singleton.1 h] at hkind
      cases hkind
  simp only [referenceIssues] at hreference
  split at hreference
  · simp at hreference
  · next hne =>
    rw [List.mem_singleton.1 hreference]
    exact ⟨_, by simpa using hne, rfl, fun _ => undefined_of_mem_filter⟩

/-- Only the checks of metrics and of dependencies list names, and no error of theirs lists none. -/
theorem listsUndefined_of_kind {c : Check} (hc : c ∈ named.map Prod.snd) {v : Verdict}
    (hrun : c.run t scope = .ok v) (hi : i ∈ v.errors)
    (hkind : i.kind = .missingKpiReference ∨ i.kind = .missingDependencyReference) :
    ListsUndefined scope.references t i := by
  have hmem : i ∈ v.errors ++ v.warnings := List.mem_append_left _ hi
  cases hkind with
  | inl hkind =>
      obtain rfl := eq_of_kind (d := kpi) rfl hc hrun hmem hkind
      obtain ⟨found, hfound, rfl⟩ := map_eq_ok_iff.1 hrun
      exact Kpi.listsUndefined hfound (Verdict.mem_ofIssues_iff.1 hmem) hkind
  | inr hkind =>
      obtain rfl := eq_of_kind (d := dependencies) rfl hc hrun hmem hkind
      obtain rfl := Except.ok.inj hrun
      exact Dependencies.listsUndefined (Verdict.mem_ofIssues_iff.1 hmem) hkind

end Listed

end Check

/-! ### What is found in the document -/

namespace Usage

/-- Of some errors one and no other is about the uses of a name, and a line where the name is used
is the first that it tells. -/
def ReportsOnce (lines : List String) (errors : List Issue) (name : String) (first : Nat) : Prop :=
  ∃ before i after, errors = before ++ i :: after ∧ i.kind = .missingReference ∧
    ("reference_name", Value.text name) ∈ i.details ∧ i.line = some (first : Int) ∧
    IsUsedOn lines name first ∧
    ∀ other ∈ before ++ after, ("reference_name", Value.text name) ∉ other.details

/-- A line, counted from one, is the first in a range of lines on which a name is used. -/
def IsFirstUse (lines content : List String) (name : String) (number : Nat) : Prop :=
  ∃ start k, content = lines.extract start (start + content.length) ∧
    content.findIdx? (fun line => (Document.references line).contains name) = some k ∧
    number = start + k + 1

theorem IsFirstUse.isUsedOn {lines content : List String} {name : String} {number : Nat}
    (h : IsFirstUse lines content name number) : IsUsedOn lines name number := by
  obtain ⟨start, k, hcontent, hfound, rfl⟩ := h
  obtain ⟨hlt, hname, -⟩ := List.findIdx?_eq_some_iff_getElem.1 hfound
  refine ⟨start + k, content[k], ?_, rfl, List.contains_iff_mem.1 hname⟩
  rw [List.extract_eq_take_drop, Nat.add_sub_cancel_left] at hcontent
  rw [← List.getElem?_drop, ← List.getElem?_take_of_lt hlt, ← hcontent]
  exact List.getElem?_eq_getElem hlt

theorem exists_isFirstUse {lines content : List String} {start : Nat} {name : String}
    (hcontent : content = lines.extract start (start + content.length))
    (hname : name ∈ referencesIn content) : ∃ number, IsFirstUse lines content name number := by
  obtain ⟨line, hline, hused⟩ := List.mem_flatMap.1 (mem_firstSeen.1 hname)
  have hsome : (content.findIdx? fun line => (Document.references line).contains name).isSome =
      true := by
    rw [List.findIdx?_isSome, List.any_eq_true]
    exact ⟨line, hline, List.contains_iff_mem.2 hused⟩
  obtain ⟨k, hk⟩ := Option.isSome_iff_exists.1 hsome
  exact ⟨_, start, k, hcontent, hk, rfl⟩

/-- A name that lines use and that is not defined has one error, and its line is the first use. -/
theorem exists_reportsOnce (references : References) {lines : List String} {name : String}
    (hused : ∃ number, IsUsedOn lines name number) (hundefined : name ∉ references.names) :
    ∃ first, ReportsOnce lines (check references lines).errors name first ∧
      ∀ number, IsUsedOn lines name number → first ≤ number := by
  have hname := (mem_map_name_undefinedUsages_iff references lines).2 ⟨hused, hundefined⟩
  have hnodup := nodup_firstSeen ((undefinedUsages references lines).map (·.name))
  obtain ⟨before, after, hsplit⟩ := List.append_of_mem (mem_firstSeen.2 hname)
  have herrors : (check references lines).errors = missingIssues references lines := rfl
  rw [missingIssues] at herrors
  dsimp only at herrors
  rw [hsplit, List.map_append, List.map_cons] at herrors
  obtain ⟨hkind, -, first, more, hline, hdetails, hsorted, hmem⟩ :=
    reports_missingReference references lines hname
  refine ⟨first, ⟨_, _, _, herrors, hkind, ?_, hline, (hmem first).1 (.head _), ?_⟩, ?_⟩
  · rw [hdetails]
    exact .head _
  · rw [← List.map_append]
    intro other hother hdetail
    obtain ⟨a, ha, rfl⟩ := List.mem_map.1 hother
    obtain rfl : name = a := by simpa [Issue.missingReference] using hdetail
    rw [hsplit, List.nodup_middle, List.nodup_cons] at hnodup
    exact hnodup.1 ha
  · intro number hnumber
    cases List.mem_cons.1 ((hmem number).2 hnumber) with
    | inl heq => exact heq.ge
    | inr hlater => exact (List.rel_of_pairwise_cons hsorted hlater).le

section Document

variable {policy : Policy} {text : String} {path : Option String} {l : TaskList}

/-- **No check finds an undefined name that the document does not.** Wherever an error for metrics
or for dependencies lists a name that a task of a document uses, main or not, the document has one
error about it, with a line that is not behind the first of the task's lines that uses the name. So
no error lists names if the document has none. -/
theorem reportsOnce_of_lists (hread : TaskList.ofText? policy text path = some l) :
    (∀ t ∈ l.allTasks, ∀ c ∈ Check.named.map Prod.snd, ∀ scope : Scope, scope.list = l →
      ∀ v, c.run t scope = .ok v → ∀ i ∈ v.errors, ∀ name, i.Lists name →
        (∃ number, IsFirstUse l.lines t.content name number) ∧
        ∃ first, ReportsOnce l.lines (checkList l none).errors name first ∧
          ∀ number, IsFirstUse l.lines t.content name number → first ≤ number) ∧
    ((checkList l none).errors = [] → ∀ t ∈ l.allTasks, ∀ c ∈ Check.named.map Prod.snd,
      ∀ scope : Scope, scope.list = l → ∀ v, c.run t scope = .ok v → ∀ i ∈ v.errors,
        i.kind ≠ .missingKpiReference ∧ i.kind ≠ .missingDependencyReference) := by
  have hlisted : ∀ t ∈ l.allTasks, ∀ c ∈ Check.named.map Prod.snd, ∀ scope : Scope,
      scope.list = l → ∀ v, c.run t scope = .ok v → ∀ i ∈ v.errors, ∀ name, i.Lists name →
        (∃ number, IsFirstUse l.lines t.content name number) ∧
        ∃ first, ReportsOnce l.lines (checkList l none).errors name first ∧
          ∀ number, IsFirstUse l.lines t.content name number → first ≤ number := by
    rintro t ht c hc scope rfl v hrun i hi name ⟨hkind, names, hnames, hname⟩
    obtain ⟨undefined, -, hdetails, hundefined⟩ := Check.listsUndefined_of_kind hc hrun hi hkind
    obtain rfl : names = undefined := by simpa [hdetails, Value.texts_inj] using hnames
    obtain ⟨hused, hnot⟩ := hundefined name hname
    obtain ⟨start, hcontent⟩ := exists_extract_of_mem_allTasks hread ht
    have hin : name ∈ referencesIn t.content := by
      obtain ⟨line, hline, hmem⟩ := List.mem_flatMap.1 (mem_firstSeen.1 hused)
      exact mem_firstSeen.2 (List.mem_flatMap.2 ⟨line, t.ownLines_subset hline, hmem⟩)
    obtain ⟨number, hnumber⟩ := exists_isFirstUse hcontent hin
    obtain ⟨first, honce, hfirst⟩ := exists_reportsOnce _ ⟨number, hnumber.isUsedOn⟩ hnot
    rw [checkList_eq_check hread]
    exact ⟨⟨number, hnumber⟩, first, honce, fun number hnumber => hfirst number hnumber.isUsedOn⟩
  refine ⟨hlisted, fun hnone t ht c hc scope hscope v hrun i hi => not_or.1 fun hkind => ?_⟩
  obtain ⟨names, hne, hdetails, -⟩ := Check.listsUndefined_of_kind hc hrun hi hkind
  obtain ⟨name, hname⟩ := List.exists_mem_of_ne_nil names hne
  have hlists : i.Lists name := ⟨hkind, names, hdetails ▸ .head _, hname⟩
  obtain ⟨-, first, ⟨before, j, after, herrors, -⟩, -⟩ :=
    hlisted t ht c hc scope hscope v hrun i hi name hlists
  simp [hnone] at herrors

end Document

/-- The lines of a document that names two references it does not define, one of them twice. -/
def openPlan : List String :=
  ["### AB0001: Plan", "\x7b\x7bno-dependencies\x7d\x7d \x7b\x7bkpi-open\x7d\x7d",
    "#### 1. Draft (AB0001-1)", "**Goal**: a draft", "\x7b\x7bkpi-open\x7d\x7d"]

theorem reportsOnce_of_lists_openPlan : ∃ l t u v i,
    TaskList.ofText? .standard ("\n".intercalate (openPlan ++ [""])) none = some l ∧
    t ∈ l.tasks ∧ u ∈ t.subtasks ∧ Check.kpi.run u ⟨.standard, l, []⟩ = .ok v ∧ i ∈ v.errors ∧
    i.Lists "kpi-open" ∧ IsFirstUse l.lines u.content "kpi-open" 5 ∧
    ∃ first, ReportsOnce l.lines (checkList l none).errors "kpi-open" first ∧ first ≤ 5 := by
  have hbreaks : ∀ line ∈ openPlan, Text.IsUnbroken line := by decide +kernel
  have hfirst : ((tasks .standard openPlan).head?.bind fun t => t.subtasks.head?.map fun u =>
      (u.content, Check.Kpi.undefinedNames (referenceBlocks openPlan) u,
        (Check.Kpi.lines? (referenceBlocks openPlan) u).map fun lines =>
          (Check.Kpi.values lines).isEmpty)) =
      some (["**Goal**: a draft", "\x7b\x7bkpi-open\x7d\x7d"], ["kpi-open"], some true) := by
    decide +kernel
  obtain ⟨t, ht, hfacts⟩ := Option.bind_eq_some_iff.1 hfirst
  obtain ⟨u, hu, hfacts⟩ := Option.map_eq_some_iff.1 hfacts
  simp only [Prod.mk.injEq, Option.map_eq_some_iff] at hfacts
  obtain ⟨hcontent, hundefined, lines, hlines, hnone⟩ := hfacts
  have htask := List.mem_of_head? ht
  have hsubtask := List.mem_of_head? hu
  have hread := ofText?_intercalate none hbreaks (List.ne_nil_of_mem htask)
  have hall : u ∈ (listOfLines .standard openPlan none).allTasks :=
    List.mem_flatMap.2 ⟨t, htask, List.mem_cons_of_mem _ hsubtask⟩
  have hissues : Check.Kpi.issues u ⟨.standard, listOfLines .standard openPlan none, []⟩ =
      .ok [.missingKpiReference u.id ["kpi-open"]] := by
    have hreferences : (listOfLines .standard openPlan none).references =
      referenceBlocks openPlan := rfl
    simp [Check.Kpi.issues, Scope.references, hreferences, hlines, hundefined, hnone]
  have hrun : Check.kpi.run u ⟨.standard, listOfLines .standard openPlan none, []⟩ =
      .ok (.ofIssues [.missingKpiReference u.id ["kpi-open"]]) :=
    congrArg (·.map Verdict.ofIssues) hissues
  have hlists : (Issue.missingKpiReference u.id ["kpi-open"]).Lists "kpi-open" :=
    ⟨.inl rfl, ["kpi-open"], .head _, .head _⟩
  have hplace : IsFirstUse openPlan u.content "kpi-open" 5 := by
    rw [hcontent]
    exact ⟨3, 1, rfl, by decide +kernel, rfl⟩
  obtain ⟨hlisted, -⟩ := reportsOnce_of_lists hread
  obtain ⟨-, first, honce, hfirst⟩ := hlisted u hall Check.kpi (by simp [Check.named]) _ rfl _ hrun
    _ (.head _) _ hlists
  exact ⟨_, t, u, _, _, hread, htask, hsubtask, hrun, .head _, hlists, hplace, first, honce,
    hfirst 5 hplace⟩

end Usage

end TaskAudit
