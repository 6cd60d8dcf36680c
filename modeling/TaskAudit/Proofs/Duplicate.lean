import Mathlib.Data.List.Duplicate
import TaskAudit.Proofs.Consistency
import TaskAudit.Proofs.Extent
import TaskAudit.Proofs.Fault
import TaskAudit.Proofs.Kinds

/-!
# Ids that occur more than once

The check of ids runs first in every preset and tells entries of one id apart by their origins. An
id at two places of a document is therefore reported, with one exception: a subtask in a section
that two rows of one id share is listed below either row, and is one entry all the same. The id of
the rows is reported then.
-/

namespace TaskAudit

/-! ### Single tasks -/

namespace Check.Identity

theorem exists_mem_duplicateIssues_iff {everything : List Task} {t : Task} :
    (∃ i, i ∈ duplicateIssues everything t) ↔ t.id ≠ Task.unreadableId ∧
      ∃ first, (everything.filter (·.id = t.id)).head? = some first ∧ first.isSame t = false := by
  rw [duplicateIssues, Task.hasReadableId]
  by_cases hid : t.id = Task.unreadableId
  · simp [hid]
  · rw [if_neg (by simp [hid])]
    dsimp only
    cases everything.filter (·.id = t.id) with
    | nil => simp
    | cons first rest =>
        cases hsame : first.isSame t <;> simp [hid, hsame]

/-- The issues of kind `duplicateTaskId` are those about repetitions. -/
theorem exists_of_kind_eq_duplicate {t : Task} {scope : Scope} {i : Issue}
    (h : i ∈ issues t scope) (hkind : i.kind = .duplicateTaskId) :
    ∃ u ∈ if t.isMain then t :: t.subtasks else [t], i ∈ duplicateIssues scope.list.allTasks u := by
  rcases mem_issues_iff.1 h with ⟨u, hu, h | h | h⟩ | ⟨-, -, h⟩
  · rcases kind_of_mem_formatIssues h with hother | hother <;> simp [hother] at hkind
  · exact ⟨u, hu, h⟩
  · simp [kind_of_mem_codeIssues h] at hkind
  · rcases kind_of_mem_meaningIssues h with hother | hother <;> simp [hother] at hkind

end Check.Identity

/-! ### Pipelines -/

namespace Pipeline

variable {p : Pipeline} {t : Task} {scope : Scope} {v : Verdict} {i : Issue}

/-- A step of a higher rank than all others comes first. -/
theorem exists_steps_ofSteps_eq_cons {s : Step} {more : List Step}
    (hranks : ∀ x ∈ more, x.check.rank < s.check.rank) :
    ∃ rest, (ofSteps (s :: more)).steps = s :: rest := by
  have hdescending := (inPriorityOrder_ofSteps (s :: more)).descending
  have hs : s ∈ (ofSteps (s :: more)).steps := mem_ofSteps.2 List.mem_cons_self
  cases hsteps : (ofSteps (s :: more)).steps with
  | nil => simp [hsteps] at hs
  | cons first rest =>
      rw [hsteps] at hs hdescending
      refine ⟨rest, ?_⟩
      rcases List.mem_cons.1 hs with rfl | hlater
      · rfl
      · have hhighest := (List.pairwise_cons.1 hdescending).1 s hlater
        have hfirst : first ∈ s :: more := mem_ofSteps.1 (hsteps ▸ List.mem_cons_self)
        rcases List.mem_cons.1 hfirst with rfl | hlower
        · rfl
        · exact absurd (hranks first hlower) (Int.not_lt.2 hhighest)

/-- What the first step reports is reported. -/
theorem mem_errors_of_mem_errors_first {s : Step} {rest : List Step} {w : Verdict}
    (hsteps : p.steps = s :: rest) (hstep : s.run t scope = .ok w) (hrun : p.run t scope = .ok v)
    (hi : i ∈ w.errors) : i ∈ v.errors := by
  obtain ⟨vs, hvs, rfl⟩ := map_eq_ok_iff.1 hrun
  rw [hsteps] at hvs
  have hmem : w ∈ vs := by
    cases hw : w.valid with
    | false =>
        rw [verdicts_cons_of_not_valid hstep hw] at hvs
        rw [← Except.ok.inj hvs]
        exact List.mem_cons_self
    | true =>
        rw [verdicts_cons_of_valid hstep hw] at hvs
        obtain ⟨more, -, rfl⟩ := map_eq_ok_iff.1 hvs
        exact List.mem_cons_self
  rw [Verdict.errors_combine]
  exact List.mem_flatMap.2 ⟨w, hmem, hi⟩

/-- What is reported is what a step reports. -/
theorem exists_step_of_mem_errors (hrun : p.run t scope = .ok v) (hi : i ∈ v.errors) :
    ∃ s ∈ p.steps, ∃ w, s.run t scope = .ok w ∧ i ∈ w.errors := by
  obtain ⟨vs, hvs, rfl⟩ := map_eq_ok_iff.1 hrun
  rw [Verdict.errors_combine] at hi
  obtain ⟨w, hw, hi⟩ := List.mem_flatMap.1 hi
  obtain ⟨s, hs, hstep⟩ := exists_step_of_mem_verdicts hvs w hw
  exact ⟨s, hs, w, hstep, hi⟩

end Pipeline

/-- Every preset looks at the ids first. -/
theorem Preset.exists_steps_eq_cons {name : String} {p : Pipeline} (h : ofName name = .ok p) :
    ∃ settings rest, p.steps = ⟨Check.identity, settings⟩ :: rest := by
  rw [ofName] at h
  cases hfound : Catalog.get? name all with
  | none => simp [hfound] at h
  | some steps =>
      rw [hfound] at h
      rw [← Except.ok.inj h]
      have hsteps := Catalog.mem_of_get?_eq_some hfound
      simp only [all, List.mem_cons, List.not_mem_nil, or_false, Prod.mk.injEq] at hsteps
      have hfirst : ∃ settings more, steps = ⟨Check.identity, settings⟩ :: more ∧
          ∀ x ∈ more, x.check.rank < Check.identity.rank := by
        rcases hsteps with ⟨-, rfl⟩ | ⟨-, rfl⟩ | ⟨-, rfl⟩
        · exact ⟨_, _, rfl, by decide⟩
        · exact ⟨_, _, rfl, by decide⟩
        · exact ⟨_, _, rfl, by decide⟩
      obtain ⟨settings, more, rfl, hranks⟩ := hfirst
      obtain ⟨rest, hrest⟩ :=
        Pipeline.exists_steps_ofSteps_eq_cons (s := ⟨Check.identity, settings⟩) hranks
      exact ⟨settings, rest, hrest⟩

/-! ### Entries of a document -/

namespace Document

theorem origin_ne_apart_of_mem_tasks {policy : Policy} {lines : List String} {t u : Task}
    (ht : t ∈ tasks policy lines) (hu : u ∈ t :: t.subtasks) : u.origin ≠ .apart := by
  rcases List.mem_cons.1 hu with rfl | hu
  · rcases cases_of_mem_tasks ht with hrow | ⟨row, hrow, s, -, -, rfl⟩ | ⟨s, -, -, rfl⟩
    · obtain ⟨table, row, rfl, -⟩ := mem_rowTasks_iff.1 hrow
      simp [rowTask]
    · obtain ⟨table, row, rfl, -⟩ := mem_rowTasks_iff.1 hrow
      simp [mergeRow, rowTask]
    · simp [standalone]
  · obtain ⟨-, place, horigin⟩ := subtask_of_mem_tasks ht hu
    simp [horigin]

theorem ne_unreadableId_of_isTaskHeading {line id : String} (h : IsTaskHeading line id) :
    id ≠ Task.unreadableId := by
  obtain ⟨code, digits, _, hid, -, -, -, -, hdigits, hthree, -⟩ := h
  have hdigit : digits ≠ [] := List.length_pos_iff.1 (by omega)
  rintro rfl
  have hlast : Task.unreadableId.toList.getLast? = some 'T' := by decide
  rw [hid, List.getLast?_append_of_ne_nil _ hdigit] at hlast
  exact absurd (hdigits 'T' (List.mem_of_getLast? hlast)) (by decide)

end Document

/-! ### Whole audits -/

/-- There is an error that says that an id occurs more than once. -/
def Verdict.ReportsDuplicate (v : Verdict) (id : String) : Prop :=
  ∃ i ∈ v.errors, i.kind = .duplicateTaskId ∧ i.taskId = some id

namespace Audit

section Reports

variable {policy : Policy} {text preset : String} {path : Option String} {l : TaskList}
  {p : Pipeline} {v : Verdict} {id : String}

/-- The errors of an audit are those of the references and those of the main tasks. -/
theorem mem_errors_iff (h : verdict policy p l = .ok v) {i : Issue} :
    i ∈ v.errors ↔ i ∈ (Usage.checkList l none).errors ∨
      ∃ t ∈ l.mainTasks, ∃ w, p.run t ⟨policy, l, []⟩ = .ok w ∧ i ∈ w.errors := by
  obtain ⟨vs, hruns, haccounts⟩ := accounts_of_verdict_eq_ok h
  have hmem : ∀ r : Except Fault Verdict,
      (∃ t ∈ l.mainTasks, p.run t ⟨policy, l, []⟩ = r) ↔ ∃ w ∈ vs, .ok w = r := by
    intro r
    rw [← List.mem_map, hruns, List.mem_map]
  rw [haccounts.errors, List.mem_append, List.mem_flatMap]
  refine or_congr_right ⟨?_, ?_⟩
  · rintro ⟨w, hw, hi⟩
    obtain ⟨t, ht, hrun⟩ := (hmem (.ok w)).2 ⟨w, hw, rfl⟩
    exact ⟨t, ht, w, hrun, hi⟩
  · rintro ⟨t, ht, w, hrun, hi⟩
    obtain ⟨w', hw', heq⟩ := (hmem (.ok w)).1 ⟨t, ht, hrun⟩
    obtain rfl := Except.ok.inj heq
    exact ⟨w', hw', hi⟩

theorem exists_run_eq_ok (h : verdict policy p l = .ok v) {t : Task} (ht : t ∈ l.mainTasks) :
    ∃ w, p.run t ⟨policy, l, []⟩ = .ok w := by
  obtain ⟨vs, hruns, -⟩ := accounts_of_verdict_eq_ok h
  have hmem : p.run t ⟨policy, l, []⟩ ∈ vs.map .ok := hruns ▸ List.mem_map_of_mem ht
  obtain ⟨w, -, hw⟩ := List.mem_map.1 hmem
  exact ⟨w, hw.symm⟩

variable (hread : TaskList.ofText? policy text path = some l)
  (hpreset : Preset.ofName preset = .ok p) (hverdict : verdict policy p l = .ok v)

include hread hpreset hverdict

/-- An entry other than the first of its id is reported. -/
theorem reportsDuplicate_of_first {first u : Task} (hu : u ∈ l.allTasks)
    (hid : u.id ≠ Task.unreadableId)
    (hfirst : (l.allTasks.filter (·.id = u.id)).head? = some first)
    (hne : first.origin ≠ u.origin) : v.ReportsDuplicate u.id := by
  obtain ⟨-, htasks⟩ := Document.lines_tasks_of_ofText? hread
  obtain ⟨t, ht, hut⟩ := List.mem_flatMap.1 hu
  have hmain : t.isMain = true := (Document.mainTask_of_mem_tasks (htasks ▸ ht)).isMain
  have hmem : t ∈ l.mainTasks := List.mem_filter.2 ⟨ht, hmain⟩
  obtain ⟨settings, rest, hsteps⟩ := Preset.exists_steps_eq_cons hpreset
  obtain ⟨w, hrun⟩ := exists_run_eq_ok hverdict hmem
  obtain ⟨i, hi⟩ := Check.Identity.exists_mem_duplicateIssues_iff.2
    ⟨hid, first, hfirst, by simp [Task.isSame, hne]⟩
  obtain ⟨hkind, htaskId, herror⟩ := Check.Identity.of_mem_duplicateIssues hi
  have hissue : i ∈ Check.Identity.issues t ⟨policy, l, settings⟩ :=
    Check.Identity.mem_issues_iff.2
      (Or.inl ⟨u, by rwa [if_pos hmain], Or.inr (Or.inl hi)⟩)
  have hstep : i ∈ (Verdict.ofIssues (Check.Identity.issues t ⟨policy, l, settings⟩)).errors :=
    List.mem_filter.2 ⟨hissue, by simp [herror]⟩
  have hreported : i ∈ w.errors :=
    Pipeline.mem_errors_of_mem_errors_first hsteps rfl hrun hstep
  exact ⟨i, (mem_errors_iff hverdict).2 (Or.inr ⟨t, hmem, w, hrun, hreported⟩), hkind, htaskId⟩

/-- An id is reported exactly if two entries with it are told apart. -/
theorem reportsDuplicate_iff (hid : id ≠ Task.unreadableId) :
    v.ReportsDuplicate id ↔ ∃ u ∈ l.allTasks, ∃ w ∈ l.allTasks,
      u.id = id ∧ w.id = id ∧ u.origin ≠ w.origin := by
  obtain ⟨-, htasks⟩ := Document.lines_tasks_of_ofText? hread
  constructor
  · rintro ⟨i, hi, hkind, htaskId⟩
    rcases (mem_errors_iff hverdict).1 hi with hreference | ⟨t, ht, r, hrun, hi⟩
    · obtain ⟨name, -, hreports⟩ := Usage.exists_reports_of_mem_errors _ _ hreference
      simp [hreports.kind] at hkind
    obtain ⟨s, hs, x, hstep, hi⟩ := Pipeline.exists_step_of_mem_errors hrun hi
    have hnamed := ((Pipeline.IsBuiltIn.preset hpreset).isBuiltIn_steps s hs).check
    have hidentity : s.check = Check.identity :=
      Check.eq_identity_of_duplicate hnamed hstep (List.mem_append_left _ hi) hkind
    rw [Step.run, hidentity] at hstep
    obtain rfl := Except.ok.inj hstep
    obtain ⟨u, hu, hduplicate⟩ :=
      Check.Identity.exists_of_kind_eq_duplicate (List.mem_filter.1 hi).1 hkind
    obtain ⟨hmem, hmain⟩ := List.mem_filter.1 ht
    rw [if_pos hmain] at hu
    obtain ⟨-, hsame, -⟩ := Check.Identity.of_mem_duplicateIssues hduplicate
    obtain rfl : u.id = id := Option.some.inj (hsame.symm.trans htaskId)
    obtain ⟨-, first, hfirst, hother⟩ :=
      Check.Identity.exists_mem_duplicateIssues_iff.1 ⟨i, hduplicate⟩
    obtain ⟨hfirstMem, hfirstId⟩ := List.mem_filter.1 (List.mem_of_mem_head? hfirst)
    refine ⟨first, hfirstMem, u, List.mem_flatMap.2 ⟨t, hmem, hu⟩, by simpa using hfirstId, rfl, ?_⟩
    intro horigin
    have hapart := Document.origin_ne_apart_of_mem_tasks (htasks ▸ hmem) hu
    simp [Task.isSame, horigin, hapart] at hother
  · rintro ⟨u, hu, w, hw, hid', rfl, hne⟩
    have hmem : u ∈ l.allTasks.filter (·.id = w.id) := List.mem_filter.2 ⟨hu, by simp [hid']⟩
    obtain ⟨first, hfirst⟩ : ∃ first, (l.allTasks.filter (·.id = w.id)).head? = some first := by
      cases hfilter : l.allTasks.filter (·.id = w.id) with
      | nil => simp [hfilter] at hmem
      | cons first rest => exact ⟨first, rfl⟩
    -- The first entry is told apart from one of the two.
    by_cases hsame : first.origin = w.origin
    · rw [← hid'] at hfirst hid ⊢
      exact reportsDuplicate_of_first hread hpreset hverdict hu hid hfirst
        fun heq => hne (heq.symm.trans hsame)
    · exact reportsDuplicate_of_first hread hpreset hverdict hw hid hfirst hsame

end Reports

/-! ### Shared subtasks -/

/-- All entries with an id are one subtask, in the section that two rows of one id share. -/
structure IsSharedBy (l : TaskList) (id : String) (t u : Task) : Prop where
  entries : [t, u].Sublist l.tasks
  ids : t.id = u.id
  atRow : Document.IsAtRow l.lines t ∧ Document.IsAtRow l.lines u
  subtasks : t.subtasks = u.subtasks
  part : ∃ part ∈ t.subtasks, part.id = id ∧ ∀ w ∈ l.allTasks, w.id = id → w.origin = part.origin

section Shared

variable {policy : Policy} {text preset : String} {path : Option String} {l : TaskList}
  {p : Pipeline} {v : Verdict} {id : String}

/-- Entries of one id that are never told apart are a subtask that rows share. -/
theorem exists_isSharedBy (hread : TaskList.ofText? policy text path = some l)
    (hcount : 2 ≤ l.ids.count id)
    (hsame : ∀ u ∈ l.allTasks, ∀ w ∈ l.allTasks, u.id = id → w.id = id → u.origin = w.origin) :
    ∃ t u, IsSharedBy l id t u := by
  obtain ⟨hlines, htasks⟩ := Document.lines_tasks_of_ofText? hread
  have hsub : [id, id].Sublist (l.allTasks.map (·.id)) :=
    List.duplicate_iff_sublist.1 (List.duplicate_iff_two_le_count.2 hcount)
  obtain ⟨entries, hentries, heq⟩ := List.sublist_map_iff.1 hsub
  obtain ⟨part, other, rfl⟩ : ∃ part other, entries = [part, other] := by
    rw [← List.length_eq_two, ← List.length_map (f := fun t : Task => t.id), ← heq]
    rfl
  obtain ⟨hpart, hother⟩ : part.id = id ∧ other.id = id := by simpa [eq_comm] using heq
  have hpartMem : part ∈ l.allTasks := hentries.subset (by simp)
  have hotherMem : other ∈ l.allTasks := hentries.subset (by simp)
  have hpairs := Document.pairwise_origin_eq policy (Text.lines text)
  rw [← htasks] at hpairs
  obtain ⟨t, u, hrows, hid, ht, hu⟩ := List.pairwise_iff_forall_sublist.1 hpairs hentries
    (hsame part hpartMem other hotherMem hpart hother)
  have hmem : ∀ x ∈ [t, u], x ∈ Document.tasks policy (Text.lines text) := by
    rw [← htasks]
    exact fun x hx => hrows.subset hx
  have hne : t.origin ≠ u.origin := Document.origin_ne_of_sublist_tasks (htasks ▸ hrows)
  have htMem := hmem t (by simp)
  have huMem := hmem u (by simp)
  rcases Document.hasSection_of_mem_tasks htMem with ⟨-, hnone⟩ | ⟨s, hts⟩
  · simp [hnone] at ht
  rcases Document.hasSection_of_mem_tasks huMem with ⟨-, hnone⟩ | ⟨s', hus⟩
  · simp [hnone] at hu
  obtain rfl : s = s' := by
    by_contra hsections
    exact Document.origin_ne_of_mem_sections hts.mem hus.mem hsections part (hts.subtasks ▸ ht)
      other (hus.subtasks ▸ hu) (hsame part hpartMem other hotherMem hpart hother)
  refine ⟨t, u, hrows, hid, ?_, hts.subtasks.trans hus.subtasks.symm, part, ht, hpart,
    fun w hw hwid => hsame w hw part hpartMem hwid hpart⟩
  rw [hlines]
  exact ⟨Document.isAtRow_of_hasSection htMem huMem hne hts hus,
    Document.isAtRow_of_hasSection huMem htMem hne.symm hus hts⟩

variable (hread : TaskList.ofText? policy text path = some l)
  (hpreset : Preset.ofName preset = .ok p) (hverdict : verdict policy p l = .ok v)

include hread hpreset hverdict

/-- The rows that share a subtask are reported. -/
theorem IsSharedBy.reportsDuplicate {t u : Task} (h : IsSharedBy l id t u) :
    v.ReportsDuplicate t.id := by
  obtain ⟨hlines, htasks⟩ := Document.lines_tasks_of_ofText? hread
  have ht : t ∈ l.tasks := h.entries.subset (by simp)
  have hu : u ∈ l.tasks := h.entries.subset (by simp)
  have hid : t.id ≠ Task.unreadableId := by
    obtain ⟨part, hpart, -⟩ := h.part
    rcases Document.hasSection_of_mem_tasks (htasks ▸ ht) with ⟨-, hnone⟩ | ⟨s, hs⟩
    · simp [hnone] at hpart
    · obtain ⟨line, -, hheading⟩ := hs.isReadFrom.heading
      exact Document.ne_unreadableId_of_isTaskHeading hheading
  exact (reportsDuplicate_iff hread hpreset hverdict hid).2
    ⟨t, List.mem_flatMap.2 ⟨t, ht, List.mem_cons_self⟩, u,
      List.mem_flatMap.2 ⟨u, hu, List.mem_cons_self⟩, rfl, h.ids.symm,
      Document.origin_ne_of_sublist_tasks (htasks ▸ h.entries)⟩

theorem reportsDuplicate_iff_not_isSharedBy (hid : id ≠ Task.unreadableId)
    (hcount : 2 ≤ l.ids.count id) :
    v.ReportsDuplicate id ↔ ¬ ∃ t u, IsSharedBy l id t u := by
  rw [reportsDuplicate_iff hread hpreset hverdict hid]
  constructor
  · rintro ⟨u, hu, w, hw, huid, hwid, hne⟩ ⟨_, _, hshared⟩
    obtain ⟨part, -, -, hall⟩ := hshared.part
    exact hne ((hall u hu huid).trans (hall w hw hwid).symm)
  · intro hnone
    by_contra hsame
    refine hnone (exists_isSharedBy hread hcount fun u hu w hw huid hwid => ?_)
    by_contra hne
    exact hsame ⟨u, hu, w, hw, huid, hwid, hne⟩

end Shared

/-- **Which repeated ids are reported.** Of an id at two places of a document any preset reports
that it occurs more than once, unless all its entries are one subtask that two rows of one id share;
then the id of those rows is reported. Only the check of code quality can keep a preset from a
verdict. -/
theorem verdictByPreset_of_two_le_count {policy : Policy} {text preset : String}
    {path : Option String} {l : TaskList} {p : Pipeline} {id : String}
    (hread : TaskList.ofText? policy text path = some l) (hpreset : Preset.ofName preset = .ok p)
    (hid : id ≠ Task.unreadableId) (hcount : 2 ≤ l.ids.count id) :
    (∃ v, verdictByPreset policy preset l = .ok v ∧
      (v.ReportsDuplicate id ↔ ¬ ∃ t u, IsSharedBy l id t u) ∧
      ∀ t u, IsSharedBy l id t u → v.ReportsDuplicate t.id) ∨
    ∃ fault, verdictByPreset policy preset l = .error (.check fault) ∧
      ∃ t ∈ l.mainTasks, ∃ s ∈ p.steps, s.check = Check.kpi ∧
        s.run t ⟨policy, l, []⟩ = .error fault := by
  rw [verdictByPreset, hpreset]
  simp only [mapError_ok, bind, Except.bind]
  cases hverdict : verdict policy p l with
  | ok v =>
      exact Or.inl ⟨v, rfl, reportsDuplicate_iff_not_isSharedBy hread hpreset hverdict hid hcount,
        fun t u h => h.reportsDuplicate hread hpreset hverdict⟩
  | error fault =>
      obtain ⟨t, ht, s, hs, hrun⟩ := exists_step_of_verdict_eq_error hverdict
      have hnamed := ((Pipeline.IsBuiltIn.preset hpreset).isBuiltIn_steps s hs).check
      exact Or.inr ⟨fault, rfl, t, ht, s, hs, Check.eq_kpi_of_run_eq_error hnamed hrun, hrun⟩

/-! ### Two rows and a section for both -/

open Document in
/-- The entries of the two ids, all of them read in one evaluation. -/
theorem entries_sharedSection :
    (sharedSectionList.ids.count "AB0001" = 2 ∧
      (sharedSectionList.allTasks.filter (·.id = "AB0001")).map (·.origin) =
        [.row .current 3, .row .current 4]) ∧
    (sharedSectionList.ids.count "AB0001-1" = 2 ∧
      (sharedSectionList.allTasks.filter (·.id = "AB0001-1")).map (·.origin) =
        [.marker 7, .marker 7]) ∧
    ∀ t ∈ sharedSectionList.mainTasks,
      (Check.Kpi.lines? sharedSectionList.references t).isNone = true := by
  decide +kernel

open Document in
/-- The id of the rows is reported. -/
theorem verdictByPreset_of_two_le_count_sharedSection :
    TaskList.ofText? .standard ("\n".intercalate (Document.sharedSection ++ [""])) none =
      some sharedSectionList ∧ sharedSectionList.ids.count "AB0001" = 2 ∧
    ∃ v, verdictByPreset .standard "minimal" sharedSectionList = .ok v ∧
      v.ReportsDuplicate "AB0001" := by
  obtain ⟨⟨hcount, horigins⟩, -, -⟩ := entries_sharedSection
  have hpreset : Preset.ofName "minimal" = .ok (.ofSteps Preset.minimal) := rfl
  refine ⟨ofText?_sharedSection, hcount, ?_⟩
  rcases verdictByPreset_of_two_le_count ofText?_sharedSection hpreset (by decide)
    (Nat.le_of_eq hcount.symm) with ⟨v, hv, hreported, -⟩ | ⟨_, -, _, -, s, hs, hkpi, -⟩
  · refine ⟨v, hv, hreported.2 ?_⟩
    rintro ⟨t, u, hshared⟩
    -- The rows themselves are entries of the id at two places.
    obtain ⟨part, -, -, hall⟩ := hshared.part
    have heach : ∀ o ∈ [Origin.row .current 3, .row .current 4], o = part.origin := by
      intro o ho
      rw [← horigins] at ho
      obtain ⟨w, hw, rfl⟩ := List.mem_map.1 ho
      obtain ⟨hmem, hid⟩ := List.mem_filter.1 hw
      exact hall w hmem (by simpa using hid)
    have heq := (heach (.row .current 3) (by simp)).trans (heach (.row .current 4) (by simp)).symm
    exact absurd heq (by decide)
  · rcases List.mem_pair.1 (Pipeline.mem_ofSteps.1 hs) with rfl | rfl
    · exact absurd (congrArg Check.title hkpi) (by decide)
    · exact absurd (congrArg Check.title hkpi) (by decide)

open Document in
/-- The id of a subtask that two rows share occurs twice, and no preset reports it. -/
theorem not_reportsDuplicate_sharedSection :
    read .standard ("\n".intercalate (Document.sharedSection ++ [""])) none =
      .ok sharedSectionList ∧ sharedSectionList.ids.count "AB0001-1" = 2 ∧
    ∀ preset ∈ ["default", "minimal", "strict"],
      ∃ v, verdictByPreset .standard preset sharedSectionList = .ok v ∧
        ¬ v.ReportsDuplicate "AB0001-1" := by
  obtain ⟨-, ⟨hcount, horigins⟩, hlines⟩ := entries_sharedSection
  refine ⟨by rw [read, ofText?_sharedSection], hcount, fun preset hname => ?_⟩
  obtain ⟨p, hpreset⟩ : ∃ p, Preset.ofName preset = .ok p := by
    simp only [List.mem_cons, List.not_mem_nil, or_false] at hname
    rcases hname with rfl | rfl | rfl
    · exact ⟨_, rfl⟩
    · exact ⟨_, rfl⟩
    · exact ⟨_, rfl⟩
  rw [verdictByPreset, hpreset]
  simp only [mapError_ok, bind, Except.bind]
  cases hverdict : verdict .standard p sharedSectionList with
  | ok v =>
      refine ⟨v, rfl, fun hreported => ?_⟩
      obtain ⟨u, hu, w, hw, huid, hwid, hne⟩ :=
        (reportsDuplicate_iff ofText?_sharedSection hpreset hverdict (by decide)).1 hreported
      have hsame : ∀ x ∈ sharedSectionList.allTasks, x.id = "AB0001-1" → x.origin = .marker 7 := by
        intro x hx hid
        have hmem : x ∈ sharedSectionList.allTasks.filter (·.id = "AB0001-1") :=
          List.mem_filter.2 ⟨hx, by simp [hid]⟩
        have horigin := List.mem_map_of_mem (f := Task.origin) hmem
        rw [horigins] at horigin
        simpa using horigin
      exact hne ((hsame u hu huid).trans (hsame w hw hwid).symm)
  | error fault =>
      exfalso
      obtain ⟨t, ht, s, hs, hrun⟩ := exists_step_of_verdict_eq_error hverdict
      have hnamed := ((Pipeline.IsBuiltIn.preset hpreset).isBuiltIn_steps s hs).check
      have hissues : Check.Kpi.issues t ⟨.standard, sharedSectionList, s.settings⟩ =
          .ok [.missingKpiSection t.id] := by
        have hnone := Option.isNone_iff_eq_none.1 (hlines t ht)
        simp only [Check.Kpi.issues, Scope.references, hnone]
      rw [Step.run, Check.eq_kpi_of_run_eq_error hnamed hrun] at hrun
      have hmap := map_eq_error_iff.1 hrun
      exact absurd (hissues.symm.trans hmap) (ok_ne_error _)

end Audit

end TaskAudit
