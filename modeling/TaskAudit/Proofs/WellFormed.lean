import TaskAudit.Proofs.Audit
import TaskAudit.Proofs.CleanTemplate
import TaskAudit.Proofs.Soundness

/-!
# What a clean verdict says

A document that passes all checks is well-formed. Most of it is what the single checks say of one
main task after the other. That no id occurs twice needs also what is known of where tasks come
from, as the check for repetitions lets pass what has one origin.
-/

namespace TaskAudit

open Relation

/-- What can be relied on in a task list that passed. -/
structure WellFormed (policy : Policy) (l : TaskList) : Prop where
  distinctIds : l.ids.Nodup
  readableIds : ∀ t ∈ l.allTasks, t.id ≠ Task.unreadableId
  /-- Work in progress is divided into subtasks. -/
  progress : ∀ t ∈ l.mainTasks, t.status = Task.inProgressStatus → t.subtasks ≠ []
  ratedTasks : ∀ t ∈ l.mainTasks, t.isCompleted = true → t.IsRated policy
  ratedSubtasks : ∀ t ∈ l.subtasks, t.marker = some .numbered → t.isCompleted = true →
    t.IsRated policy
  /-- A subtask has the code of the task it stands under, and its id is made from that of a main
  task. -/
  codes : ∀ t ∈ l.mainTasks, ∀ u ∈ t.subtasks, u.code = t.code
  parents : ∀ u ∈ l.subtasks, ∃ t ∈ l.mainTasks, TaskId.parent? u.id = some t.id
  knownDependencies : ∀ t ∈ l.mainTasks,
    ∀ id ∈ Check.Dependencies.declared l.references t, id ∈ l.ids
  acyclic : ∀ t ∈ l.mainTasks, ¬ TransGen (Check.Dependencies.DependsOn l) t.id t.id
  definedReferences : ∀ line ∈ l.lines, ∀ name ∈ Document.references line,
    l.references.contains name = true
  categories : ∀ t ∈ l.mainTasks, ∃ n, TaskId.number? t.id = some n ∧
    ∃ entry ∈ policy.categoryRanges.entries, entry.2.contains n = true
  statuses : ∀ t ∈ l.allTasks, t.status ∈ policy.statuses
  priorities : ∀ t ∈ l.mainTasks, ∀ priority, t.priority = some priority →
    priority ∈ policy.priorities

/-! ### Task lists that were read -/

/-- What reading makes sure of in the task list of any document. -/
structure TaskList.IsOfDocument (l : TaskList) : Prop where
  isMain : ∀ t ∈ l.tasks, t.isMain = true
  isSubtask : ∀ t ∈ l.tasks, ∀ u ∈ t.subtasks, u.isSubtask = true
  distinctOrigins : (l.tasks.map (·.origin)).Nodup
  /-- Entries are told apart by their origins if main tasks are by their ids. -/
  distinctEntries : (l.tasks.map (·.id)).Nodup →
    l.allTasks.Pairwise fun t u => t.origin ≠ u.origin

namespace TaskList.IsOfDocument

variable {policy : Policy} {text : String} {path : Option String} {l : TaskList} {t u : Task}

theorem of_ofText? (h : TaskList.ofText? policy text path = some l) : l.IsOfDocument := by
  have htasks := (Document.lines_tasks_of_ofText? h).2
  constructor
  case isMain => exact fun t ht => (Document.mainTask_of_mem_tasks (htasks ▸ ht)).isMain
  case isSubtask => exact fun t ht u hu => (Document.subtask_of_mem_tasks (htasks ▸ ht) hu).1
  case distinctOrigins =>
    rw [htasks]
    exact Document.nodup_origins_tasks policy (Text.lines text)
  case distinctEntries =>
    rw [TaskList.allTasks, htasks]
    exact Document.pairwise_origin_ne_of_ids

variable (h : l.IsOfDocument)

include h

theorem mem_mainTasks_iff : t ∈ l.mainTasks ↔ t ∈ l.tasks := by
  rw [TaskList.mainTasks, List.mem_filter]
  exact ⟨And.left, fun ht => ⟨ht, h.isMain t ht⟩⟩

omit h in
theorem mem_allTasks_iff : u ∈ l.allTasks ↔ ∃ t ∈ l.tasks, u ∈ t :: t.subtasks := List.mem_flatMap

omit h in
theorem mem_allTasks_of_mem (ht : t ∈ l.tasks) : t ∈ l.allTasks :=
  mem_allTasks_iff.2 ⟨t, ht, List.mem_cons_self⟩

theorem mem_tasks_of_isMain (hu : u ∈ l.allTasks) (hmain : u.isMain = true) : u ∈ l.tasks := by
  obtain ⟨t, ht, hmem⟩ := mem_allTasks_iff.1 hu
  rcases List.mem_cons.1 hmem with rfl | hsub
  · exact ht
  · have hnot := h.isSubtask t ht u hsub
    simp only [Task.isMain, Task.isSubtask, decide_eq_true_eq] at hmain hnot
    simp [hmain] at hnot

end TaskList.IsOfDocument

namespace Audit

variable {policy : Policy} {text : String} {path : Option String} {l : TaskList} {v : Verdict}

theorem passes_of_valid_verdict (h : verdictByPreset policy "default" l = .ok v)
    (hvalid : v.valid = true) : (Usage.checkList l none).valid = true ∧
      ∀ t ∈ l.mainTasks, ∀ c ∈ Check.named.map Prod.snd, c.Passes t ⟨policy, l, []⟩ := by
  obtain ⟨hreferences, hsteps⟩ :=
    steps_pass_of_verdict (verdictByPreset_default_eq_ok_iff.1 h) hvalid
  refine ⟨hreferences, fun t ht c hc => ?_⟩
  obtain ⟨entry, hentry, rfl⟩ := List.mem_map.1 hc
  exact hsteps t ht _ (Pipeline.mem_ofSteps.2 (List.mem_map_of_mem hentry))

/-! ### What the checks say of each task -/

/-- What a clean verdict says of the main tasks and subtasks, one at a time. -/
structure EachSound (policy : Policy) (l : TaskList) : Prop where
  identity : ∀ t ∈ l.tasks, ∀ u ∈ t :: t.subtasks, Check.Identity.Sound l.allTasks u
  status : ∀ t ∈ l.tasks, Check.Status.Sound policy t
  subtasks : ∀ t ∈ l.tasks, ∀ u ∈ t.subtasks, Check.Subtasks.Sound policy t u
  dependencies : ∀ t ∈ l.tasks, Check.Dependencies.Sound l t
  category : ∀ t ∈ l.tasks, ∃ n, TaskId.number? t.id = some n ∧
    ∃ entry ∈ policy.categoryRanges.entries, entry.2.contains n = true

theorem eachSound_of_passes (hdocument : l.IsOfDocument)
    (hpasses : ∀ t ∈ l.mainTasks, ∀ c ∈ Check.named.map Prod.snd, c.Passes t ⟨policy, l, []⟩) :
    EachSound policy l := by
  have hchecks : ∀ c ∈ Check.named.map Prod.snd, ∀ t ∈ l.tasks, c.Passes t ⟨policy, l, []⟩ :=
    fun c hc t ht => hpasses t (hdocument.mem_mainTasks_iff.2 ht) c hc
  have hmain := hdocument.isMain
  constructor
  · intro t ht u hu
    exact Check.Identity.sound_of_passes (hmain t ht)
      (hchecks Check.identity (by simp [Check.named]) t ht) hu
  · intro t ht
    exact Check.Status.sound_of_passes (hmain t ht)
      (hchecks Check.status (by simp [Check.named]) t ht)
  · intro t ht u hu
    exact Check.Subtasks.sound_of_passes (hmain t ht)
      (hchecks Check.subtasks (by simp [Check.named]) t ht) hu
  · intro t ht
    exact Check.Dependencies.sound_of_passes rfl
      (hchecks Check.dependencies (by simp [Check.named]) t ht)
  · intro t ht
    exact Check.Category.exists_range_of_passes (hmain t ht)
      (hchecks Check.category (by simp [Check.named]) t ht)

namespace EachSound

variable (h : EachSound policy l) (hdocument : l.IsOfDocument)

include h hdocument

theorem readable : ∀ u ∈ l.allTasks, u.hasReadableId = true := by
  intro u hu
  obtain ⟨t, ht, hmem⟩ := TaskList.IsOfDocument.mem_allTasks_iff.1 hu
  rcases List.mem_cons.1 hmem with rfl | hsub
  · obtain ⟨n, hnumber, -⟩ := h.category u ht
    have hnone : TaskId.number? Task.unreadableId = none := by decide
    rw [Task.hasReadableId, bne_iff_ne]
    intro heq
    simp [heq, hnone] at hnumber
  · exact ((h.identity t ht u hmem).parent (hdocument.isSubtask t ht u hsub)).1

/-- The check for repetitions lets one id pass at one origin only. -/
theorem origin_eq {t u : Task} (ht : t ∈ l.allTasks) (hu : u ∈ l.allTasks) (hid : t.id = u.id) :
    t.origin = u.origin := by
  obtain ⟨t', ht', htmem⟩ := TaskList.IsOfDocument.mem_allTasks_iff.1 ht
  obtain ⟨u', hu', humem⟩ := TaskList.IsOfDocument.mem_allTasks_iff.1 hu
  exact (h.identity t' ht' t htmem).origin_eq (h.identity u' hu' u humem)
    (h.readable hdocument t ht) ht hid

theorem nodup_ids : l.ids.Nodup := by
  -- First the main tasks; then no two of them share a section, and all entries are told apart.
  have hmainIds : (l.tasks.map (·.id)).Nodup := by
    have hnodup := hdocument.distinctOrigins
    rw [List.Nodup, List.pairwise_map] at hnodup ⊢
    refine List.Pairwise.imp_of_mem ?_ hnodup
    intro t u ht hu hne hid
    exact hne (h.origin_eq hdocument (TaskList.IsOfDocument.mem_allTasks_of_mem ht)
      (TaskList.IsOfDocument.mem_allTasks_of_mem hu) hid)
  rw [TaskList.ids, List.Nodup, List.pairwise_map]
  refine List.Pairwise.imp_of_mem ?_ (hdocument.distinctEntries hmainIds)
  exact fun ht hu hne hid => hne (h.origin_eq hdocument ht hu hid)

theorem parents : ∀ u ∈ l.subtasks, ∃ t ∈ l.mainTasks, TaskId.parent? u.id = some t.id := by
  intro u hu
  obtain ⟨t, ht, hsub⟩ := List.mem_flatMap.1 hu
  obtain ⟨-, parent, hparent, hmain, heq⟩ :=
    (h.identity t ht u (List.mem_cons_of_mem _ hsub)).parent (hdocument.isSubtask t ht u hsub)
  exact ⟨parent, hdocument.mem_mainTasks_iff.2 (hdocument.mem_tasks_of_isMain hparent hmain), heq⟩

theorem acyclic : ∀ t ∈ l.tasks, ¬ TransGen (Check.Dependencies.DependsOn l) t.id t.id := by
  intro t ht
  have hspec := Check.Dependencies.cycleIssues_spec (h.nodup_ids hdocument)
    (TaskList.IsOfDocument.mem_allTasks_of_mem ht)
  rcases hspec with ⟨path, hissues, -⟩ | ⟨-, hnone⟩
  · simp [(h.dependencies t ht).noCycle] at hissues
  · exact hnone

end EachSound

/-- **A clean verdict is sound.** A document that the default checks pass without error is read as a
well-formed task list, whatever the policy. -/
theorem wellFormed_of_valid_verdict (hread : TaskList.ofText? policy text path = some l)
    (hverdict : verdictByPreset policy "default" l = .ok v) (hvalid : v.valid = true) :
    WellFormed policy l := by
  have hdocument := TaskList.IsOfDocument.of_ofText? hread
  obtain ⟨hreferences, hpasses⟩ := passes_of_valid_verdict hverdict hvalid
  have heach : EachSound policy l := eachSound_of_passes hdocument hpasses
  have hmain : ∀ t ∈ l.mainTasks, t ∈ l.tasks := fun t ht => hdocument.mem_mainTasks_iff.1 ht
  constructor
  case distinctIds => exact heach.nodup_ids hdocument
  case readableIds =>
    intro t ht
    simpa [Task.hasReadableId] using heach.readable hdocument t ht
  case progress => exact fun t ht => (heach.status t (hmain t ht)).progress
  case ratedTasks => exact fun t ht => (heach.status t (hmain t ht)).rated
  case ratedSubtasks =>
    intro u hu
    obtain ⟨t, ht, hsub⟩ := List.mem_flatMap.1 hu
    exact (heach.subtasks t ht u hsub).rated
  case codes =>
    intro t ht u hu
    have hmem : u ∈ l.allTasks :=
      List.mem_flatMap.2 ⟨t, hmain t ht, List.mem_cons_of_mem _ hu⟩
    exact (heach.subtasks t (hmain t ht) u hu).code (heach.readable hdocument u hmem)
  case parents => exact heach.parents hdocument
  case knownDependencies => exact fun t ht => (heach.dependencies t (hmain t ht)).known
  case acyclic => exact fun t ht => heach.acyclic hdocument t (hmain t ht)
  case definedReferences =>
    intro line hline name hname
    refine Usage.contains_of_valid_check hreferences ?_ hname
    rwa [TaskList.scannedLines, if_neg (by simpa using List.ne_nil_of_mem hline)]
  case categories => exact fun t ht => heach.category t (hmain t ht)
  case statuses =>
    intro u hu
    obtain ⟨t, ht, hmem⟩ := List.mem_flatMap.1 hu
    rcases List.mem_cons.1 hmem with rfl | hsub
    · exact (heach.status u ht).status
    · exact (heach.subtasks t ht u hsub).status
  case priorities => exact fun t ht => (heach.status t (hmain t ht)).priority

open Template in
theorem exists_wellFormed_testing : ∃ l v,
    TaskList.ofText? Policy.standard ("\n".intercalate ((forCategory "testing").lines
      (Policy.standard.sectionsOf "testing") "TST" 500 ++ [""])) none = some l ∧
    verdictByPreset Policy.standard "default" l = .ok v ∧ v.valid = true ∧
    WellFormed Policy.standard l := by
  have htemplate : (forCategory "testing").IsReadable (Policy.standard.sectionsOf "testing") :=
    isReadable_forCategory (by simp)
  have hcode : TaskId.IsCode "TST" := by decide +kernel
  have hcategories : ∀ k ≤ 2, (policyWith Policy.standard.categoryRanges).categoryOf?
      (500 + k : Nat) = some "testing" := by decide +kernel
  obtain ⟨l, hread, ⟨r⟩⟩ :=
    exists_reading htemplate hcode (by decide : 500 ≤ 9997) Policy.standard none
  obtain ⟨v, hv, hclean, -⟩ := r.exists_isClean_verdict htemplate hcode (by decide) hcategories
  exact ⟨l, v, hread, hv, hclean.valid, wellFormed_of_valid_verdict hread hv hclean.valid⟩

end Audit

end TaskAudit
