import TaskAudit.Proofs.Kinds
import TaskAudit.Proofs.Representation

/-!
# The sections of categories, asked for twice

Among all sections those of a category are asked for by the category that a task was given when it
was read, and once more by the number in its id. Whatever rows and headings a main task is made of,
it was given the category of its number, and both checks look in the same lines. So they report the
same sections.
-/

namespace TaskAudit

namespace Content

/-- A section starts on a line of a task's own, or on one of a defined block that they use. -/
def IsStated (references : References) (t : Task) (name : String) : Prop :=
  ∃ line, (afterName? name line).isSome = true ∧
    (line ∈ t.ownLines ∨ ∃ used ∈ Document.referencesIn t.ownLines, ∃ block,
      references.find? used = some block ∧ line ∈ block)

theorem hasSection_expanded_iff {references : References} {t : Task} {name : String} :
    hasSection (expanded references t.ownLines) name = true ↔ IsStated references t name := by
  have hmem : ∀ line, line ∈ expanded references t.ownLines ↔
      line ∈ t.ownLines ∨ ∃ used ∈ Document.referencesIn t.ownLines, ∃ block,
        references.find? used = some block ∧ line ∈ block := by
    intro line
    rw [expanded, List.mem_append, List.mem_flatMap]
    refine or_congr_right (exists_congr fun used => and_congr_right fun _ => ?_)
    cases references.find? used <;> simp
  rw [hasSection, List.any_eq_true]
  exact exists_congr fun line => by rw [hmem, and_comm]

instance (references : References) (t : Task) (name : String) :
    Decidable (IsStated references t name) :=
  decidable_of_iff _ hasSection_expanded_iff

/-- The sections of some names that a task does not state. -/
def unstated (references : References) (t : Task) (names : List String) : List String :=
  names.filter fun name => ¬ IsStated references t name

theorem missingSections_expanded (references : References) (t : Task) (names : List String) :
    missingSections (expanded references t.ownLines) names = unstated references t names := by
  refine List.filter_congr fun name _ => ?_
  rw [Bool.eq_iff_iff, Bool.not_eq_true', decide_eq_true_iff, ← hasSection_expanded_iff,
    Bool.not_eq_true]

end Content

namespace Verdict

/-- The errors about the sections of a category. -/
def aboutCategory (v : Verdict) : List Issue :=
  v.errors.filter (·.kind = .missingCategorySections)

theorem aboutCategory_ofIssues (issues : List Issue) : (ofIssues issues).aboutCategory =
    (issues.filter (·.kind = .missingCategorySections)).filter (!·.isWarning) := by
  rw [aboutCategory, ofIssues, ofLists, List.filter_comm]

end Verdict

namespace Check

open Content

section Category

variable {t : Task} {scope : Scope} {policy : Policy} {lines : List String} {category : String}

theorem Sections.isWarning_of_mem_categoryIssues {i : Issue}
    (h : i ∈ categoryIssues policy lines t category) : i.isWarning = false := by
  rw [eq_of_mem_ite_nil h]
  rfl

theorem Sections.aboutCategory_ofIssues_categoryIssues :
    (Verdict.ofIssues (categoryIssues policy lines t category)).aboutCategory =
      categoryIssues policy lines t category := by
  rw [Verdict.aboutCategory_ofIssues, List.filter_filter, List.filter_eq_self]
  intro i hi
  simp [kind_of_mem_categoryIssues hi, isWarning_of_mem_categoryIssues hi]

/-- Of the issues about sections the last are those about the sections of the task's category. -/
theorem Sections.aboutCategory_ofIssues (hcategory : t.category = some category)
    (hmain : t.isMain = true) (hnamed : category ≠ "")
    (henforce : scope.policy.enforceCategorySections = true) :
    (Verdict.ofIssues (issues t scope)).aboutCategory =
      categoryIssues scope.policy (expanded scope.references t.ownLines) t category := by
  have hrequired : ∀ names : List String, (names.map (Issue.missingSection t.id)).filter
      (·.kind = .missingCategorySections) = [] := by
    intro names
    rw [List.filter_eq_nil_iff]
    intro i hi
    obtain ⟨name, -, rfl⟩ := List.mem_map.1 hi
    exact of_decide_eq_false rfl
  have hcompletion : ∀ (p : Prop) [Decidable p] (missing : List String),
      (if p then [Issue.missingCompletionSections t.id missing] else []).filter
        (·.kind = .missingCategorySections) = [] := by
    intro p _ missing
    rw [List.filter_eq_nil_iff]
    intro i hi
    rw [eq_of_mem_ite_singleton hi]
    exact of_decide_eq_false rfl
  have hasked : (t.isMain && !category.isEmpty && scope.policy.enforceCategorySections) = true := by
    simp [hmain, henforce, hnamed]
  rw [Verdict.aboutCategory_ofIssues, issues, hcategory]
  simp only [hasked, if_true, List.filter_append, hrequired, hcompletion, List.nil_append]
  rw [← Verdict.aboutCategory_ofIssues, aboutCategory_ofIssues_categoryIssues]

/-- A main task whose number is in the range of a category is asked for the sections of that. -/
theorem Category.issues_eq {n : Nat} (hnumber : TaskId.number? t.id = some n)
    (hcategory : scope.policy.categoryOf? n = some category) (hmain : t.isMain = true)
    (henforce : scope.policy.enforceCategorySections = true) :
    issues t scope = Sections.categoryIssues scope.policy (expanded scope.references t.ownLines) t
      category := by
  rw [issues, hnumber]
  simp only [hcategory, henforce, hmain, Bool.true_or, Bool.and_self, if_true]

/-- The sections of a category that a task does not state are reported together. -/
theorem Sections.categoryIssues_eq (policy : Policy) (references : References) (t : Task)
    (category : String) :
    categoryIssues policy (expanded references t.ownLines) t category =
      if unstated references t (policy.sectionsOf category) = [] then []
      else [.missingCategorySections t.id category
        (unstated references t (policy.sectionsOf category))] := by
  simp only [categoryIssues, missingSections_expanded, List.isEmpty_iff]

end Category

/-- **The sections of a category are asked for alike.** A main task of a document, with a number in
the range of a category, has one error with all sections of the category that it does not state, or
none if it states them all; and it has this error from the check of sections as well as from the
check of categories, which has no other error for it. -/
theorem aboutCategory_sections_eq_category {policy : Policy} {text : String} {path : Option String}
    {l : TaskList} (hread : TaskList.ofText? policy text path = some l)
    (henforce : policy.enforceCategorySections = true)
    (hnamed : ∀ name ∈ policy.categoryRanges.names, name ≠ "") {t : Task} (ht : t ∈ l.mainTasks)
    {n : Nat} (hnumber : TaskId.number? t.id = some n)
    (hrange : ∃ entry ∈ policy.categoryRanges.entries, entry.2.contains n = true)
    (settings settings' : Settings) :
    ∃ category v w, policy.categoryOf? n = some category ∧
      Check.sections.run t ⟨policy, l, settings⟩ = .ok v ∧
      Check.category.run t ⟨policy, l, settings'⟩ = .ok w ∧
      v.aboutCategory = (if unstated l.references t (policy.sectionsOf category) = [] then []
        else [.missingCategorySections t.id category
          (unstated l.references t (policy.sectionsOf category))]) ∧
      w.aboutCategory = v.aboutCategory ∧ w.errors = w.aboutCategory ∧ w.warnings = [] := by
  obtain ⟨entry, hentry, hcontains⟩ := hrange
  obtain ⟨first, hfirst⟩ : ∃ first, policy.categoryRanges.entries.find? (·.2.contains n) =
      some first :=
    Option.isSome_iff_exists.1 (List.find?_isSome.2 ⟨entry, hentry, hcontains⟩)
  have hcategory : policy.categoryOf? n = some first.1 := by rw [Policy.categoryOf?, hfirst]; rfl
  have hname : first.1 ≠ "" :=
    hnamed _ (List.mem_map_of_mem (List.mem_of_find?_eq_some hfirst))
  obtain ⟨hmem, hmain⟩ := List.mem_filter.1 ht
  -- The category is that of the id wherever the task was read.
  have hgiven : t.category = some first.1 := by
    rw [((TaskList.isRead_of_text hread).main t hmem).category, TaskId.category?, hnumber]
    exact hcategory
  have hsections : (Verdict.ofIssues (Sections.issues t ⟨policy, l, settings⟩)).aboutCategory =
      Sections.categoryIssues policy (expanded l.references t.ownLines) t first.1 :=
    Sections.aboutCategory_ofIssues hgiven hmain hname henforce
  have hcategories : Category.issues t ⟨policy, l, settings'⟩ =
      Sections.categoryIssues policy (expanded l.references t.ownLines) t first.1 :=
    Category.issues_eq hnumber hcategory hmain henforce
  have hissues := Sections.categoryIssues_eq policy l.references t first.1
  refine ⟨first.1, _, _, hcategory, rfl, rfl, hsections.trans hissues, ?_, ?_, ?_⟩
  · rw [hcategories, Sections.aboutCategory_ofIssues_categoryIssues, hsections]
  · rw [hcategories, Sections.aboutCategory_ofIssues_categoryIssues]
    exact List.filter_eq_self.2 fun i hi => by
      simp [Sections.isWarning_of_mem_categoryIssues hi]
  · rw [hcategories]
    exact List.filter_eq_nil_iff.2 fun i hi => by
      simp [Sections.isWarning_of_mem_categoryIssues hi]

/-- The lines of a document with a row, a section of its id, and a block that the section uses. -/
def sharedPlan : List String :=
  ["## Current Tasks", "| ID | Work |", "|----|------|", "| AB0500 | Try it |", "",
    "### AB0500: Try it", "\x7b\x7bplan\x7d\x7d", "", "## #\x7b\x7bplan\x7d\x7d",
    "**Test Strategy**: all of it"]

theorem aboutCategory_sections_eq_category_sharedPlan : ∃ l t v w,
    TaskList.ofText? .standard ("\n".intercalate (sharedPlan ++ [""])) none = some l ∧
    Policy.standard.enforceCategorySections = true ∧
    (∀ name ∈ Policy.standard.categoryRanges.names, name ≠ "") ∧
    t ∈ l.mainTasks ∧ TaskId.number? t.id = some 500 ∧
    (∃ entry ∈ Policy.standard.categoryRanges.entries, entry.2.contains (500 : Nat) = true) ∧
    Check.sections.run t ⟨.standard, l, []⟩ = .ok v ∧
    Check.category.run t ⟨.standard, l, []⟩ = .ok w ∧
    v.aboutCategory = [.missingCategorySections t.id "testing" ["Coverage Requirements"]] ∧
    w.aboutCategory = v.aboutCategory := by
  have hbreaks : ∀ line ∈ sharedPlan, Text.IsUnbroken line := by decide +kernel
  have hfirst : ((Document.tasks .standard sharedPlan).head?).map (fun t => (t.isMain,
      TaskId.number? t.id, unstated (Document.referenceBlocks sharedPlan) t
        (Policy.standard.sectionsOf "testing"))) =
      some (true, some 500, ["Coverage Requirements"]) := by decide +kernel
  obtain ⟨t, ht, hfacts⟩ := Option.map_eq_some_iff.1 hfirst
  simp only [Prod.mk.injEq] at hfacts
  obtain ⟨hmain, hnumber, hunstated⟩ := hfacts
  have hmem := List.mem_of_head? ht
  have hread := Document.ofText?_intercalate none hbreaks (List.ne_nil_of_mem hmem)
  have htask : t ∈ (Document.listOfLines .standard sharedPlan none).mainTasks :=
    List.mem_filter.2 ⟨hmem, hmain⟩
  have hnamed : ∀ name ∈ Policy.standard.categoryRanges.names, name ≠ "" := by decide +kernel
  have hrange : ∃ entry ∈ Policy.standard.categoryRanges.entries,
      entry.2.contains (500 : Nat) = true := by decide +kernel
  have hcategory : Policy.standard.categoryOf? (500 : Nat) = some "testing" := by decide +kernel
  obtain ⟨category, v, w, hfound, hv, hw, habout, hsame, -, -⟩ :=
    aboutCategory_sections_eq_category hread rfl hnamed htask hnumber hrange [] []
  obtain rfl : "testing" = category := Option.some.inj (hcategory.symm.trans hfound)
  refine ⟨_, t, v, w, hread, rfl, hnamed, htask, hnumber, hrange, hv, hw, ?_, hsame⟩
  have hreferences : (Document.listOfLines .standard sharedPlan none).references =
      Document.referenceBlocks sharedPlan := rfl
  rw [habout, hreferences, hunstated, if_neg (List.cons_ne_nil _ _)]

end Check

end TaskAudit
