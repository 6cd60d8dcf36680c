import TaskAudit.Proofs.ErrorHandling
import TaskAudit.Proofs.Strictness

/-!
# More references

A document that defines further references, and leaves those it had as they are, has more lines in
which sections are found. A block adds to the evidence and takes none away, so a task that the
checks of sections, categories, subtasks and error handling find clean stays clean.
-/

namespace TaskAudit

open Document Content

/-- A catalog has every entry of another with the same value. -/
def Catalog.Extends {α : Type} (c' c : Catalog α) : Prop :=
  ∀ name value, c.find? name = some value → c'.find? name = some value

theorem Catalog.Extends.contains {α : Type} {c c' : Catalog α} (h : c'.Extends c) {name : String}
    (hname : c.contains name = true) : c'.contains name = true := by
  obtain ⟨value, hvalue⟩ := Option.isSome_iff_exists.1 hname
  rw [Catalog.contains, h name value hvalue, Option.isSome_some]

theorem Catalog.extends_insert {α : Type} {c : Catalog α} {name : String} (value : α)
    (hname : c.contains name = false) : (c.insert name value).Extends c := by
  intro other found hfound
  have hne : other ≠ name := by
    rintro rfl
    rw [Catalog.contains, hfound, Option.isSome_some] at hname
    exact Bool.noConfusion hname
  rw [Catalog.find?_insert, if_neg hne, hfound]

/-- An error that comes up under fewer conditions, with another text. -/
theorem NoErrors.ite_singleton_mono {p q : Prop} [Decidable p] [Decidable q] {i j : Issue}
    (hi : i.isWarning = false) (h : q → p) :
    NoErrors (if p then [i] else []) → NoErrors (if q then [j] else []) := by
  intro hclean
  rw [if_neg (mt h (not_of_ite_singleton hi hclean))]
  exact List.forall_mem_nil _

theorem Content.missingSections_subset {lines more names : List String} (hlines : lines ⊆ more) :
    missingSections more names ⊆ missingSections lines names := by
  intro name hname
  obtain ⟨hmem, hnot⟩ := List.mem_filter.1 hname
  refine List.mem_filter.2 ⟨hmem, ?_⟩
  rw [Bool.not_eq_true', ← Bool.not_eq_true] at hnot ⊢
  exact mt (hasSection_of_subset hlines) hnot

section Extends

variable {references more : References} (h : more.Extends references) {lines : List String}
  {t : Task}

include h

/-! ### More lines -/

theorem Catalog.Extends.block_subset (name : String) :
    (references.find? name).getD [] ⊆ (more.find? name).getD [] := by
  cases hfind : references.find? name with
  | none => exact List.nil_subset _
  | some block =>
      rw [h name block hfind]
      exact List.Subset.refl _

theorem Content.expanded_mono : expanded references lines ⊆ expanded more lines := by
  refine List.append_subset.2 ⟨List.subset_append_left _ _, fun line hline => ?_⟩
  obtain ⟨name, hname, hmem⟩ := List.mem_flatMap.1 hline
  exact List.mem_append_right _ (List.mem_flatMap.2 ⟨name, hname, h.block_subset name hmem⟩)

namespace Check

open NoErrors

theorem ErrorHandling.isDocumented_mono (hdocumented : isDocumented references lines = true) :
    isDocumented more lines = true := by
  rw [isDocumented, Bool.or_eq_true, List.any_eq_true] at hdocumented ⊢
  refine hdocumented.imp id ?_
  rintro ⟨name, hname, hdefined⟩
  exact ⟨name, hname, h.contains hdefined⟩

/-- The defined names of error handling stay defined, and so their blocks stay evidence. -/
theorem ErrorHandling.documentationIssues_extends (accept : Bool) :
    NoErrors (documentationIssues references accept t) →
      NoErrors (documentationIssues more accept t) := by
  unfold documentationIssues
  refine ite_mono (fun _ => ?_) fun _ => ?_
  · cases accept with
    | true => exact incomplete_mono (expanded_mono h)
    | false => exact id
  · generalize (if accept then referenceNames t.ownLines else []) = names
    have hdefined : names.filter references.contains ⊆ names.filter more.contains :=
      fun name hname => List.mem_filter.2 ((List.mem_filter.1 hname).imp_right h.contains)
    -- Without an error one of the names was defined, and it still is.
    intro hclean
    dsimp only at hclean ⊢
    by_cases hnone : (names.filter references.contains).isEmpty = true
    · rw [if_pos hnone] at hclean
      exact absurd hclean (not_singleton rfl)
    · rw [if_neg hnone] at hclean
      have hsome : ¬ (names.filter more.contains).isEmpty = true := by
        rw [List.isEmpty_iff] at hnone ⊢
        exact fun hnil => hnone (List.subset_nil.1 (hnil ▸ hdefined))
      rw [if_neg hsome]
      refine incomplete_mono (fun line hline => ?_) hclean
      obtain ⟨name, hname, hmem⟩ := List.mem_flatMap.1 hline
      exact List.mem_flatMap.2 ⟨name, hdefined hname, h.block_subset name hmem⟩

theorem ErrorHandling.implementationIssues_extends :
    NoErrors (implementationIssues references t) → NoErrors (implementationIssues more t) := by
  refine ite_nil_mono ?_
  simp only [Bool.and_eq_true, Bool.not_eq_true', ← Bool.not_eq_true]
  exact And.imp_right (mt (hasSection_of_subset (expanded_mono h)))

theorem Sections.categoryIssues_extends {policy : Policy} {category : String} :
    NoErrors (categoryIssues policy (expanded references lines) t category) →
      NoErrors (categoryIssues policy (expanded more lines) t category) :=
  missing_mono rfl (missingSections_mono (expanded_mono h) (List.Subset.refl _))

theorem Subtasks.missing_eq_nil_extends {describe : Bool}
    (hmissing : missing references describe t = []) : missing more describe t = [] := by
  rw [missing, List.append_eq_nil_iff] at hmissing ⊢
  refine ⟨missingSections_mono (expanded_mono h) (List.Subset.refl _) hmissing.1, ?_⟩
  have hdocumented : ErrorHandling.isDocumented references t.content = true := by
    simpa using hmissing.2
  rw [if_pos (ErrorHandling.isDocumented_mono h hdocumented)]

end Check

end Extends

/-! ### Single checks with more references -/

namespace Check

open NoErrors

/-- A check comes to a verdict in either scope, and has no error in the second if it has none in the
first. -/
def StaysClean (c : Check) (t : Task) (scope scope' : Scope) : Prop :=
  ∃ v w, c.run t scope = .ok v ∧ c.run t scope' = .ok w ∧ (v.errors = [] → w.errors = [])

theorem StaysClean.of_issues {c : Check} {t : Task} {scope scope' : Scope}
    {issues issues' : List Issue} (hrun : c.run t scope = .ok (.ofIssues issues))
    (hrun' : c.run t scope' = .ok (.ofIssues issues')) (h : NoErrors issues → NoErrors issues') :
    c.StaysClean t scope scope' := by
  refine ⟨_, _, hrun, hrun', fun hnone => ?_⟩
  have hclean : NoErrors issues :=
    (Verdict.valid_ofIssues_iff _).1 ((Verdict.isSorted_ofIssues issues).valid_iff.2 hnone)
  rw [← (Verdict.isSorted_ofIssues issues').valid_iff]
  exact (Verdict.valid_ofIssues_iff _).2 (h hclean)

section Single

variable {policy : Policy} {l l' : TaskList} {settings : Settings} {t : Task}
  (h : l'.references.Extends l.references)

include h

theorem Sections.issues_extends :
    NoErrors (issues t ⟨policy, l, settings⟩) → NoErrors (issues t ⟨policy, l', settings⟩) := by
  refine append_mono (append_mono (fun hclean => ?_) (ite_singleton_mono rfl ?_)) ?_
  · rw [NoErrors, List.forall_mem_map] at hclean ⊢
    exact fun name hname => hclean name (missingSections_subset (expanded_mono h) hname)
  · simp only [Bool.and_eq_true, Bool.not_eq_true', ← Bool.not_eq_true, List.isEmpty_iff]
    exact And.imp_right (mt (missingSections_mono (expanded_mono h) (List.Subset.refl _)))
  · cases t.category with
    | none => exact id
    | some category => exact ite_mono (fun _ => categoryIssues_extends h) fun _ => id

theorem Category.issues_extends :
    NoErrors (issues t ⟨policy, l, settings⟩) → NoErrors (issues t ⟨policy, l', settings⟩) := by
  unfold issues
  cases TaskId.number? t.id with
  | none => exact id
  | some number =>
      cases hcategory : policy.categoryOf? number with
      | none =>
          simp only [hcategory]
          exact id
      | some category =>
          simp only [hcategory]
          exact ite_mono (fun _ => Sections.categoryIssues_extends h) fun _ => id

theorem Subtasks.issues_extends :
    NoErrors (issues t ⟨policy, l, settings⟩) → NoErrors (issues t ⟨policy, l', settings⟩) := by
  refine flatMap_mono fun u _ => append_mono (append_mono id ?_) id
  exact ite_mono (fun _ => append_mono (missing_mono rfl (missing_eq_nil_extends h)) id) fun _ => id

theorem subtasks_staysClean :
    subtasks.StaysClean t ⟨policy, l, settings⟩ ⟨policy, l', settings⟩ := by
  by_cases hmain : t.isMain = true
  · exact .of_issues (congrArg Except.ok (if_pos hmain)) (congrArg Except.ok (if_pos hmain))
      (Subtasks.issues_extends h)
  · exact ⟨_, _, congrArg Except.ok (if_neg hmain), congrArg Except.ok (if_neg hmain), id⟩

theorem ErrorHandling.issues_extends :
    NoErrors (issues t ⟨policy, l, settings⟩) → NoErrors (issues t ⟨policy, l', settings⟩) :=
  append_mono (documentationIssues_extends h _) (implementationIssues_extends h)

theorem errorHandling_staysClean :
    errorHandling.StaysClean t ⟨policy, l, settings⟩ ⟨policy, l', settings⟩ := by
  by_cases hmarker : t.marker = some .checkbox
  · exact ⟨_, _, congrArg Except.ok (if_pos hmarker), congrArg Except.ok (if_pos hmarker), id⟩
  · exact .of_issues (congrArg Except.ok (if_neg hmarker)) (congrArg Except.ok (if_neg hmarker))
      (ErrorHandling.issues_extends h)

/-- **More references break no clean task.** With references that extend those of a list, under the
same policy and settings, the checks of sections, categories, subtasks and error handling come to a
verdict for every task, and to one without errors where they came to one without errors. -/
theorem staysClean_of_extends (policy : Policy) (settings : Settings) (t : Task) {c : Check}
    (hc : c ∈ [sections, category, subtasks, errorHandling]) :
    c.StaysClean t ⟨policy, l, settings⟩ ⟨policy, l', settings⟩ := by
  simp only [List.mem_cons, List.not_mem_nil, or_false] at hc
  rcases hc with rfl | rfl | rfl | rfl
  · exact .of_issues rfl rfl (Sections.issues_extends h)
  · exact .of_issues rfl rfl (Category.issues_extends h)
  · exact subtasks_staysClean h
  · exact errorHandling_staysClean h

end Single

/-- A subtask that documents its errors by one block and names another one as well. -/
def sharedPart : Task := ErrorHandling.numberedPart "AB0001-1"
  ["\x7b\x7berror-handling\x7d\x7d \x7b\x7berror-handling-later\x7d\x7d"]

def earlyBlocks : References :=
  .ofPairs [("error-handling", ["**Task-Specific Approach**", "**Error Reporting**"])]

/-- The blocks with one of the other name, which has none of the parts. -/
def laterBlocks : References := earlyBlocks.insert "error-handling-later" ["To be written"]

theorem staysClean_of_extends_laterBlocks :
    laterBlocks.Extends earlyBlocks ∧
    ∃ w, errorHandling.run sharedPart ⟨.standard, ⟨[], laterBlocks, none, 0, []⟩, []⟩ = .ok w ∧
      w.errors = [] := by
  have hextends : laterBlocks.Extends earlyBlocks := Catalog.extends_insert _ (by decide +kernel)
  have hclean : (errorHandling.run sharedPart ⟨.standard, ⟨[], earlyBlocks, none, 0, []⟩, []⟩).map
      (·.errors.isEmpty) = .ok true := by
    decide +kernel
  have hstays : errorHandling.StaysClean sharedPart
      ⟨.standard, ⟨[], earlyBlocks, none, 0, []⟩, []⟩
      ⟨.standard, ⟨[], laterBlocks, none, 0, []⟩, []⟩ :=
    staysClean_of_extends hextends .standard [] sharedPart (by simp)
  obtain ⟨v, w, hrun, hrun', hnone⟩ := hstays
  rw [hrun] at hclean
  exact ⟨hextends, w, hrun', hnone (List.isEmpty_iff.1 (Except.ok.inj hclean))⟩

end Check

end TaskAudit
