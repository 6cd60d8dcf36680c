import TaskAudit.Proofs.Label
import TaskAudit.Proofs.Row

/-!
# The wording of templates

The words that a template puts in are quiet, so that nothing is found in a document but what the
template marks. That holds of the six templates that are written out, and of the plain one for a
category whose name is made of letters and underscores.
-/

namespace TaskAudit

open Text

theorem Text.isQuietChar_of_isPlain {c : Char} (h : isPlain c = true) : isQuietChar c = true := by
  have := isPlain_iff.1 h
  exact isQuietChar_of_toNat (by omega)

namespace Template

/-- Words for a task that can stand in a row and in a heading. -/
structure IsTitle (s : String) : Prop extends Entry.IsCell s where
  quiet : IsQuiet s

theorem isTitle_ofList {cs : List Char} (hquiet : cs.all isQuietChar = true)
    (hcell : (!cs.contains '|' && trim cs == cs) = true) : IsTitle (String.ofList cs) := by
  simp only [Bool.and_eq_true, Bool.not_eq_true', beq_iff_eq] at hcell
  obtain ⟨hbar, htrim⟩ := hcell
  refine ⟨⟨?_, ?_⟩, isQuiet_ofList hquiet⟩
  · rw [String.toList_ofList]
    simpa using hbar
  · rw [String.toList_ofList, htrim]

/-- Wording, with the names of a category's sections, that can be read back. -/
structure IsReadable (template : Template) (sections : List String) : Prop where
  title : ∀ c ∈ template.title.toList, isPlain c = true
  active : IsTitle template.active
  planned : IsTitle template.planned
  done : IsTitle template.done
  names : ∀ name ∈ sections, IsCalmName name
  lines : ∀ entry ∈ template.sections, ∀ line ∈ entry.2, IsQuiet line

theorem isPlain_ofList {cs : List Char} (h : cs.all isPlain = true) :
    ∀ c ∈ (String.ofList cs).toList, isPlain c = true := by
  rw [String.toList_ofList]
  exact List.all_eq_true.1 h

theorem isReadable_standard : ∀ entry ∈ standard,
    entry.2.IsReadable (Policy.standard.sectionsOf entry.1) := by
  have hsections : standard.map (fun entry => Policy.standard.sectionsOf entry.1) =
      standard.map fun entry => entry.2.sections.map Prod.fst := by decide +kernel
  have hnames : ∀ entry ∈ standard, ∀ part ∈ entry.2.sections,
      IsCalmName part.1 ∧ ∀ line ∈ part.2, IsQuiet line := by
    simp only [standard, List.forall_mem_cons]
    repeat' apply And.intro
    all_goals first
      | exact IsCalmName.of_ofList rfl rfl
      | exact isQuiet_ofList rfl
      | exact fun _ h => absurd h List.not_mem_nil
  have htitles : ∀ entry ∈ standard, (∀ c ∈ entry.2.title.toList, isPlain c = true) ∧
      IsTitle entry.2.active ∧ IsTitle entry.2.planned ∧ IsTitle entry.2.done := by
    simp only [standard, List.forall_mem_cons]
    repeat' apply And.intro
    all_goals first
      | exact isPlain_ofList rfl
      | exact isTitle_ofList rfl rfl
      | exact fun _ h => absurd h List.not_mem_nil
  intro entry hentry
  obtain ⟨htitle, hactive, hplanned, hdone⟩ := htitles entry hentry
  refine ⟨htitle, hactive, hplanned, hdone, ?_, fun part hpart =>
    (hnames entry hentry part hpart).2⟩
  rw [List.map_inj_left.1 hsections entry hentry]
  intro name hname
  obtain ⟨part, hpart, rfl⟩ := List.mem_map.1 hname
  exact (hnames entry hentry part hpart).1

theorem isReadable_plain {category : String}
    (h : ∀ c ∈ category.toList, c.isAlpha = true ∨ c = '_') : (plain category).IsReadable [] where
  title := by
    rw [plain, titled, String.toList_ofList, String.toList_ofList]
    apply isPlain_of_mem_title
    intro c hc
    obtain ⟨d, hd, rfl⟩ := List.mem_map.1 hc
    rcases h d hd with halpha | rfl
    · split
      · rfl
      · simp [isPlain, halpha]
    · rfl
  active := isTitle_ofList rfl rfl
  planned := isTitle_ofList rfl rfl
  done := isTitle_ofList rfl rfl
  names := by simp
  lines := by simp [plain]

/-- **Every category has wording that can be read back.** -/
theorem isReadable_forCategory {category : String}
    (h : ∀ c ∈ category.toList, c.isAlpha = true ∨ c = '_') :
    (forCategory category).IsReadable (Policy.standard.sectionsOf category) := by
  rw [forCategory]
  cases hget : Catalog.get? category standard with
  | some template => exact isReadable_standard _ (Catalog.mem_of_get?_eq_some hget)
  | none =>
      have hnames : standard.map Prod.fst = Policy.standard.categorySections.names := by
        decide +kernel
      have hnone : Policy.standard.categorySections.find? category = none := by
        rw [Catalog.get?_eq_none_iff, hnames] at hget
        exact Catalog.get?_eq_none_iff.2 hget
      rw [Policy.sectionsOf, hnone]
      exact isReadable_plain h

end Template

end TaskAudit
