import Mathlib.Data.List.Sort
import Mathlib.Data.String.Basic
import TaskAudit.Proofs.UndefinedName

/-!
# Counts of uses

The uses of names are counted on all lines but the headings that define names. Such a heading reads
as one use of the name that it defines, so without it no use of an undefined name is lost, and the
names that are counted without a definition are those that errors are about.
-/

namespace TaskAudit

open Text

/-! ### Tallies -/

section Tally

open Document

theorem tally_concat (names : List String) (name : String) :
    tally (names ++ [name]) =
      (tally names).insert name (((tally names).find? name).getD 0 + 1) := by
  rw [tally, List.foldl_concat]
  rfl

theorem names_tally (names : List String) : (tally names).names = firstSeen names := by
  induction names using List.reverseRecOn with
  | nil => rfl
  | append_singleton names name ih =>
      simp only [tally_concat, Catalog.names_insert, firstSeen_concat, ih, mem_firstSeen]

theorem find?_tally (names : List String) (name : String) :
    ((tally names).find? name).getD 0 = names.count name := by
  induction names using List.reverseRecOn with
  | nil => rfl
  | append_singleton names last ih =>
      rw [tally_concat, Catalog.find?_insert, List.count_append]
      by_cases h : name = last
      · subst h
        rw [if_pos rfl, Option.getD_some, ih, List.count_singleton_self]
      · rw [if_neg h, ih, List.count_singleton, if_neg (by simpa using Ne.symm h), Nat.add_zero]

theorem entries_tally (names : List String) :
    (tally names).entries = (firstSeen names).map fun name => (name, names.count name) := by
  rw [Catalog.entries_eq_map _ 0, names_tally]
  simp only [find?_tally]

theorem sum_map_count_cons (names found : List String) (name : String) :
    (names.map (name :: found).count).sum = (names.map found.count).sum + names.count name := by
  induction names with
  | nil => rfl
  | cons first rest ih =>
      rw [List.map_cons, List.sum_cons, ih, List.map_cons, List.sum_cons, List.count_cons,
        List.count_cons, BEq.comm]
      omega

/-- The counts of distinct names add up to the occurrences of any of them. -/
theorem sum_map_count {names : List String} (hnodup : names.Nodup) (found : List String) :
    (names.map found.count).sum = (found.filter (· ∈ names)).length := by
  induction found with
  | nil => simp
  | cons name found ih =>
      rw [sum_map_count_cons, ih, hnodup.count, List.filter_cons]
      by_cases h : name ∈ names <;> simp [h]

end Tally

/-! ### Lines that define no name -/

namespace Document

theorem definedName?_eq_some_iff {line name : String} :
    definedName? line = some name ↔ Defines line name := by
  refine ⟨fun h => ?_, definedName?_of_defines⟩
  simp only [definedName?, Option.bind_eq_bind, Option.bind_eq_some_iff, after?_eq_some_iff] at h
  obtain ⟨rest, hline, ⟨used, tail, hlt⟩, husage, hname⟩ := h
  obtain ⟨hnot, hused⟩ := eq_of_usage?_eq_some husage
  rw [Option.ite_none_left_eq_some] at hname
  obtain ⟨hfilled, hname⟩ := hname
  obtain rfl := Option.some.inj hname
  rw [Bool.or_eq_true, not_or, Bool.not_eq_true', Bool.not_eq_false] at hfilled
  obtain ⟨mark, hmark, hrest⟩ : ∃ mark, (mark = [] ∨ mark = ['#']) ∧
      rest = mark ++ (after? ['#'] rest).getD rest := by
    cases hafter : after? ['#'] rest with
    | none => exact ⟨[], Or.inl rfl, rfl⟩
    | some more => exact ⟨['#'], Or.inr rfl, after?_eq_some_iff.1 hafter⟩
  refine ⟨mark, (after? ['#'] rest).getD rest, tail, hmark, ⟨?_, ?_, ?_⟩,
    List.all_eq_true.1 hfilled.2, ?_⟩
  · simpa using hfilled.1
  · simpa using hnot
  · rw [String.toList_ofList]
    exact hused
  · rw [hline, List.append_assoc, ← hrest]

/-- A line defines no name. -/
def IsPlain (line : String) : Prop := ∀ name, ¬ Defines line name

theorem isNone_definedName?_iff {line : String} :
    (definedName? line).isNone = true ↔ IsPlain line := by
  rw [Option.isNone_iff_eq_none, Option.eq_none_iff_forall_ne_some]
  exact forall_congr' fun name => not_congr definedName?_eq_some_iff

instance (line : String) : Decidable (IsPlain line) := decidable_of_iff _ isNone_definedName?_iff

/-- The names that are used on plain lines, in order, as often as they are used. -/
def plainUses (lines : List String) : List String := (lines.filter (IsPlain ·)).flatMap references

/-- A line that is not plain uses no undefined name. -/
theorem filter_references_of_not_isPlain {lines : List String} {line : String}
    (hline : line ∈ lines) (h : ¬ IsPlain line) :
    (references line).filter (· ∉ (referenceBlocks lines).names) = [] := by
  rw [IsPlain, not_forall_not] at h
  obtain ⟨name, hdefines⟩ := h
  have hmem := mem_names_referenceBlocks hline hdefines
  rw [references_of_defines hdefines]
  simp [hmem]

/-- All uses of undefined names are on plain lines. -/
theorem filter_plainUses (lines : List String) :
    (plainUses lines).filter (· ∉ (referenceBlocks lines).names) =
      (lines.flatMap references).filter (· ∉ (referenceBlocks lines).names) := by
  have hsubset : ∀ some, some ⊆ lines →
      (plainUses some).filter (· ∉ (referenceBlocks lines).names) =
        (some.flatMap references).filter (· ∉ (referenceBlocks lines).names) := by
    intro some hsome
    induction some with
    | nil => rfl
    | cons line rest ih =>
        obtain ⟨hline, hrest⟩ := List.cons_subset.1 hsome
        rw [List.flatMap_cons, List.filter_append, ← ih hrest]
        by_cases h : IsPlain line
        · rw [plainUses, List.filter_cons_of_pos (by simpa using h), List.flatMap_cons,
            List.filter_append]
          rfl
        · rw [plainUses, List.filter_cons_of_neg (by simpa using h),
            filter_references_of_not_isPlain hline h, List.nil_append]
          rfl
  exact hsubset lines (List.Subset.refl _)

end Document

/-! ### The greatest count -/

namespace Usage

open Document

theorem countedNames_eq (lines : List String) : countedNames lines = plainUses lines := by
  rw [countedNames, plainUses]
  congr 1
  refine List.filter_congr fun line _ => ?_
  rw [Bool.eq_iff_iff, isNone_definedName?_iff, decide_eq_true_iff]

theorem greatest_eq_none_iff {entries : List (String × Nat)} :
    greatest entries = none ↔ entries = [] := by
  cases entries with
  | nil => simp [greatest]
  | cons entry rest =>
      simp only [greatest, List.cons_ne_nil, iff_false]
      split <;> [split; skip] <;> simp

/-- The greatest entry is the first of those that no other exceeds. -/
theorem exists_split_of_greatest {entries : List (String × Nat)} {best : String × Nat}
    (h : greatest entries = some best) :
    ∃ before after, entries = before ++ best :: after ∧
      (∀ entry ∈ before, entry.2 < best.2) ∧ ∀ entry ∈ after, entry.2 ≤ best.2 := by
  induction entries generalizing best with
  | nil => simp [greatest] at h
  | cons entry rest ih =>
      rw [greatest] at h
      cases hrest : greatest rest with
      | none =>
          rw [hrest] at h
          obtain rfl := Option.some.inj h
          exact ⟨[], rest, rfl, by simp, by simp [greatest_eq_none_iff.1 hrest]⟩
      | some later =>
          obtain ⟨before, after, rfl, hbefore, hafter⟩ := ih hrest
          rw [hrest] at h
          dsimp only at h
          split at h
          · next hlt =>
            obtain rfl := Option.some.inj h
            exact ⟨entry :: before, after, rfl, List.forall_mem_cons.2 ⟨hlt, hbefore⟩, hafter⟩
          · next hle =>
            obtain rfl := Option.some.inj h
            refine ⟨[], before ++ later :: after, rfl, by simp, fun other hother => ?_⟩
            have hlater : other.2 ≤ later.2 := by
              simp only [List.mem_append, List.mem_cons] at hother
              rcases hother with hmem | rfl | hmem
              · exact (hbefore other hmem).le
              · exact le_rfl
              · exact hafter other hmem
            omega

/-- A name is counted as often as no name is more often, and before all others counted as often. -/
structure IsMostUsed (names : List String) (name : String) (count : Nat) : Prop where
  count_eq : count = names.count name
  pos : 0 < count
  le : ∀ other, names.count other ≤ count
  first : ∀ other, names.count other = count → names.idxOf name ≤ names.idxOf other

theorem isMostUsed_of_greatest {names : List String} {name : String} {count : Nat}
    (h : greatest (tally names).entries = some (name, count)) : IsMostUsed names name count := by
  rw [entries_tally] at h
  obtain ⟨before, after, hsplit, hbefore, hafter⟩ := exists_split_of_greatest h
  obtain ⟨earlier, rest, hseen, rfl, hrest⟩ := List.map_eq_append_iff.1 hsplit
  obtain ⟨first, later, rfl, hfirst, rfl⟩ := List.map_eq_cons_iff.1 hrest
  obtain ⟨rfl, rfl⟩ := Prod.mk.inj hfirst
  simp only [List.forall_mem_map] at hbefore hafter
  have hcases : ∀ other ∈ names, other ∈ earlier ∨ other = first ∨ other ∈ later := by
    intro other hother
    rw [← mem_firstSeen, hseen] at hother
    simpa using hother
  have hfirst : first ∈ names := by
    rw [← mem_firstSeen, hseen]
    simp
  have hordered := pairwise_idxOf_firstSeen names
  rw [hseen, List.pairwise_append, List.pairwise_cons] at hordered
  refine ⟨rfl, List.count_pos_iff.2 hfirst, fun other => ?_, fun other hcount => ?_⟩
  · by_cases hother : other ∈ names
    · rcases hcases other hother with hmem | rfl | hmem
      · exact (hbefore other hmem).le
      · exact le_rfl
      · exact hafter other hmem
    · rw [List.count_eq_zero.2 hother]
      exact Nat.zero_le _
  · have hother : other ∈ names := by
      rw [← List.count_pos_iff, hcount]
      exact List.count_pos_iff.2 hfirst
    rcases hcases other hother with hmem | rfl | hmem
    · exact absurd hcount (hbefore other hmem).ne
    · exact le_rfl
    · exact (hordered.2.1.1 other hmem).le

/-! ### Alphabetical order -/

theorem mem_alphabetical {name : String} {names : List String} :
    name ∈ alphabetical names ↔ name ∈ names :=
  (List.mergeSort_perm _ _).mem_iff

theorem pairwise_alphabetical {names : List String} (hnodup : names.Nodup) :
    (alphabetical names).Pairwise (· < ·) := by
  have hle : (alphabetical names).Pairwise (· ≤ ·) := List.pairwise_mergeSort' (· ≤ ·) names
  have hne : (alphabetical names).Nodup := (List.mergeSort_perm _ _).nodup_iff.2 hnodup
  exact (hle.and hne).imp fun h => lt_of_le_of_ne h.1 h.2

/-! ### The document's counts -/

/-- How often names are used in the lines of a task list, and which of them are not defined. -/
structure Stats.Agrees (s : Stats) (l : TaskList) : Prop where
  uses : s.uses = (plainUses l.lines).length
  counts : s.counts.entries =
    l.references.names.map fun name => (name, (plainUses l.lines).count name)
  /-- Every use is one of a name that is counted or of one that is not defined. -/
  conserved : s.uses = (s.counts.entries.map Prod.snd).sum +
    ((l.lines.flatMap Document.references).filter (· ∉ l.references.names)).length
  unused_sorted : s.unused.Pairwise (· < ·)
  mem_unused : ∀ name, name ∈ s.unused ↔ (name, 0) ∈ s.counts.entries
  undefined_sorted : s.undefined.Pairwise (· < ·)
  mem_undefined : ∀ name, name ∈ s.undefined ↔
    ∃ i ∈ (checkList l none).errors, ("reference_name", Value.text name) ∈ i.details
  mostUsed_none : s.mostUsed = none ↔ s.uses = 0
  mostUsed_some : ∀ name count, s.mostUsed = some (name, count) →
    IsMostUsed (plainUses l.lines) name count

section Document

variable {policy : Policy} {text : String} {path : Option String} {l : TaskList}

theorem exists_error_iff (references : References) {lines : List String} {name : String} :
    (∃ i ∈ (check references lines).errors, ("reference_name", Value.text name) ∈ i.details) ↔
      (∃ number, IsUsedOn lines name number) ∧ name ∉ references.names := by
  constructor
  · rintro ⟨i, hi, hname⟩
    obtain ⟨other, hundefined, hreports⟩ := exists_reports_of_mem_errors references lines hi
    obtain rfl := hreports.name_eq hname
    obtain ⟨first, more, -, -, -, hmem⟩ := hreports.numbers
    exact ⟨⟨first, (hmem first).1 (.head _)⟩, hundefined⟩
  · rintro ⟨hused, hundefined⟩
    obtain ⟨-, ⟨before, i, after, herrors, -, hdetail, -⟩, -⟩ :=
      exists_reportsOnce references hused hundefined
    exact ⟨i, by simp [herrors], hdetail⟩

theorem nodup_counted (l : TaskList) : ((l.references.entries.map fun entry =>
    (entry.1, ((tally (countedNames l.scannedLines)).find? entry.1).getD 0)).map
      Prod.fst).Nodup := by
  rw [List.map_map]
  exact l.references.nodup

theorem entries_counts (l : TaskList) :
    (stats l).counts.entries = l.references.names.map fun name =>
      (name, (countedNames l.scannedLines).count name) := by
  rw [stats]
  dsimp only
  rw [Catalog.entries_ofPairs (nodup_counted l), Catalog.names, List.map_map]
  simp only [find?_tally]
  rfl

theorem uses_stats (l : TaskList) : (stats l).uses = (countedNames l.scannedLines).length := by
  rw [← sum_tally, List.sum_eq_foldl, List.foldl_map]
  rfl

theorem unused_stats (l : TaskList) : (stats l).unused =
    alphabetical (((stats l).counts.entries.filter (·.2 = 0)).map Prod.fst) := by
  rw [stats]
  dsimp only
  rw [Catalog.entries_ofPairs (nodup_counted l)]

theorem mem_unused_iff (l : TaskList) {name : String} :
    name ∈ (stats l).unused ↔ (name, 0) ∈ (stats l).counts.entries := by
  rw [unused_stats, mem_alphabetical, List.mem_map]
  constructor
  · rintro ⟨⟨_, count⟩, hentry, rfl⟩
    obtain ⟨hmem, hzero⟩ := List.mem_filter.1 hentry
    rwa [← of_decide_eq_true hzero]
  · exact fun hmem => ⟨(name, 0), List.mem_filter.2 ⟨hmem, rfl⟩, rfl⟩

theorem undefined_stats (l : TaskList) : (stats l).undefined =
    alphabetical ((firstSeen (countedNames l.scannedLines)).filter
      (!l.references.contains ·)) := by
  rw [← names_tally]
  rfl

theorem firstSeen_eq_nil_iff {names : List String} : firstSeen names = [] ↔ names = [] := by
  simp only [List.eq_nil_iff_forall_not_mem, mem_firstSeen]

theorem mostUsed_stats_eq_none_iff (l : TaskList) :
    (stats l).mostUsed = none ↔ (stats l).uses = 0 := by
  have hmost : (stats l).mostUsed = greatest (tally (countedNames l.scannedLines)).entries := rfl
  rw [hmost, greatest_eq_none_iff, entries_tally, List.map_eq_nil_iff, firstSeen_eq_nil_iff,
    uses_stats, List.length_eq_zero_iff]

/-- **Counts are conserved and agree with the errors.** Counted are the uses on plain lines; they
are those of the defined names, counted one by one, and those of undefined names, wherever these
are used. A name is without use if its count is zero, and undefined if there is an error about it.
The name that is used most is the first of those with the greatest count. -/
theorem agrees_stats (hread : TaskList.ofText? policy text path = some l) :
    (stats l).Agrees l := by
  have hcounted : countedNames l.scannedLines = plainUses l.lines := by
    rw [scannedLines_eq_lines hread, countedNames_eq]
  have huses := uses_stats l
  have hcounts := entries_counts l
  rw [hcounted] at huses hcounts
  have hundefined : (plainUses l.lines).filter (· ∉ l.references.names) =
      (l.lines.flatMap Document.references).filter (· ∉ l.references.names) := by
    rw [references_eq_referenceBlocks hread, filter_plainUses]
  refine ⟨huses, hcounts, ?_, ?_, fun _ => mem_unused_iff l, ?_, fun name => ?_,
    mostUsed_stats_eq_none_iff l, fun name count hmost => ?_⟩
  · have hnodup : l.references.names.Nodup := l.references.nodup
    have hsum : ((stats l).counts.entries.map Prod.snd).sum =
        ((plainUses l.lines).filter (· ∈ l.references.names)).length := by
      rw [hcounts, List.map_map, ← sum_map_count hnodup]
      rfl
    rw [huses, hsum, ← hundefined,
      List.length_eq_length_filter_add fun name => decide (name ∈ l.references.names)]
    simp only [decide_not]
  · rw [unused_stats]
    exact pairwise_alphabetical
      ((List.filter_sublist.map Prod.fst).nodup (stats l).counts.nodup)
  · rw [undefined_stats]
    exact pairwise_alphabetical ((nodup_firstSeen _).filter _)
  · have hmem : name ∈ (plainUses l.lines).filter (· ∉ l.references.names) ↔
        (∃ number, IsUsedOn l.lines name number) ∧ name ∉ l.references.names := by
      rw [hundefined, List.mem_filter, exists_isUsedOn_iff, decide_eq_true_iff]
    have hcontains : (!l.references.contains name) = decide (name ∉ l.references.names) := by
      rw [Bool.eq_iff_iff, decide_eq_true_iff, ← Catalog.contains_iff_mem, Bool.not_eq_true',
        Bool.not_eq_true]
    rw [checkList_eq_check hread, exists_error_iff, ← hmem, undefined_stats, mem_alphabetical,
      hcounted, List.mem_filter, mem_firstSeen, List.mem_filter, hcontains]
  · rw [← hcounted]
    exact isMostUsed_of_greatest hmost

end Document

/-- The lines of a document with a name that it defines and does not use, and two that it uses
equally often, one of them without a definition. -/
def countedPlan : List String :=
  ["### AB0001: Plan", "\x7b\x7bopen\x7d\x7d \x7b\x7bknown\x7d\x7d \x7b\x7bopen\x7d\x7d",
    "\x7b\x7bknown\x7d\x7d", "## #\x7b\x7bknown\x7d\x7d", "## \x7b\x7bspare\x7d\x7d"]

theorem agrees_stats_countedPlan : ∃ l,
    TaskList.ofText? .standard ("\n".intercalate (countedPlan ++ [""])) none = some l ∧
    (stats l).uses = 4 ∧ (stats l).unused = ["spare"] ∧ (stats l).undefined = ["open"] ∧
    (stats l).mostUsed = some ("open", 2) ∧ (stats l).Agrees l := by
  have hbreaks : ∀ line ∈ countedPlan, Text.IsUnbroken line := by decide +kernel
  have hsome : tasks .standard countedPlan ≠ [] := by
    rw [ne_eq, ← List.isEmpty_iff]
    decide +kernel
  have hread := ofText?_intercalate none hbreaks hsome
  refine ⟨_, hread, ?_, ?_, ?_, ?_, agrees_stats hread⟩
  all_goals decide +kernel

end Usage

end TaskAudit
