import Mathlib.Data.List.Forall2
import Mathlib.Data.List.Induction
import Mathlib.Data.List.Nodup
import Mathlib.Data.Nat.Init
import TaskAudit.Policy.Standard
import TaskAudit.Proofs.Provenance
import TaskAudit.Proofs.Quiet
import TaskAudit.Usage

/-!
# References without a definition

The names that a line uses are read from the left, and the braces of one are gone when the next is
looked for. Every name that is used and not defined gives one error, which tells all lines of its
uses; the errors come in the order of first uses. The heading that defines a name is read as a use
of that name and of no other, and a document that has the heading has the definition.
-/

namespace TaskAudit

open Text

theorem Catalog.contains_iff_mem {α : Type} {c : Catalog α} {name : String} :
    c.contains name = true ↔ name ∈ c.names := by
  rw [contains, find?, Option.isSome_iff_ne_none, Ne, get?_eq_none_iff, Classical.not_not, names]

/-! ### Names in braces -/

namespace Document

/-- A text starts with a name between double braces, and a rest follows. -/
def StartsWithUse (name rest cs : List Char) : Prop :=
  name ≠ [] ∧ '}' ∉ name ∧ cs = '{' :: '{' :: (name ++ '}' :: '}' :: rest)

/-- The names between double braces in a text, taken from the left wherever one starts. -/
inductive Uses : List Char → List (List Char) → Prop where
  | nil : Uses [] []
  | use {name rest cs : List Char} {names : List (List Char)} :
    StartsWithUse name rest cs → Uses rest names → Uses cs (name :: names)
  | skip {c : Char} {rest : List Char} {names : List (List Char)} :
    (∀ name tail, ¬ StartsWithUse name tail (c :: rest)) → Uses rest names →
      Uses (c :: rest) names

/-- The names of a kind between double braces in a text, taken from the left wherever one starts. -/
inductive UsesOf (kind : List Char → Prop) : List Char → List (List Char) → Prop where
  | nil : UsesOf kind [] []
  | use {name rest cs : List Char} {names : List (List Char)} :
    StartsWithUse name rest cs → kind name → UsesOf kind rest names →
      UsesOf kind cs (name :: names)
  | skip {c : Char} {rest : List Char} {names : List (List Char)} :
    (∀ name tail, StartsWithUse name tail (c :: rest) → ¬ kind name) → UsesOf kind rest names →
      UsesOf kind (c :: rest) names

/-- A heading of level two, with or without a number sign of its own, that holds a name between
double braces and nothing else. -/
def Defines (line name : String) : Prop :=
  ∃ mark used blanks : List Char, (mark = [] ∨ mark = ['#']) ∧
    StartsWithUse name.toList blanks used ∧ (∀ c ∈ blanks, isBlank c = true) ∧
    line.toList = ['#', '#', ' '] ++ mark ++ used

/-- A line, counted from one, uses a name. -/
def IsUsedOn (lines : List String) (name : String) (number : Nat) : Prop :=
  ∃ i line, lines[i]? = some line ∧ number = i + 1 ∧ name ∈ references line

theorem map_upTo?_append_cons {stop : Char} {taken : List Char} (h : stop ∉ taken)
    (rest : List Char) :
    (upTo? stop (taken ++ stop :: rest)).map (fun (name, tail) => (name, tail.1)) =
      some (taken, rest) := by
  induction taken with
  | nil => simp [upTo?]
  | cons c taken ih =>
      rw [List.mem_cons, not_or] at h
      obtain ⟨⟨name, tail⟩, hfound, heq⟩ := Option.map_eq_some_iff.1 (ih h.2)
      obtain ⟨rfl, htail⟩ := Prod.mk.inj heq
      simp [upTo?, Ne.symm h.1, hfound, htail]

theorem eq_of_usage?_eq_some {cs name : List Char} {rest : Shorter cs}
    (h : usage? cs = some (name, rest)) :
    '}' ∉ name ∧ cs = '{' :: '{' :: (name ++ '}' :: '}' :: rest.1) := by
  unfold usage? at h
  split at h
  · split at h
    · next hupTo =>
      obtain ⟨heq, hnot⟩ := upTo?_eq_some hupTo
      simp only [Option.some.injEq, Prod.mk.injEq] at h
      obtain ⟨rfl, rfl⟩ := h
      exact ⟨hnot, congrArg ('{' :: '{' :: ·) heq⟩
    · simp at h
  · simp at h

theorem exists_usage?_eq_some {name rest cs : List Char} (hname : '}' ∉ name)
    (hcs : cs = '{' :: '{' :: (name ++ '}' :: '}' :: rest)) :
    ∃ tail : Shorter cs, usage? cs = some (name, tail) ∧ tail.1 = rest := by
  subst hcs
  obtain ⟨⟨found, tail, hlt⟩, hfound, heq⟩ :=
    Option.map_eq_some_iff.1 (map_upTo?_append_cons hname ('}' :: rest))
  obtain ⟨rfl, rfl⟩ := Prod.mk.inj heq
  have hlt' : rest.length < ('{' :: '{' :: (found ++ '}' :: '}' :: rest)).length := by
    simp only [List.length_cons, List.length_append]
    omega
  exact ⟨⟨rest, hlt'⟩, by simp only [usage?, hfound], rfl⟩

/-- The reader takes the names of a kind that a text uses. -/
theorem usesOf_usedNames {accepts : List Char → Bool} (hnamed : accepts [] = false)
    (cs : List Char) : UsesOf (fun name => accepts name = true) cs (usedNames accepts cs) := by
  fun_induction usedNames accepts cs with
  | case1 => exact .nil
  | case2 c rest name tail hlt husage hname ih =>
      obtain ⟨hnot, heq⟩ := eq_of_usage?_eq_some husage
      have hne : name ≠ [] := by
        rintro rfl
        exact absurd hname (by simp [hnamed])
      exact .use ⟨hne, hnot, heq⟩ hname ih
  | case3 c rest name tail hlt husage hname ih =>
      refine .skip ?_ ih
      rintro other more ⟨-, hnot, heq⟩
      obtain ⟨found, hfound, -⟩ := exists_usage?_eq_some hnot heq
      rw [hfound, Option.some.injEq, Prod.mk.injEq] at husage
      rwa [husage.1]
  | case4 c rest husage ih =>
      refine .skip ?_ ih
      rintro other more ⟨-, hnot, heq⟩
      obtain ⟨found, hfound, -⟩ := exists_usage?_eq_some hnot heq
      simp [hfound] at husage

theorem StartsWithUse.unique {name other rest more cs : List Char} (h : StartsWithUse name rest cs)
    (h' : StartsWithUse other more cs) : name = other ∧ rest = more := by
  obtain ⟨tail, htail, rfl⟩ := exists_usage?_eq_some h.2.1 h.2.2
  obtain ⟨tail', htail', rfl⟩ := exists_usage?_eq_some h'.2.1 h'.2.2
  rw [htail, Option.some.injEq, Prod.mk.injEq] at htail'
  exact ⟨htail'.1, by rw [htail'.2]⟩

theorem UsesOf.unique {kind : List Char → Prop} {cs : List Char} {names others : List (List Char)}
    (h : UsesOf kind cs names) (h' : UsesOf kind cs others) : names = others := by
  induction h generalizing others with
  | nil =>
      cases h' with
      | nil => rfl
      | use hstart _ _ => simp [StartsWithUse] at hstart
  | use hstart hkind _ ih =>
      cases h' with
      | nil => simp [StartsWithUse] at hstart
      | use hstart' _ hmore =>
          obtain ⟨rfl, rfl⟩ := hstart.unique hstart'
          rw [ih hmore]
      | skip hnone _ => exact absurd hkind (hnone _ _ hstart)
  | skip hnone _ ih =>
      cases h' with
      | use hstart hkind _ => exact absurd hkind (hnone _ _ hstart)
      | skip _ hmore => exact ih hmore

/-- Every name that stands between braces is of the kind that is not empty. -/
theorem uses_iff_usesOf {cs : List Char} {names : List (List Char)} :
    Uses cs names ↔ UsesOf (fun name => (!name.isEmpty) = true) cs names := by
  constructor
  · intro h
    induction h with
    | nil => exact .nil
    | use hstart _ ih => exact .use hstart (by simpa using hstart.1) ih
    | skip hnone _ ih => exact .skip (fun name tail hstart => absurd hstart (hnone name tail)) ih
  · intro h
    induction h with
    | nil => exact .nil
    | use hstart _ _ ih => exact .use hstart ih
    | skip hnone _ ih =>
        exact .skip (fun name tail hstart => hnone name tail hstart (by simpa using hstart.1)) ih

theorem uses_usedNames (cs : List Char) : Uses cs (usedNames (fun name => !name.isEmpty) cs) :=
  uses_iff_usesOf.2 (usesOf_usedNames rfl cs)

theorem Uses.unique {cs : List Char} {names others : List (List Char)} (h : Uses cs names)
    (h' : Uses cs others) : names = others :=
  (uses_iff_usesOf.1 h).unique (uses_iff_usesOf.1 h')

theorem uses_iff {line : String} {names : List String} :
    Uses line.toList (names.map String.toList) ↔ names = references line := by
  have hreferences : (references line).map String.toList =
      usedNames (fun name => !name.isEmpty) line.toList := by
    simp [references, Function.comp_def]
  constructor
  · intro h
    have heq := h.unique (uses_usedNames line.toList)
    rw [← hreferences] at heq
    exact (List.map_inj_right fun _ _ => String.toList_inj.1).1 heq
  · rintro rfl
    rw [hreferences]
    exact uses_usedNames line.toList

/-! ### Headings that define names -/

theorem Uses.nil_of_not_mem {cs : List Char} (h : '{' ∉ cs) : Uses cs [] := by
  have hnone := uses_usedNames cs
  rwa [usedNames_of_not_mem h] at hnone

theorem Uses.append_of_not_mem {before cs : List Char} {names : List (List Char)}
    (hbefore : '{' ∉ before) (h : Uses cs names) : Uses (before ++ cs) names := by
  induction before with
  | nil => exact h
  | cons c before ih =>
      rw [List.mem_cons, not_or] at hbefore
      refine .skip ?_ (ih hbefore.2)
      rintro name tail ⟨-, -, heq⟩
      exact hbefore.1 (List.cons.inj heq).1.symm

/-- The heading that defines a name reads as a use of it and of no other name. -/
theorem references_of_defines {line name : String} (h : Defines line name) :
    references line = [name] := by
  obtain ⟨mark, used, blanks, hmark, hstart, hblanks, hline⟩ := h
  have hbefore : '{' ∉ ['#', '#', ' '] ++ mark := by
    rcases hmark with rfl | rfl <;> decide
  have hblank : '{' ∉ blanks := fun hmem => absurd (hblanks _ hmem) (by decide)
  have huses : Uses line.toList ([name].map String.toList) := by
    rw [hline]
    exact .append_of_not_mem hbefore (.use hstart (.nil_of_not_mem hblank))
  exact (uses_iff.1 huses).symm

theorem definedName?_of_defines {line name : String} (h : Defines line name) :
    definedName? line = some name := by
  obtain ⟨mark, used, blanks, hmark, ⟨hne, hnot, hused⟩, hblanks, hline⟩ := h
  have hafter : after? ['#', '#', ' '] line.toList = some (mark ++ used) := by
    rw [hline, List.append_assoc, after?_append]
  have hmark : (after? ['#'] (mark ++ used)).getD (mark ++ used) = used := by
    rcases hmark with rfl | rfl
    · simp [hused, after?]
    · rw [after?_append]
      rfl
  obtain ⟨tail, htail, htailBlank⟩ := exists_usage?_eq_some hnot hused
  have hblank : allBlank tail.1 = true := by
    rw [htailBlank]
    exact List.all_eq_true.2 hblanks
  have hempty : name.toList.isEmpty = false := by simpa using hne
  rw [definedName?, hafter]
  simp only [Option.bind_eq_bind, Option.bind_some]
  -- The rest that is read carries a bound on its length, so the text before it is replaced first.
  generalize (after? ['#'] (mark ++ used)).getD (mark ++ used) = read at hmark
  subst hmark
  simp only [htail, Option.bind_some, hblank, hempty, Bool.not_true, Bool.or_self,
    Bool.false_eq_true, if_false, String.ofList_toList]

theorem mem_definitionsFrom (number : Nat) {lines : List String} {line name : String}
    (hline : line ∈ lines) (hname : definedName? line = some name) :
    ∃ d ∈ definitionsFrom number lines, d.name = name := by
  induction lines generalizing number with
  | nil => simp at hline
  | cons first rest ih =>
      rw [definitionsFrom]
      rcases List.mem_cons.1 hline with rfl | hmem
      · rw [hname]
        exact ⟨_, List.mem_cons_self, rfl⟩
      · obtain ⟨d, hd, heq⟩ := ih (number + 1) hmem
        split
        · exact ⟨d, List.mem_cons_of_mem _ hd, heq⟩
        · exact ⟨d, hd, heq⟩

theorem mem_names_referenceBlocks {lines : List String} {line name : String} (hline : line ∈ lines)
    (h : Defines line name) : name ∈ (referenceBlocks lines).names := by
  obtain ⟨d, hd, rfl⟩ := mem_definitionsFrom 0 hline (definedName?_of_defines h)
  rw [← Catalog.contains_iff_mem, Catalog.contains, referenceBlocks, Catalog.find?_ofPairs,
    Option.isSome_iff_ne_none, Ne, Catalog.get?_eq_none_iff, Classical.not_not, List.map_reverse,
    List.mem_reverse, List.map_map]
  exact List.mem_map_of_mem hd

/-! ### Distinct names in the order of their first occurrence -/

theorem firstSeen_concat (names : List String) (name : String) :
    firstSeen (names ++ [name]) =
      if name ∈ names then firstSeen names else firstSeen names ++ [name] := by
  have hstep : firstSeen (names ++ [name]) =
      if (firstSeen names).contains name then firstSeen names else firstSeen names ++ [name] :=
    List.foldl_concat ..
  simp only [hstep, List.contains_iff_mem, mem_firstSeen]

theorem nodup_firstSeen (names : List String) : (firstSeen names).Nodup := by
  induction names using List.reverseRecOn with
  | nil => exact List.nodup_nil
  | append_singleton names name ih =>
      rw [firstSeen_concat]
      split
      · exact ih
      · next hnew =>
        rw [← List.concat_eq_append]
        exact ih.concat fun hmem => hnew (mem_firstSeen.1 hmem)

theorem firstSeen_filter (p : String → Bool) (names : List String) :
    firstSeen (names.filter p) = (firstSeen names).filter p := by
  induction names using List.reverseRecOn with
  | nil => rfl
  | append_singleton names name ih =>
      rw [List.filter_append, firstSeen_concat]
      cases hp : p name with
      | false =>
          rw [List.filter_cons_of_neg (by simp [hp]), List.filter_nil, List.append_nil, ih]
          split
          · rfl
          · rw [List.filter_append, List.filter_cons_of_neg (by simp [hp]), List.filter_nil,
              List.append_nil]
      | true =>
          rw [List.filter_cons_of_pos hp, List.filter_nil, firstSeen_concat, ih]
          by_cases hmem : name ∈ names
          · rw [if_pos hmem, if_pos (List.mem_filter.2 ⟨hmem, hp⟩)]
          · rw [if_neg hmem, if_neg fun h => hmem (List.mem_filter.1 h).1, List.filter_append,
              List.filter_cons_of_pos hp, List.filter_nil]

theorem pairwise_idxOf_firstSeen (names : List String) :
    (firstSeen names).Pairwise fun a b => names.idxOf a < names.idxOf b := by
  induction names using List.reverseRecOn with
  | nil => exact .nil
  | append_singleton names name ih =>
      have hkept : ∀ a ∈ firstSeen names, (names ++ [name]).idxOf a = names.idxOf a :=
        fun a ha => List.idxOf_append_of_mem (mem_firstSeen.1 ha)
      have hold : (firstSeen names).Pairwise fun a b =>
          (names ++ [name]).idxOf a < (names ++ [name]).idxOf b := by
        refine ih.imp_of_mem fun {a b} ha hb hlt => ?_
        rwa [hkept a ha, hkept b hb]
      rw [firstSeen_concat]
      split
      · exact hold
      · next hnew =>
        refine List.pairwise_append.2 ⟨hold, List.pairwise_singleton _ _, ?_⟩
        intro a ha b hb
        obtain rfl := List.mem_singleton.1 hb
        rw [hkept a ha, List.idxOf_append_of_notMem hnew]
        exact Nat.lt_add_right _ (List.idxOf_lt_length_of_mem (mem_firstSeen.1 ha))

/-! ### Uses in document order -/

theorem mem_usagesFrom_iff {number : Nat} {lines : List String} {u : Usage} :
    u ∈ usagesFrom number lines ↔
      ∃ i line, lines[i]? = some line ∧ u.line = number + i ∧ u.name ∈ references line := by
  induction lines generalizing number with
  | nil => simp [usagesFrom]
  | cons first rest ih =>
      rw [usagesFrom, List.mem_append, ih, List.mem_map]
      constructor
      · rintro (⟨name, hname, rfl⟩ | ⟨i, line, hline, hnumber, hname⟩)
        · exact ⟨0, first, rfl, rfl, hname⟩
        · exact ⟨i + 1, line, hline, by omega, hname⟩
      · rintro ⟨i, line, hline, hnumber, hname⟩
        cases i with
        | zero =>
            obtain rfl := Option.some.inj hline
            exact Or.inl ⟨u.name, hname, by rw [← show u.line = number from hnumber]⟩
        | succ i => exact Or.inr ⟨i, line, hline, by omega, hname⟩

theorem mem_usages_iff {lines : List String} {name : String} {number : Nat} :
    ⟨name, number⟩ ∈ usages lines ↔ IsUsedOn lines name number := by
  rw [usages, mem_usagesFrom_iff]
  simp only [IsUsedOn, Nat.add_comm 1]

theorem exists_isUsedOn_iff {lines : List String} {name : String} :
    (∃ number, IsUsedOn lines name number) ↔ name ∈ lines.flatMap references := by
  rw [List.mem_flatMap]
  constructor
  · rintro ⟨_, i, line, hline, -, hname⟩
    exact ⟨line, List.mem_of_getElem? hline, hname⟩
  · rintro ⟨line, hline, hname⟩
    obtain ⟨i, hi⟩ := List.mem_iff_getElem?.1 hline
    exact ⟨i + 1, i, line, hi, rfl, hname⟩

theorem pairwise_line_usagesFrom (number : Nat) (lines : List String) :
    (usagesFrom number lines).Pairwise fun u w => u.line ≤ w.line := by
  induction lines generalizing number with
  | nil => exact .nil
  | cons first rest ih =>
      refine List.pairwise_append.2 ⟨?_, ih (number + 1), ?_⟩
      · refine List.pairwise_of_forall_mem_list fun u hu w hw => ?_
        obtain ⟨-, -, rfl⟩ := List.mem_map.1 hu
        obtain ⟨-, -, rfl⟩ := List.mem_map.1 hw
        exact Nat.le_refl _
      · intro u hu w hw
        obtain ⟨-, -, rfl⟩ := List.mem_map.1 hu
        obtain ⟨i, -, -, hline, -⟩ := mem_usagesFrom_iff.1 hw
        show number ≤ w.line
        omega

theorem map_name_usagesFrom (number : Nat) (lines : List String) :
    (usagesFrom number lines).map (·.name) = lines.flatMap references := by
  induction lines generalizing number with
  | nil => rfl
  | cons first rest ih =>
      rw [usagesFrom, List.map_append, ih, List.map_map, List.flatMap_cons]
      congr 1
      exact List.map_id _

end Document

/-! ### Errors -/

namespace Usage

open Document

theorem linesOf_concat (found : List Usage) (u : Usage) (name : String) :
    linesOf (found ++ [u]) name =
      if u.name = name ∧ u.line ∉ linesOf found name then linesOf found name ++ [u.line]
      else linesOf found name := by
  by_cases hname : u.name = name
  · have hstep : linesOf (found ++ [u]) name =
        if (linesOf found name).contains u.line then linesOf found name
        else linesOf found name ++ [u.line] := by
      rw [linesOf, List.filter_append, List.filter_cons_of_pos (by simpa using hname),
        List.filter_nil, List.foldl_concat]
      rfl
    by_cases hline : u.line ∈ linesOf found name
    · rw [hstep, if_pos (List.contains_iff_mem.2 hline), if_neg fun h => h.2 hline]
    · rw [hstep, if_neg fun h => hline (List.contains_iff_mem.1 h), if_pos ⟨hname, hline⟩]
  · rw [if_neg fun h => hname h.1, linesOf, List.filter_append,
      List.filter_cons_of_neg (by simpa using hname), List.filter_nil, List.append_nil]
    rfl

theorem mem_linesOf_iff {found : List Usage} {name : String} {number : Nat} :
    number ∈ linesOf found name ↔ ⟨name, number⟩ ∈ found := by
  induction found using List.reverseRecOn with
  | nil => simp [linesOf]
  | append_singleton found u ih =>
      rw [linesOf_concat, List.mem_append, List.mem_singleton, ← ih]
      split
      · next h =>
        obtain ⟨rfl, -⟩ := h
        rw [List.mem_append, List.mem_singleton, Usage.mk.injEq]
        simp
      · next h =>
        refine ⟨Or.inl, ?_⟩
        rintro (hmem | rfl)
        · exact hmem
        · simpa using h

theorem pairwise_linesOf {found : List Usage} (h : found.Pairwise fun u w => u.line ≤ w.line)
    (name : String) : (linesOf found name).Pairwise (· < ·) := by
  induction found using List.reverseRecOn with
  | nil => exact .nil
  | append_singleton found u ih =>
      obtain ⟨hfound, -, hlast⟩ := List.pairwise_append.1 h
      rw [linesOf_concat]
      split
      · next hnew =>
        refine List.pairwise_append.2 ⟨ih hfound, List.pairwise_singleton _ _, ?_⟩
        intro m hm n hn
        obtain rfl := List.mem_singleton.1 hn
        have hle : m ≤ u.line := hlast _ (mem_linesOf_iff.1 hm) u (List.mem_singleton_self u)
        have hne : m ≠ u.line := fun heq => hnew.2 (heq ▸ hm)
        omega
      · exact ih hfound

/-- The error of a name tells all lines on which it is used in order, the first as its own. -/
structure Reports (lines : List String) (name : String) (i : Issue) : Prop where
  kind : i.kind = .missingReference
  severity : i.severity = .error
  numbers : ∃ (first : Nat) (more : List Nat), i.line = some (first : Int) ∧
    i.details = [("reference_name", .text name),
      ("usage_lines", .list ((first :: more).map fun number : Nat => .int number))] ∧
    (first :: more).Pairwise (· < ·) ∧
    ∀ number, number ∈ first :: more ↔ IsUsedOn lines name number

theorem Reports.name_eq {lines : List String} {name other : String} {i : Issue}
    (h : Reports lines name i) (hother : ("reference_name", Value.text other) ∈ i.details) :
    other = name := by
  obtain ⟨first, more, -, hdetails, -⟩ := h.numbers
  simpa [hdetails] using hother

section Check

variable (references : References) (lines : List String)

theorem map_name_undefinedUsages : (undefinedUsages references lines).map (·.name) =
    (lines.flatMap Document.references).filter (!references.contains ·) := by
  rw [undefinedUsages, ← map_name_usagesFrom 1 lines, List.filter_map]
  rfl

theorem mem_map_name_undefinedUsages_iff {name : String} :
    name ∈ (undefinedUsages references lines).map (·.name) ↔
      (∃ number, IsUsedOn lines name number) ∧ name ∉ references.names := by
  rw [map_name_undefinedUsages, List.mem_filter, exists_isUsedOn_iff, ← Catalog.contains_iff_mem]
  simp

theorem reports_missingReference {name : String}
    (hname : name ∈ (undefinedUsages references lines).map (·.name)) :
    Reports lines name
      (.missingReference name (((linesOf (undefinedUsages references lines) name).map
        Int.ofNat).headD 0) ((linesOf (undefinedUsages references lines) name).map Int.ofNat)) := by
  have hundefined : references.contains name = false := by
    have hnot := ((mem_map_name_undefinedUsages_iff references lines).1 hname).2
    simpa [← Catalog.contains_iff_mem] using hnot
  have hmem : ∀ number, number ∈ linesOf (undefinedUsages references lines) name ↔
      IsUsedOn lines name number := by
    intro number
    rw [mem_linesOf_iff, undefinedUsages, List.mem_filter, ← mem_usages_iff]
    simp [hundefined]
  have hsorted : (linesOf (undefinedUsages references lines) name).Pairwise (· < ·) :=
    pairwise_linesOf ((pairwise_line_usagesFrom 1 lines).filter _) name
  cases hnumbers : linesOf (undefinedUsages references lines) name with
  | nil =>
      obtain ⟨u, hu, rfl⟩ := List.mem_map.1 hname
      have hline : u.line ∈ linesOf (undefinedUsages references lines) u.name :=
        mem_linesOf_iff.2 hu
      simp [hnumbers] at hline
  | cons first more =>
      rw [hnumbers] at hmem hsorted
      refine ⟨rfl, rfl, first, more, rfl, ?_, hsorted, hmem⟩
      simp [Issue.missingReference]

theorem exists_reports_of_mem_errors {i : Issue} (h : i ∈ (check references lines).errors) :
    ∃ name, name ∉ references.names ∧ Reports lines name i := by
  obtain ⟨name, hname, rfl⟩ := List.mem_map.1 h
  have hused := mem_firstSeen.1 hname
  exact ⟨name, ((mem_map_name_undefinedUsages_iff references lines).1 hused).2,
    reports_missingReference references lines hused⟩

/-- The names that are used and not defined, in the order of their first uses, have one error
each. -/
theorem exists_forall₂_reports : ∃ undefined : List String, undefined.Nodup ∧
    (∀ name, name ∈ undefined ↔
      (∃ number, IsUsedOn lines name number) ∧ name ∉ references.names) ∧
    (undefined.Pairwise fun a b => (lines.flatMap Document.references).idxOf a <
      (lines.flatMap Document.references).idxOf b) ∧
    List.Forall₂ (Reports lines) undefined (check references lines).errors := by
  refine ⟨firstSeen ((undefinedUsages references lines).map (·.name)), nodup_firstSeen _, ?_, ?_,
    ?_⟩
  · intro name
    rw [mem_firstSeen, mem_map_name_undefinedUsages_iff]
  · rw [map_name_undefinedUsages, firstSeen_filter]
    exact (pairwise_idxOf_firstSeen _).filter _
  · have herrors : (check references lines).errors = missingIssues references lines := rfl
    rw [herrors, missingIssues, List.forall₂_map_right_iff, List.forall₂_same]
    exact fun name hname => reports_missingReference references lines (mem_firstSeen.1 hname)

/-- A list of lines passes exactly when every name that it uses is defined. -/
theorem valid_check_iff : (check references lines).valid = true ↔
    ∀ name number, IsUsedOn lines name number → name ∈ references.names := by
  have hvalid : (check references lines).valid = (check references lines).errors.isEmpty := rfl
  obtain ⟨undefined, -, hmem, -, hreports⟩ := exists_forall₂_reports references lines
  rw [hvalid, List.isEmpty_iff]
  constructor
  · intro hnone name number hused
    rw [hnone, List.forall₂_nil_right_iff] at hreports
    by_contra hundefined
    have hname := (hmem name).2 ⟨⟨number, hused⟩, hundefined⟩
    simp [hreports] at hname
  · intro hdefined
    cases undefined with
    | nil => exact List.forall₂_nil_left_iff.1 hreports
    | cons name undefined =>
        obtain ⟨⟨number, hused⟩, hundefined⟩ := (hmem name).1 List.mem_cons_self
        exact absurd (hdefined name number hused) hundefined

theorem valid_check_iff_contains : (check references lines).valid = true ↔
    ∀ line ∈ lines, ∀ name ∈ Document.references line, references.contains name = true := by
  rw [valid_check_iff]
  simp only [Catalog.contains_iff_mem]
  constructor
  · intro h line hline name hname
    obtain ⟨i, hi⟩ := List.mem_iff_getElem?.1 hline
    exact h name (i + 1) ⟨i, line, hi, rfl, hname⟩
  · rintro h name _ ⟨i, line, hline, -, hname⟩
    exact h line (List.mem_of_getElem? hline) name hname

end Check

/-! ### Documents -/

section Document

variable {policy : Policy} {text : String} {path : Option String} {l : TaskList}

theorem references_eq_referenceBlocks (hread : TaskList.ofText? policy text path = some l) :
    l.references = referenceBlocks l.lines := by
  rw [TaskList.ofText?, Option.ite_none_left_eq_some, Option.some.injEq] at hread
  rw [← hread.2]

theorem scannedLines_eq_lines (hread : TaskList.ofText? policy text path = some l) :
    l.scannedLines = l.lines := by
  obtain ⟨hlines, htasks⟩ := lines_tasks_of_ofText? hread
  rw [TaskList.scannedLines]
  split
  · next hnone =>
    rw [List.isEmpty_iff] at hnone
    rw [htasks, ← hlines, hnone]
    rfl
  · rfl

theorem checkList_eq_check (hread : TaskList.ofText? policy text path = some l) :
    checkList l none = check l.references l.lines := by
  rw [checkList, scannedLines_eq_lines hread, Option.getD_none]

/-- In a document, the heading that defines a name keeps every error from being about it. -/
theorem not_mem_details_of_defines (hread : TaskList.ofText? policy text path = some l)
    {line name : String} (hline : line ∈ l.lines) (hdefines : Defines line name) :
    ∀ i ∈ (checkList l none).errors, ("reference_name", Value.text name) ∉ i.details := by
  rw [checkList_eq_check hread, references_eq_referenceBlocks hread]
  intro i hi hname
  obtain ⟨other, hundefined, hreports⟩ := exists_reports_of_mem_errors _ _ hi
  obtain rfl := hreports.name_eq hname
  exact hundefined (mem_names_referenceBlocks hline hdefines)

end Document

/-- **References are checked exactly.** The names that lines use are those between double braces,
taken from the left. Each of them that is not defined has one error, the errors come in the order of
first uses, and the lines pass if there is none. A heading that defines a name uses it too, and this
use is never at fault. -/
theorem exists_undefined_reported (references : References) (lines : List String) :
    (∀ (line : String) (names : List String),
      Uses line.toList (names.map String.toList) ↔ names = Document.references line) ∧
    (∃ undefined : List String, undefined.Nodup ∧
      (∀ name, name ∈ undefined ↔
        (∃ number, IsUsedOn lines name number) ∧ name ∉ references.names) ∧
      (undefined.Pairwise fun a b => (lines.flatMap Document.references).idxOf a <
        (lines.flatMap Document.references).idxOf b) ∧
      List.Forall₂ (Reports lines) undefined (check references lines).errors) ∧
    (check references lines).warnings = [] ∧
    ((check references lines).valid = true ↔
      ∀ name number, IsUsedOn lines name number → name ∈ references.names) ∧
    ∀ policy text path l, TaskList.ofText? policy text path = some l → ∀ line ∈ l.lines,
      ∀ name, Defines line name → Document.references line = [name] ∧
        ∀ i ∈ (checkList l none).errors, ("reference_name", Value.text name) ∉ i.details :=
  ⟨fun _ _ => uses_iff, exists_forall₂_reports references lines, rfl,
    valid_check_iff references lines, fun _ _ _ _ h _ hline _ hdefines =>
      ⟨references_of_defines hdefines, not_mem_details_of_defines h hline hdefines⟩⟩

/-- The lines of a document that defines one of the two names that it uses. -/
def halfDefined : List String :=
  ["### AB0001: Plan", "\x7b\x7bopen\x7d\x7d \x7b\x7bknown\x7d\x7d \x7b\x7bopen\x7d\x7d",
    "\x7b\x7bopen\x7d\x7d", "## #\x7b\x7bknown\x7d\x7d"]

theorem exists_undefined_reported_halfDefined :
    ∃ l, TaskList.ofText? .standard ("\n".intercalate (halfDefined ++ [""])) none = some l ∧
      (∃ line ∈ l.lines, Defines line "known" ∧ Document.references line = ["known"]) ∧
      (∀ i ∈ (checkList l none).errors, ("reference_name", Value.text "known") ∉ i.details) ∧
      (check l.references l.lines).valid = false := by
  have hbreaks : ∀ line ∈ halfDefined, IsUnbroken line := by decide +kernel
  have hsome : tasks .standard halfDefined ≠ [] := by
    rw [ne_eq, ← List.isEmpty_iff]
    decide +kernel
  have hread := ofText?_intercalate none hbreaks hsome
  have hline : "## #\x7b\x7bknown\x7d\x7d" ∈ halfDefined := by simp [halfDefined]
  have hdefines : Defines "## #\x7b\x7bknown\x7d\x7d" "known" :=
    ⟨['#'], "\x7b\x7bknown\x7d\x7d".toList, [], Or.inr rfl, by simp [StartsWithUse], by simp,
      by simp⟩
  have hused : IsUsedOn halfDefined "open" 3 := ⟨2, _, rfl, rfl, by decide +kernel⟩
  have hundefined : "open" ∉ (referenceBlocks halfDefined).names := by decide +kernel
  obtain ⟨-, -, -, hvalid, hdocument⟩ :=
    exists_undefined_reported (referenceBlocks halfDefined) halfDefined
  obtain ⟨hreferences, herrors⟩ := hdocument _ _ _ _ hread _ hline _ hdefines
  refine ⟨_, hread, ⟨_, hline, hdefines, hreferences⟩, herrors, ?_⟩
  rw [← Bool.not_eq_true]
  exact fun h => hundefined (hvalid.1 h "open" 3 hused)

end Usage

end TaskAudit
