import TaskAudit.Proofs.Extent
import TaskAudit.Proofs.UsageCount

/-!
# Definitions of references

A name has one definition that counts, the last. It stands for the lines behind that heading up to
the next heading of level two, and since every definition is such a heading, no line belongs to two
names.
-/

namespace TaskAudit

theorem Catalog.names_ofPairs {α : Type} (pairs : List (String × α)) :
    (ofPairs pairs).names = Document.firstSeen (pairs.map Prod.fst) := by
  induction pairs using List.reverseRecOn with
  | nil => rfl
  | append_singleton pairs pair ih =>
      have hstep : ofPairs (pairs ++ [pair]) = (ofPairs pairs).insert pair.1 pair.2 :=
        List.foldl_concat ..
      rw [hstep, names_insert, ih, List.map_append, List.map_singleton,
        Document.firstSeen_concat]
      simp only [Document.mem_firstSeen]

namespace Document

open Text

variable {lines : List String} {line name other : String} {body : List String} {n : ℕ}

/-- A line, counted from zero, defines a name. -/
def IsDefinedOn (lines : List String) (name : String) (n : ℕ) : Prop :=
  ∃ line, lines[n]? = some line ∧ Defines line name

/-- A name has a definition before any of another name. -/
def IsDefinedBefore (lines : List String) (name other : String) : Prop :=
  ∃ n, IsDefinedOn lines name n ∧ ∀ k ≤ n, ¬ IsDefinedOn lines other k

def IsLevelTwo (line : String) : Prop := ['#', '#', ' '] <+: line.toList

/-- The last definition of a name, and the lines that the name stands for. -/
structure IsLastDefinition (lines : List String) (name : String) (body : List String)
    (start stop : ℕ) : Prop where
  defined : IsDefinedOn lines name start
  last : ∀ n, start < n → ¬ IsDefinedOn lines name n
  body : body = lines.extract (start + 1) stop
  extent : EndsAtNext IsLevelTwo lines (start + 1) stop

/-! ### Headings -/

theorem isLevelTwo_iff : isLevelTwo line = true ↔ IsLevelTwo line := by
  rw [isLevelTwo, Option.isSome_iff_exists, IsLevelTwo]
  simp only [after?_eq_some_iff]
  exact exists_congr fun rest => eq_comm

theorem Defines.isLevelTwo (h : Defines line name) : IsLevelTwo line := by
  obtain ⟨mark, used, blanks, -, -, -, hline⟩ := h
  exact ⟨mark ++ used, by rw [hline, List.append_assoc]⟩

theorem Defines.unique (h : Defines line name) (h' : Defines line other) : name = other := by
  rw [← definedName?_eq_some_iff] at h h'
  exact Option.some.inj (h.symm.trans h')

/-! ### Names -/

theorem map_name_definitionsFrom (number : ℕ) (lines : List String) :
    (definitionsFrom number lines).map (·.name) = lines.filterMap definedName? := by
  induction lines generalizing number with
  | nil => rfl
  | cons line lines ih =>
      rw [definitionsFrom, List.filterMap_cons]
      cases definedName? line with
      | none => exact ih _
      | some name => rw [List.map_cons, ih]

theorem names_referenceBlocks (lines : List String) :
    (referenceBlocks lines).names = firstSeen (lines.filterMap definedName?) := by
  rw [referenceBlocks, Catalog.names_ofPairs, List.map_map, ← map_name_definitionsFrom 0]
  rfl

theorem mem_filterMap_definedName?_iff :
    name ∈ lines.filterMap definedName? ↔ ∃ n, IsDefinedOn lines name n := by
  simp only [List.mem_filterMap, definedName?_eq_some_iff, IsDefinedOn]
  constructor
  · rintro ⟨line, hmem, hdefines⟩
    obtain ⟨n, hline⟩ := List.getElem?_of_mem hmem
    exact ⟨n, line, hline, hdefines⟩
  · rintro ⟨n, line, hline, hdefines⟩
    exact ⟨line, List.mem_of_getElem? hline, hdefines⟩

theorem isDefinedOn_concat_of_lt (hn : n < lines.length) :
    IsDefinedOn (lines ++ [line]) name n ↔ IsDefinedOn lines name n := by
  rw [IsDefinedOn, IsDefinedOn, List.getElem?_append_left hn]

theorem IsDefinedOn.lt (h : IsDefinedOn lines name n) : n < lines.length := by
  obtain ⟨line, hline, -⟩ := h
  exact (List.getElem?_eq_some_iff.1 hline).1

theorem IsDefinedBefore.concat (h : IsDefinedBefore lines name other) (line : String) :
    IsDefinedBefore (lines ++ [line]) name other := by
  obtain ⟨n, hdefined, hnot⟩ := h
  refine ⟨n, (isDefinedOn_concat_of_lt hdefined.lt).2 hdefined, fun k hk => ?_⟩
  rw [isDefinedOn_concat_of_lt (hk.trans_lt hdefined.lt)]
  exact hnot k hk

/-- Names keep the order of their first definitions. -/
theorem pairwise_isDefinedBefore (lines : List String) :
    (firstSeen (lines.filterMap definedName?)).Pairwise (IsDefinedBefore lines) := by
  induction lines using List.reverseRecOn with
  | nil => exact .nil
  | append_singleton lines line ih =>
      have hold : (firstSeen (lines.filterMap definedName?)).Pairwise
          (IsDefinedBefore (lines ++ [line])) := ih.imp fun h => h.concat line
      rw [List.filterMap_append]
      cases hname : definedName? line with
      | none => simpa [hname] using hold
      | some other =>
          have hother : [line].filterMap definedName? = [other] := by simp [hname]
          rw [hother, firstSeen_concat]
          split
          · exact hold
          · next hnew =>
            refine List.pairwise_append.2 ⟨hold, List.pairwise_singleton _ _, ?_⟩
            intro name hmem b hb
            obtain rfl := List.mem_singleton.1 hb
            obtain ⟨n, hdefined⟩ := mem_filterMap_definedName?_iff.1 (mem_firstSeen.1 hmem)
            refine ⟨n, (isDefinedOn_concat_of_lt hdefined.lt).2 hdefined, fun k hk => ?_⟩
            rw [isDefinedOn_concat_of_lt (hk.trans_lt hdefined.lt)]
            exact fun h => hnew (mem_filterMap_definedName?_iff.2 ⟨k, h⟩)

/-! ### Bodies -/

/-- The pairs of names and bodies of definitions, the last definition first. -/
def bodiesFrom (number : ℕ) (lines : List String) : List (String × List String) :=
  ((definitionsFrom number lines).map fun d => (d.name, d.body)).reverse

theorem get?_bodiesFrom_eq_none_iff {number : ℕ} :
    Catalog.get? name (bodiesFrom number lines) = none ↔ ∀ n, ¬ IsDefinedOn lines name n := by
  rw [Catalog.get?_eq_none_iff, bodiesFrom, List.map_reverse, List.mem_reverse, List.map_map,
    ← not_exists, ← mem_filterMap_definedName?_iff, ← map_name_definitionsFrom number]
  rfl

theorem get?_bodiesFrom_cons (number : ℕ) (line : String) (lines : List String) (name : String) :
    Catalog.get? name (bodiesFrom number (line :: lines)) =
      (Catalog.get? name (bodiesFrom (number + 1) lines)).or
        (if definedName? line = some name then some (lines.takeWhile (!isLevelTwo ·))
          else none) := by
  rw [bodiesFrom, definitionsFrom]
  cases definedName? line with
  | none => simp [bodiesFrom]
  | some other => simp [bodiesFrom, Catalog.get?_append, Catalog.get?]

/-- Of several definitions of a name the last counts. -/
theorem exists_last_of_get? {number : ℕ}
    (h : Catalog.get? name (bodiesFrom number lines) = some body) :
    ∃ n, IsDefinedOn lines name n ∧ (∀ k, n < k → ¬ IsDefinedOn lines name k) ∧
      body = (lines.drop (n + 1)).takeWhile (!isLevelTwo ·) := by
  induction lines generalizing number with
  | nil => cases h
  | cons line lines ih =>
      rw [get?_bodiesFrom_cons, Option.or_eq_some_iff] at h
      rcases h with hlater | ⟨hnone, hbody⟩
      · obtain ⟨n, hdefined, hlast, hbody⟩ := ih hlater
        refine ⟨n + 1, hdefined, fun k hk => ?_, hbody⟩
        obtain ⟨j, rfl⟩ := Nat.exists_eq_add_of_lt hk
        exact hlast _ (by omega)
      · rw [Option.ite_none_right_eq_some] at hbody
        obtain ⟨hname, hbody⟩ := hbody
        obtain rfl := Option.some.inj hbody
        refine ⟨0, ⟨line, rfl, definedName?_eq_some_iff.1 hname⟩, fun k hk => ?_, rfl⟩
        obtain ⟨j, rfl⟩ := Nat.exists_eq_succ_of_ne_zero hk.ne'
        exact get?_bodiesFrom_eq_none_iff.1 hnone j

theorem find?_referenceBlocks (lines : List String) (name : String) :
    (referenceBlocks lines).find? name = Catalog.get? name (bodiesFrom 0 lines) :=
  Catalog.find?_ofPairs _ _

theorem exists_isLastDefinition (h : (referenceBlocks lines).find? name = some body) :
    ∃ start stop, IsLastDefinition lines name body start stop := by
  rw [find?_referenceBlocks] at h
  obtain ⟨start, hdefined, hlast, hbody⟩ := exists_last_of_get? h
  have hend : ∀ line, (!isLevelTwo line) = false ↔ IsLevelTwo line := fun line => by
    rw [Bool.not_eq_false', isLevelTwo_iff]
  obtain ⟨stop, -, htake, hextent⟩ :=
    exists_endsAtNext_takeWhile hend (show start + 1 ≤ lines.length from hdefined.lt)
  exact ⟨start, stop, hdefined, hlast, hbody.trans htake, hextent⟩

section Extents

variable {start stop start' stop' : ℕ} {body' : List String}

theorem IsDefinedOn.unique (h : IsDefinedOn lines name n) (h' : IsDefinedOn lines other n) :
    name = other := by
  obtain ⟨line, hline, hdefines⟩ := h
  obtain ⟨line', hline', hdefines'⟩ := h'
  obtain rfl := Option.some.inj (hline.symm.trans hline')
  exact hdefines.unique hdefines'

/-- No heading of level two is among the lines of a name, so no definition is. -/
theorem IsLastDefinition.isPlain (h : IsLastDefinition lines name body start stop)
    (hline : line ∈ body) : ¬ IsLevelTwo line ∧ IsPlain line := by
  rw [h.body, List.extract_eq_take_drop] at hline
  obtain ⟨k, hk⟩ := List.getElem?_of_mem hline
  rw [List.getElem?_take, Option.ite_none_right_eq_some, List.getElem?_drop] at hk
  obtain ⟨hlt, hk⟩ := hk
  have hnot := h.extent.inside _ line (Nat.le_add_right _ k) (by omega) hk
  exact ⟨hnot, fun other hdefines => hnot hdefines.isLevelTwo⟩

theorem IsLastDefinition.stop_le (h : IsLastDefinition lines name body start stop)
    (hdefined : IsDefinedOn lines other n) (hlt : start < n) : stop ≤ n := by
  obtain ⟨line, hline, hdefines⟩ := hdefined
  by_contra hlt'
  exact h.extent.inside n line hlt (not_le.1 hlt') hline hdefines.isLevelTwo

/-- The lines of two names are apart. -/
theorem IsLastDefinition.apart (h : IsLastDefinition lines name body start stop)
    (h' : IsLastDefinition lines other body' start' stop') (hne : name ≠ other) :
    stop ≤ start' ∨ stop' ≤ start := by
  rcases lt_trichotomy start start' with hlt | rfl | hlt
  · exact .inl (h.stop_le h'.defined hlt)
  · exact absurd (h.defined.unique h'.defined) hne
  · exact .inr (h'.stop_le h.defined hlt)

end Extents

/-- **What names stand for.** The names of a document are those that a heading defines, each once,
in the order of their first definitions. A name stands for the lines behind its last definition up
to the next heading of level two or the end. None of these lines is such a heading or defines a
name, and no line belongs to two names. -/
theorem referenceBlocks_exact (lines : List String) :
    (∀ name, name ∈ (referenceBlocks lines).names ↔ ∃ line ∈ lines, Defines line name) ∧
    (referenceBlocks lines).names.Nodup ∧
    (referenceBlocks lines).names.Pairwise (IsDefinedBefore lines) ∧
    ∃ start stop : String → ℕ,
      (∀ name ∈ (referenceBlocks lines).names, ∃ body,
        (referenceBlocks lines).find? name = some body ∧
        IsLastDefinition lines name body (start name) (stop name) ∧
        ∀ line ∈ body, ¬ IsLevelTwo line ∧ IsPlain line) ∧
      ∀ name ∈ (referenceBlocks lines).names, ∀ other ∈ (referenceBlocks lines).names,
        name ≠ other → stop name ≤ start other ∨ stop other ≤ start name := by
  have hnames := names_referenceBlocks lines
  have hbody : ∀ name ∈ (referenceBlocks lines).names, ∃ start stop body,
      (referenceBlocks lines).find? name = some body ∧
        IsLastDefinition lines name body start stop := by
    intro name hname
    rw [← Catalog.contains_iff_mem, Catalog.contains, Option.isSome_iff_exists] at hname
    obtain ⟨body, hfind⟩ := hname
    obtain ⟨start, stop, hlast⟩ := exists_isLastDefinition hfind
    exact ⟨start, stop, body, hfind, hlast⟩
  choose! start stop hlast using hbody
  refine ⟨fun name => ?_, (referenceBlocks lines).nodup, ?_, start, stop, fun name hname => ?_,
    fun name hname other hother hne => ?_⟩
  · rw [hnames, mem_firstSeen, List.mem_filterMap]
    simp only [definedName?_eq_some_iff]
  · rw [hnames]
    exact pairwise_isDefinedBefore lines
  · obtain ⟨body, hfind, hdefinition⟩ := hlast name hname
    exact ⟨body, hfind, hdefinition, fun line => hdefinition.isPlain⟩
  · obtain ⟨body, -, hdefinition⟩ := hlast name hname
    obtain ⟨body', -, hdefinition'⟩ := hlast other hother
    exact hdefinition.apart hdefinition' hne

/-- Two names, the first of which is defined again. -/
def redefined : List String :=
  ["## #\x7b\x7ba\x7d\x7d", "first", "## \x7b\x7bb\x7d\x7d ", "# other",
    "## #\x7b\x7ba\x7d\x7d", "second"]

theorem referenceBlocks_exact_redefined :
    "a" ∈ (referenceBlocks redefined).names ∧ "b" ∈ (referenceBlocks redefined).names ∧
    ∃ start stop : String → ℕ,
      IsLastDefinition redefined "a" ["second"] (start "a") (stop "a") ∧
      IsLastDefinition redefined "b" ["# other"] (start "b") (stop "b") ∧
      (stop "a" ≤ start "b" ∨ stop "b" ≤ start "a") := by
  obtain ⟨-, -, -, start, stop, hbody, hapart⟩ := referenceBlocks_exact redefined
  have ha : "a" ∈ (referenceBlocks redefined).names := by decide +kernel
  have hb : "b" ∈ (referenceBlocks redefined).names := by decide +kernel
  have hfirst : (referenceBlocks redefined).find? "a" = some ["second"] := by decide +kernel
  have hsecond : (referenceBlocks redefined).find? "b" = some ["# other"] := by decide +kernel
  obtain ⟨body, hfind, hlast, -⟩ := hbody "a" ha
  obtain ⟨body', hfind', hlast', -⟩ := hbody "b" hb
  obtain rfl := Option.some.inj (hfirst.symm.trans hfind)
  obtain rfl := Option.some.inj (hsecond.symm.trans hfind')
  exact ⟨ha, hb, start, stop, hlast, hlast', hapart "a" ha "b" hb (by decide)⟩

end Document

end TaskAudit
