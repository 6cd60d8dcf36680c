import Mathlib.Data.List.Basic
import TaskAudit.Policy.Shape
import TaskAudit.Proofs.Result

/-!
# Policies with overrides

A policy with some fields overridden is the policy written out, the fields replaced, and the whole
read anew. What a field was read to is read to the same again, with one exception: the names of
sections are trimmed of asterisks between two trims of blanks, and this can leave an asterisk that
the next reading takes off.
-/

namespace TaskAudit

/-! ### Readings -/

namespace Reading

variable {α β : Type}

theorem map_eq_ok_iff {f : α → β} {r : Reading α} {b : β} :
    r.map f = .ok b ↔ ∃ a, r = .ok a ∧ f a = b := by
  cases r <;> simp [map]

/-- What was read, if nothing was wrong. -/
def value? : Reading α → Option α
  | ok a => some a
  | _ => none

theorem value?_eq_some_iff {r : Reading α} {a : α} : r.value? = some a ↔ r = .ok a := by
  cases r <;> simp [value?]

theorem isSome_value?_iff {r : Reading α} : r.value?.isSome = true ↔ ∃ a, r = .ok a := by
  cases r <;> simp [value?]

theorem isSome_value?_fmap {f : α → β} {r : Reading α} :
    (f <$> r).value?.isSome = r.value?.isSome := by
  cases r <;> rfl

theorem isSome_value?_seq {f : Reading (α → β)} {r : Reading α} :
    (f <*> r).value?.isSome = (f.value?.isSome && r.value?.isSome) := by
  cases f <;> cases r <;> rfl

theorem under_eq_ok_iff {step : Shape.Step} {r : Reading α} {a : α} :
    r.under step = .ok a ↔ r = .ok a := by
  cases r <;> simp [under]

theorem keeping_eq_ok_iff {rule : α → Option String} {r : Reading α} {a : α} :
    r.keeping rule = .ok a ↔ r = .ok a ∧ rule a = none := by
  cases r with
  | failed _ | stopped _ => simp [keeping]
  | ok b =>
      rw [keeping, ok.injEq]
      constructor
      · intro h
        split at h
        · next hrule => exact ⟨ok.inj h, ok.inj h ▸ hrule⟩
        · simp [fail] at h
      · rintro ⟨rfl, hrule⟩
        rw [hrule]

end Reading

namespace Shape

/-! ### Values that are read back -/

variable {α : Type}

/-- Whatever is written is read back. -/
def ReadsBack (read : Value → Reading α) (write : α → Value) : Prop := ∀ a, read (write a) = .ok a

variable {read : Value → Reading α} {write : α → Value}

theorem readsBack_bool : ReadsBack bool .bool := fun _ => rfl

theorem readsBack_integer : ReadsBack integer .int := fun _ => rfl

theorem readsBack_number : ReadsBack number .float := fun _ => rfl

theorem readsBack_text : ReadsBack text .text := fun _ => rfl

theorem readsBack_complexity :
    ReadsBack (choice Complexity.ofName?) fun c => .text c.name := fun c => by
  cases c <;> rfl

theorem ReadsBack.list (h : ReadsBack read write) :
    ReadsBack (list read) fun items => .list (items.map write) := by
  have hmembers : ∀ (items : List α) (index : Nat),
      members read index (items.map write) = .ok items := by
    intro items
    induction items with
    | nil => exact fun _ => rfl
    | cons a rest ih =>
        intro index
        rw [List.map_cons, members, h a, ih]
        rfl
  exact fun items => hmembers items 0

theorem ReadsBack.map (h : ReadsBack read write) :
    ReadsBack (map read) fun c => .map (c.map write).entries := by
  have hentries : ∀ entries : List (String × α),
      entriesOf read (entries.map fun entry => (entry.1, write entry.2)) = .ok entries := by
    intro entries
    induction entries with
    | nil => rfl
    | cons entry rest ih =>
        rw [List.map_cons, entriesOf, h entry.2, ih]
        rfl
  intro c
  rw [Shape.map, Catalog.map, hentries, Reading.map, Catalog.ofPairs_entries]

theorem source_of_compile {s : String} {p : Pattern} (h : Pattern.compile s = .ok p) :
    p.source = s := by
  obtain ⟨r, -, h⟩ := bind_eq_ok_iff.1 h
  obtain ⟨expr, -, h⟩ := bind_eq_ok_iff.1 h
  rw [← Except.ok.inj h]

theorem pattern_eq_ok_iff {v : Value} {p : Pattern} :
    pattern v = .ok p ↔ patternText? v = some p.source ∧ Pattern.compile p.source = .ok p := by
  rw [pattern]
  constructor
  · intro h
    cases htext : patternText? v with
    | none => simp [htext, Reading.fail] at h
    | some s =>
        cases hs : Pattern.compile s with
        | ok q =>
            obtain rfl : q = p := by simpa [htext, hs] using h
            rw [source_of_compile hs]
            exact ⟨rfl, hs⟩
        | error fault => cases fault <;> simp [htext, hs, Reading.fail] at h
  · rintro ⟨htext, h⟩
    simp only [htext, h]

end Shape

/-! ### The fields of a policy -/

namespace Policy

open Shape Text

/-- A field of a policy: how it is read and written, and what reading makes of it when it was read
before. -/
structure Field where
  {α : Type}
  key : String
  get : Policy → α
  read : Value → Reading α
  write : α → Value
  again : α → α
  read_again : ∀ v a, read v = .ok a → read (write a) = .ok (again a)
  read_standard : read (write (get standard)) = .ok (again (get standard))

namespace Field

/-- A field that is read back whatever is in it. -/
def plain {α : Type} (key : String) (get : Policy → α) (read : Value → Reading α)
    (write : α → Value) (h : ReadsBack read write) : Field where
  key
  get
  read
  write
  again := id
  read_again _ a _ := h a
  read_standard := h _

/-- A field with a rule that the standard policy keeps. -/
def ruled {α : Type} (key : String) (get : Policy → α) (read : Value → Reading α)
    (write : α → Value) (h : ReadsBack read write) (rule : α → Option String)
    (hstandard : rule (get standard) = none) : Field where
  key
  get
  read v := (read v).keeping rule
  write
  again := id
  read_again _ a ha := Reading.keeping_eq_ok_iff.2 ⟨h a, (Reading.keeping_eq_ok_iff.1 ha).2⟩
  read_standard := Reading.keeping_eq_ok_iff.2 ⟨h _, hstandard⟩

def grammar (key : String) (get : Policy → Pattern)
    (hstandard : Pattern.compile (get standard).source = .ok (get standard)) : Field where
  key
  get
  read := pattern
  write p := .text p.source
  again := id
  read_again _ _ h := pattern_eq_ok_iff.2 ⟨rfl, (pattern_eq_ok_iff.1 h).2⟩
  read_standard := pattern_eq_ok_iff.2 ⟨rfl, hstandard⟩

theorem readsBack_names : ReadsBack (list text) .texts := readsBack_text.list

theorem readsBack_range : ReadsBack range fun r => .list [.int r.low, .int r.high] := fun _ => rfl

def sections : Field where
  key := "category_sections"
  get := categorySections
  read v := (map (list text) v).map (·.map (·.map bareSection))
  write c := .map (c.map Value.texts).entries
  again := (·.map (·.map bareSection))
  read_again _ _ _ := Reading.map_eq_ok_iff.2 ⟨_, readsBack_names.map _, rfl⟩
  read_standard := Reading.map_eq_ok_iff.2 ⟨_, readsBack_names.map _, rfl⟩

def names (key : String) (get : Policy → List String) (h : listOfNames (get standard) = none) :
    Field :=
  ruled key get (list text) .texts readsBack_names listOfNames h

def ceiling (key : String) (get : Policy → Int) (h : positive (get standard) = none) : Field :=
  ruled key get integer .int readsBack_integer positive h

/-- The fields of a policy in their order. -/
def all : List Field :=
  [names "valid_statuses" statuses (by decide +kernel),
    names "valid_priorities" priorities (by decide +kernel),
    grammar "id_regex" idPattern (by decide +kernel),
    grammar "rating_regex" ratingPattern (by decide +kernel),
    ceiling "max_functions_per_module" (·.limits.functionsPerModule) rfl,
    ceiling "max_lines_per_function" (·.limits.linesPerFunction) rfl,
    ceiling "max_call_depth" (·.limits.callDepth) rfl,
    ceiling "max_cyclomatic_complexity" (·.limits.cyclomaticComplexity) rfl,
    ceiling "max_pattern_match_depth" (·.limits.patternMatchDepth) rfl,
    ruled "max_static_analysis_warnings" (·.limits.staticAnalysisWarnings) integer .int
      readsBack_integer notNegative rfl,
    ruled "min_lint_score" (·.limits.lintScore) number .float readsBack_number score
      (by decide +kernel),
    ceiling "max_state_complexity" (·.limits.stateComplexity) rfl,
    ceiling "max_context_boundaries" (·.limits.contextBoundaries) rfl,
    ceiling "max_query_complexity" (·.limits.queryComplexity) rfl,
    ruled "category_ranges" categoryRanges (map range)
      (fun c => .map (c.map fun r => Value.list [.int r.low, .int r.high]).entries)
      readsBack_range.map ordered (by decide +kernel),
    sections,
    plain "enforce_category_sections" enforceCategorySections bool .bool readsBack_bool,
    plain "category_complexity" categoryComplexity (map (choice Complexity.ofName?))
      (fun c => .map (c.map fun c => Value.text c.name).entries) readsBack_complexity.map,
    plain "semantic_prefixes" codeCategories (map text)
      (fun c => .map (c.map Value.text).entries) readsBack_text.map,
    plain "enable_semantic_prefixes" checkCodes bool .bool readsBack_bool]

theorem sections_mem : sections ∈ all := List.mem_of_getElem? (i := 15) rfl

/-- A field is read from a map, or it is that of the standard policy. -/
def Reads (f : Field) (entries : List (String × Value)) (p : Policy) : Prop :=
  field entries f.key (.ok (f.get standard)) f.read = .ok (f.get p)

end Field

theorem toEntries_eq (p : Policy) :
    p.toEntries = Field.all.map fun f => (f.key, f.write (f.get p)) := rfl

theorem fields_eq_ok_iff {entries : List (String × Value)} {p : Policy} :
    fields entries = .ok p ↔ ∀ f ∈ Field.all, f.Reads entries p := by
  constructor
  · intro h
    -- A reading that succeeds has parts that do, and what these come to settles it.
    have hparts := Reading.isSome_value?_iff.2 ⟨p, h⟩
    simp only [fields, Reading.isSome_value?_seq, Reading.isSome_value?_fmap, Bool.and_eq_true,
      and_assoc, Reading.isSome_value?_iff] at hparts
    obtain ⟨⟨_, h1⟩, ⟨_, h2⟩, ⟨_, h3⟩, ⟨_, h4⟩, ⟨_, h5⟩, ⟨_, h6⟩, ⟨_, h7⟩, ⟨_, h8⟩, ⟨_, h9⟩,
      ⟨_, h10⟩, ⟨_, h11⟩, ⟨_, h12⟩, ⟨_, h13⟩, ⟨_, h14⟩, ⟨_, h15⟩, ⟨_, h16⟩, ⟨_, h17⟩, ⟨_, h18⟩,
      ⟨_, h19⟩, ⟨_, h20⟩⟩ := hparts
    simp only [fields, h1, h2, h3, h4, h5, h6, h7, h8, h9, h10, h11, h12, h13, h14, h15, h16, h17,
      h18, h19, h20] at h
    obtain rfl := Reading.ok.inj h
    simp only [Field.all, List.forall_mem_cons]
    exact ⟨h1, h2, h3, h4, h5, h6, h7, h8, h9, h10, h11, h12, h13, h14, h15, h16, h17, h18, h19,
      h20, by simp⟩
  · intro h
    simp only [Field.all, List.forall_mem_cons, Field.Reads] at h
    obtain ⟨h1, h2, h3, h4, h5, h6, h7, h8, h9, h10, h11, h12, h13, h14, h15, h16, h17, h18, h19,
      h20, -⟩ := h
    simp only [Field.names, Field.ceiling, Field.grammar, Field.ruled, Field.plain,
      Field.sections] at *
    simp only [fields, h1, h2, h3, h4, h5, h6, h7, h8, h9, h10, h11, h12, h13, h14, h15, h16, h17,
      h18, h19, h20]
    rfl

theorem ofValue_eq_ok_iff {v : Value} {p : Policy} : ofValue v = .ok p ↔
    ∃ entries, v = .map entries ∧ fields entries = .ok p ∧ closed keys entries = .ok () := by
  cases v with
  | map entries =>
      cases hfields : fields entries <;> cases hclosed : closed keys entries <;>
        simp [ofValue, hfields, hclosed, Seq.seq, Functor.map, Reading.seq, Reading.map]
  | _ => simp [ofValue, Reading.fail]

/-! ### Names of sections -/

theorem bareSection_eq_self_iff {name : String} : bareSection name = name ↔
    ∀ c, IsAtEnd c name.toList → isBlank c = false ∧ c ≠ '*' := by
  have hparts : bareSection name = name ↔
      trim name.toList = name.toList ∧ trimOf (· = '*') name.toList = name.toList := by
    rw [bareSection, ← String.toList_inj, String.toList_ofList]
    constructor
    · intro h
      -- Each of the three trims shortens the text if it changes it.
      have hfirst := isInfix_trimOf isBlank name.toList
      have hsecond := isInfix_trimOf (· = '*') (trim name.toList)
      have hthird := (isInfix_trimOf isBlank (trimOf (· = '*') (trim name.toList))).length_le
      rw [← trim, h] at hthird
      have hone : trim name.toList = name.toList :=
        hfirst.eq_of_length_le (Nat.le_trans hthird hsecond.length_le)
      rw [hone] at hsecond hthird
      exact ⟨hone, hsecond.eq_of_length_le hthird⟩
    · rintro ⟨hblank, hmark⟩
      rw [hblank, hmark, hblank]
  rw [hparts, trim, trimOf_eq_self_iff, trimOf_eq_self_iff, ← forall_and]
  simp only [← imp_and, decide_eq_false_iff_not]

/-- A bare name changes only if an asterisk is left at one of its ends. -/
theorem bareSection_bareSection_eq_iff {name : String} :
    bareSection (bareSection name) = bareSection name ↔
      ¬ IsAtEnd '*' (bareSection name).toList := by
  have hblank : ∀ c, IsAtEnd c (bareSection name).toList → isBlank c = false := by
    rw [← trimOf_eq_self_iff, bareSection, String.toList_ofList]
    exact trim_trim _
  rw [bareSection_eq_self_iff]
  exact ⟨fun h hmark => (h '*' hmark).2 rfl,
    fun h c hc => ⟨hblank c hc, fun heq => h (heq ▸ hc)⟩⟩

/-- No name of a section starts or ends with an asterisk. -/
def HasBareSections (p : Policy) : Prop :=
  ∀ entry ∈ p.categorySections.entries, ∀ name ∈ entry.2, ¬ IsAtEnd '*' name.toList

section Read

variable {v : Value} {p q : Policy} {overrides : List (String × Value)}

theorem Field.reads_of_mem {f : Field} (hf : f ∈ Field.all) (hp : ofValue v = .ok p) :
    (∃ given, f.read given = .ok (f.get p)) ∨ f.get p = f.get standard := by
  obtain ⟨entries, -, hfields, -⟩ := ofValue_eq_ok_iff.1 hp
  have hreads := fields_eq_ok_iff.1 hfields f hf
  rw [Field.Reads, field, Reading.under_eq_ok_iff] at hreads
  cases hgiven : Catalog.get? f.key entries with
  | some given =>
      rw [hgiven] at hreads
      exact Or.inl ⟨given, hreads⟩
  | none =>
      rw [hgiven] at hreads
      exact Or.inr (Reading.ok.inj hreads).symm

/-- What a policy that was read has in a field is read again. -/
theorem Field.read_write {f : Field} (hf : f ∈ Field.all) (hp : ofValue v = .ok p) :
    f.read (f.write (f.get p)) = .ok (f.again (f.get p)) := by
  rcases f.reads_of_mem hf hp with ⟨given, hgiven⟩ | hstandard
  · exact f.read_again given _ hgiven
  · rw [hstandard]
    exact f.read_standard

theorem exists_categorySections_eq (hp : ofValue v = .ok p) :
    ∃ c : Catalog (List String), p.categorySections = c.map (·.map bareSection) := by
  rcases Field.reads_of_mem Field.sections_mem hp with ⟨given, hgiven⟩ | hstandard
  · obtain ⟨c, -, hc⟩ := Reading.map_eq_ok_iff.1 hgiven
    exact ⟨c, hc.symm⟩
  · have hbare : standard.categorySections =
        standard.categorySections.map (·.map bareSection) := by decide +kernel
    exact ⟨standard.categorySections, hstandard.trans hbare⟩

theorem hasBareSections_iff (hp : ofValue v = .ok p) : p.HasBareSections ↔
    p.categorySections.map (·.map bareSection) = p.categorySections := by
  obtain ⟨c, hc⟩ := exists_categorySections_eq hp
  rw [HasBareSections, Catalog.map_eq_self_iff]
  refine forall_congr' fun entry => forall_congr' fun hentry => ?_
  rw [hc] at hentry
  obtain ⟨⟨category, given⟩, -, rfl⟩ := List.mem_map.1 hentry
  simp only [List.forall_mem_map, ← bareSection_bareSection_eq_iff, List.map_map, List.map_inj_left,
    Function.comp_apply]

theorem map_fst_toEntries (p : Policy) : p.toEntries.map Prod.fst = keys := rfl

theorem nodup_keys : keys.Nodup := by decide +kernel

/-- A field that is not overridden is found as it was written. -/
theorem get?_ofPairs_toEntries {f : Field} (hf : f ∈ Field.all)
    (hkey : f.key ∉ overrides.map Prod.fst) :
    Catalog.get? f.key (Catalog.ofPairs (p.toEntries ++ overrides)).entries =
      some (f.write (f.get p)) := by
  have hmem : (f.key, f.write (f.get p)) ∈ p.toEntries := by
    rw [toEntries_eq]
    exact List.mem_map_of_mem hf
  have hreverse : (p.toEntries.reverse.map Prod.fst).Nodup := by
    rw [List.map_reverse]
    exact (List.reverse_perm _).nodup_iff.2 nodup_keys
  have hnone : Catalog.get? f.key overrides.reverse = none := by
    rw [Catalog.get?_eq_none_iff, List.map_reverse, List.mem_reverse]
    exact hkey
  have hfind : Catalog.get? f.key (Catalog.ofPairs (p.toEntries ++ overrides)).entries =
      Catalog.get? f.key (p.toEntries ++ overrides).reverse := Catalog.find?_ofPairs _ _
  rw [hfind, List.reverse_append, Catalog.get?_append, hnone, Option.none_or,
    Catalog.get?_eq_some_iff_mem hreverse]
  exact List.mem_reverse.2 hmem

theorem Field.get_withOverrides {f : Field} (hf : f ∈ Field.all) (hp : ofValue v = .ok p)
    (hq : p.withOverrides overrides = .ok q) (hkey : f.key ∉ overrides.map Prod.fst) :
    f.get q = f.again (f.get p) := by
  obtain ⟨entries, hentries, hfields, -⟩ := ofValue_eq_ok_iff.1 hq
  obtain rfl := Value.map.inj hentries
  have hreads := fields_eq_ok_iff.1 hfields f hf
  rw [Field.Reads, field, Reading.under_eq_ok_iff, get?_ofPairs_toEntries hf hkey] at hreads
  exact Reading.ok.inj (hreads.symm.trans (Field.read_write hf hp))

/-- The sections of categories are the only field that reading again changes. -/
theorem Field.again_eq {f : Field} (hf : f ∈ Field.all) (hkey : f.key ≠ "category_sections")
    (a : f.α) : f.again a = a := by
  have hall : ∀ f ∈ all, f.key ≠ "category_sections" → ∀ a, f.again a = a := by
    simp only [all, List.forall_mem_cons]
    and_intros
    all_goals first | exact fun _ _ => rfl | exact fun hne => absurd rfl hne | exact nofun
  exact hall f hf hkey a

/-- Without overrides the whole policy is read again. -/
theorem withOverrides_nil (hp : ofValue v = .ok p) :
    p.withOverrides [] =
      .ok { p with categorySections := p.categorySections.map (·.map bareSection) } := by
  have hclosed : closed keys (Catalog.ofPairs (p.toEntries ++ [])).entries = .ok () := by
    have hnone : (p.toEntries.filter fun entry => !keys.contains entry.1) = [] := by
      rw [List.filter_eq_nil_iff]
      intro entry hentry
      have hkey : entry.1 ∈ keys := map_fst_toEntries p ▸ List.mem_map_of_mem hentry
      simpa using hkey
    rw [List.append_nil, Catalog.entries_ofPairs (map_fst_toEntries p ▸ nodup_keys), closed, hnone]
  refine ofValue_eq_ok_iff.2 ⟨_, rfl, fields_eq_ok_iff.2 fun f hf => ?_, hclosed⟩
  have hget : ∀ f ∈ Field.all, f.again (f.get p) =
      f.get { p with categorySections := p.categorySections.map (·.map bareSection) } := by
    simp only [Field.all, List.forall_mem_cons]
    and_intros
    all_goals first | rfl | exact nofun
  have hkey : f.key ∉ ([] : List (String × Value)).map Prod.fst := List.not_mem_nil
  rw [Field.Reads, field, Reading.under_eq_ok_iff, get?_ofPairs_toEntries hf hkey, ← hget f hf]
  exact Field.read_write hf hp

/-- **Overriding leaves the other fields.** A field that is not overridden stays as it was, and
so does the whole policy where nothing is overridden. Only the names of sections may change, and
they do exactly if one of them starts or ends with an asterisk: then it is trimmed once more. -/
theorem withOverrides_frame (hp : ofValue v = .ok p) (hq : p.withOverrides overrides = .ok q) :
    (∀ f ∈ Field.all, f.key ∉ overrides.map Prod.fst → f.key ≠ "category_sections" →
      f.get q = f.get p) ∧
    ("category_sections" ∉ overrides.map Prod.fst →
      q.categorySections = p.categorySections.map (·.map bareSection) ∧
      (q.categorySections = p.categorySections ↔ p.HasBareSections)) ∧
    ∃ r, p.withOverrides [] = .ok r ∧ (r = p ↔ p.HasBareSections) := by
  refine ⟨fun f hf hkey hne => ?_, fun hkey => ?_, _, withOverrides_nil hp, ?_⟩
  · rw [Field.get_withOverrides hf hp hq hkey, Field.again_eq hf hne]
  · have hsections : q.categorySections = p.categorySections.map (·.map bareSection) :=
      Field.get_withOverrides Field.sections_mem hp hq hkey
    exact ⟨hsections, by rw [hsections, hasBareSections_iff hp]⟩
  · rw [hasBareSections_iff hp]
    exact ⟨congrArg categorySections, fun hsame => by rw [hsame]⟩

end Read

/-- A policy with a section whose name has an asterisk apart from those in front. -/
def starredSections : Value :=
  .map [("category_sections", .map [("x", .list [.text "** * a"])])]

theorem exists_starredSections : ∃ p q r, ofValue starredSections = .ok p ∧
    p.withOverrides [("max_call_depth", .int 5)] = .ok q ∧ p.withOverrides [] = .ok r ∧
    p.sectionsOf "x" = ["* a"] ∧ q.sectionsOf "x" = ["a"] ∧ r.sectionsOf "x" = ["a"] := by
  have hrun : ((ofValue starredSections).value?.bind fun p =>
      (p.withOverrides [("max_call_depth", .int 5)]).value?.bind fun q =>
        (p.withOverrides []).value?.map fun r =>
          (p.sectionsOf "x", q.sectionsOf "x", r.sectionsOf "x")) =
      some (["* a"], ["a"], ["a"]) := by
    decide +kernel
  obtain ⟨p, hp, hrun⟩ := Option.bind_eq_some_iff.1 hrun
  obtain ⟨q, hq, hrun⟩ := Option.bind_eq_some_iff.1 hrun
  obtain ⟨r, hr, hnames⟩ := Option.map_eq_some_iff.1 hrun
  rw [Reading.value?_eq_some_iff] at hp hq hr
  simp only [Prod.mk.injEq] at hnames
  exact ⟨p, q, r, hp, hq, hr, hnames⟩

theorem categorySections_ne_of_sectionsOf_ne {p q : Policy} (category : String)
    (h : q.sectionsOf category ≠ p.sectionsOf category) :
    q.categorySections ≠ p.categorySections :=
  fun hsame => h (by rw [sectionsOf, hsame, sectionsOf])

/-- Overriding another field, or none, takes an asterisk off the name of a section. -/
theorem exists_withOverrides_ne : ∃ p q r, ofValue starredSections = .ok p ∧
    p.withOverrides [("max_call_depth", .int 5)] = .ok q ∧ p.withOverrides [] = .ok r ∧
    p.sectionsOf "x" = ["* a"] ∧ q.sectionsOf "x" = ["a"] ∧
    q.categorySections ≠ p.categorySections ∧ r ≠ p := by
  obtain ⟨p, q, r, hp, hq, hr, hold, hnew, hagain⟩ := exists_starredSections
  have hchanged : q.categorySections ≠ p.categorySections :=
    categorySections_ne_of_sectionsOf_ne "x" (by rw [hold, hnew]; decide)
  have hreread : r.categorySections ≠ p.categorySections :=
    categorySections_ne_of_sectionsOf_ne "x" (by rw [hold, hagain]; decide)
  exact ⟨p, q, r, hp, hq, hr, hold, hnew, hchanged, fun hsame => hreread (by rw [hsame])⟩

theorem withOverrides_frame_starredSections : ∃ p q, ofValue starredSections = .ok p ∧
    p.withOverrides [("max_call_depth", .int 5)] = .ok q ∧ q.codeCategories = p.codeCategories ∧
    q.categorySections = p.categorySections.map (·.map bareSection) ∧ ¬ p.HasBareSections := by
  obtain ⟨p, q, -, hp, hq, -, hold, hnew, -⟩ := exists_starredSections
  obtain ⟨hfields, hsections, -⟩ := withOverrides_frame hp hq
  obtain ⟨hagain, hbare⟩ := hsections (by decide)
  have hcodes : q.codeCategories = p.codeCategories :=
    hfields _ (List.mem_of_getElem? (i := 18) rfl) (by decide) (by decide)
  have hchanged : q.categorySections ≠ p.categorySections :=
    categorySections_ne_of_sectionsOf_ne "x" (by rw [hold, hnew]; decide)
  exact ⟨p, q, hp, hq, hcodes, hagain, fun h => hchanged (hbare.2 h)⟩

end Policy

end TaskAudit
