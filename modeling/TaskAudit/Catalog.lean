/-!
# Catalogs

A catalog keeps values under distinct names, in the order in which the names were first entered.
Entering a name again replaces its value and leaves its place.
-/

namespace TaskAudit

structure Catalog (α : Type) where
  entries : List (String × α)
  nodup : (entries.map Prod.fst).Nodup

namespace Catalog

variable {α β : Type}

instance [DecidableEq α] : DecidableEq (Catalog α) := fun c d =>
  if h : c.entries = d.entries then isTrue (by cases c; cases d; simp_all)
  else isFalse (fun e => h (e ▸ rfl))

instance [Repr α] : Repr (Catalog α) := ⟨fun c n => reprPrec c.entries n⟩

def empty : Catalog α := ⟨[], List.nodup_nil⟩

instance : Inhabited (Catalog α) := ⟨empty⟩

instance : EmptyCollection (Catalog α) := ⟨empty⟩

def names (c : Catalog α) : List String := c.entries.map Prod.fst

def size (c : Catalog α) : Nat := c.entries.length

def get? (name : String) : List (String × α) → Option α
  | [] => none
  | entry :: rest => if entry.1 = name then some entry.2 else get? name rest

def find? (c : Catalog α) (name : String) : Option α := get? name c.entries

def contains (c : Catalog α) (name : String) : Bool := (c.find? name).isSome

def put (name : String) (value : α) : List (String × α) → List (String × α)
  | [] => [(name, value)]
  | entry :: rest =>
    if entry.1 = name then (name, value) :: rest else entry :: put name value rest

theorem map_fst_put (name : String) (value : α) (entries : List (String × α)) :
    (put name value entries).map Prod.fst =
      if name ∈ entries.map Prod.fst then entries.map Prod.fst
      else entries.map Prod.fst ++ [name] := by
  induction entries with
  | nil => simp [put]
  | cons entry rest ih =>
    by_cases h : entry.1 = name
    · simp [put, h]
    · have h' : ¬ name = entry.1 := fun e => h e.symm
      by_cases hm : name ∈ rest.map Prod.fst
      · rw [if_pos hm] at ih
        simp [put, h, h', ih, hm]
      · rw [if_neg hm] at ih
        simp [put, h, h', ih, hm]

def insert (c : Catalog α) (name : String) (value : α) : Catalog α where
  entries := put name value c.entries
  nodup := by
    rw [map_fst_put]
    split
    · exact c.nodup
    · next h =>
      rw [List.nodup_append]
      refine ⟨c.nodup, by simp, ?_⟩
      rintro x hx y hy rfl
      simp only [List.mem_singleton] at hy
      exact h (hy ▸ hx)

/-- Enters pairs one after the other. -/
def insertAll (c : Catalog α) (pairs : List (String × α)) : Catalog α :=
  pairs.foldl (fun c pair => c.insert pair.1 pair.2) c

def ofPairs (pairs : List (String × α)) : Catalog α := empty.insertAll pairs

def map (f : α → β) (c : Catalog α) : Catalog β where
  entries := c.entries.map fun entry => (entry.1, f entry.2)
  nodup := by simpa [List.map_map, Function.comp_def] using c.nodup

/-- A name is entered, or its value replaced, as a function of the value it had. -/
def update (c : Catalog α) (name : String) (f : Option α → α) : Catalog α :=
  c.insert name (f (c.find? name))

theorem names_insert (c : Catalog α) (name : String) (value : α) :
    (c.insert name value).names = if name ∈ c.names then c.names else c.names ++ [name] :=
  map_fst_put name value c.entries

theorem get?_put (name other : String) (value : α) (entries : List (String × α)) :
    get? other (put name value entries) =
      if other = name then some value else get? other entries := by
  induction entries with
  | nil => simp only [put, get?, eq_comm]
  | cons entry rest ih => grind [put, get?]

theorem find?_insert (c : Catalog α) (name other : String) (value : α) :
    (c.insert name value).find? other = if other = name then some value else c.find? other :=
  get?_put name other value c.entries

theorem get?_append (name : String) (first second : List (String × α)) :
    get? name (first ++ second) = (get? name first).or (get? name second) := by
  induction first with
  | nil => rfl
  | cons entry rest ih =>
      by_cases h : entry.1 = name
      · simp [get?, h]
      · simp [get?, h, ih]

/-- Of several pairs with one name the last counts, and before it what the catalog had. -/
theorem find?_insertAll (c : Catalog α) (pairs : List (String × α)) (name : String) :
    (c.insertAll pairs).find? name = (get? name pairs.reverse).or (c.find? name) := by
  induction pairs generalizing c with
  | nil => rfl
  | cons pair rest ih =>
      have hstep : c.insertAll (pair :: rest) = (c.insert pair.1 pair.2).insertAll rest := rfl
      rw [hstep, ih, find?_insert, List.reverse_cons, get?_append, Option.or_assoc]
      by_cases h : pair.1 = name
      · simp [get?, h]
      · simp [get?, h, Ne.symm h]

theorem find?_ofPairs (pairs : List (String × α)) (name : String) :
    (ofPairs pairs).find? name = get? name pairs.reverse := by
  rw [ofPairs, find?_insertAll]
  exact Option.or_none

theorem mem_of_get?_eq_some {name : String} {value : α} {entries : List (String × α)}
    (h : get? name entries = some value) : (name, value) ∈ entries := by
  induction entries with
  | nil => simp [get?] at h
  | cons entry rest ih =>
      rw [get?] at h
      split at h
      · next hname =>
        rw [← hname, ← Option.some.inj h]
        exact List.mem_cons_self
      · exact List.mem_cons_of_mem _ (ih h)

theorem get?_eq_none_iff {name : String} {entries : List (String × α)} :
    get? name entries = none ↔ name ∉ entries.map Prod.fst := by
  induction entries with
  | nil => simp [get?]
  | cons entry rest ih =>
      rw [get?, List.map_cons, List.mem_cons, not_or, ← ih]
      split
      · next hname => simp [hname]
      · next hname => simp [Ne.symm hname]

theorem get?_eq_some_iff_mem {name : String} {value : α} {entries : List (String × α)}
    (h : (entries.map Prod.fst).Nodup) :
    get? name entries = some value ↔ (name, value) ∈ entries := by
  induction entries with
  | nil => simp [get?]
  | cons entry rest ih =>
      rw [List.map_cons, List.nodup_cons] at h
      by_cases hname : entry.1 = name
      · have hnot : (name, value) ∉ rest := fun hm =>
          h.1 (hname ▸ List.mem_map_of_mem hm)
        rw [get?, if_pos hname, List.mem_cons, Option.some.injEq]
        constructor
        · rintro rfl
          exact Or.inl (by rw [← hname])
        · intro hm
          exact (congrArg Prod.snd (hm.resolve_right hnot)).symm
      · have hne : (name, value) ≠ entry := fun e => hname (by rw [← e])
        rw [get?, if_neg hname, ih h.2, List.mem_cons, or_iff_right hne]

theorem put_eq_append {name : String} {value : α} {entries : List (String × α)}
    (h : name ∉ entries.map Prod.fst) : put name value entries = entries ++ [(name, value)] := by
  induction entries with
  | nil => rfl
  | cons entry rest ih =>
      rw [List.map_cons, List.mem_cons, not_or] at h
      rw [put, if_neg (Ne.symm h.1), ih h.2, List.cons_append]

theorem entries_insertAll (c : Catalog α) {pairs : List (String × α)}
    (h : (c.names ++ pairs.map Prod.fst).Nodup) :
    (c.insertAll pairs).entries = c.entries ++ pairs := by
  induction pairs generalizing c with
  | nil => exact (List.append_nil _).symm
  | cons pair rest ih =>
      have hnew : pair.1 ∉ c.names := fun hmem =>
        (List.nodup_append.1 h).2.2 _ hmem _ List.mem_cons_self rfl
      have hentries : (c.insert pair.1 pair.2).entries = c.entries ++ [pair] := put_eq_append hnew
      have hnames : (c.insert pair.1 pair.2).names = c.names ++ [pair.1] := by
        rw [names_insert, if_neg hnew]
      have hstep : c.insertAll (pair :: rest) = (c.insert pair.1 pair.2).insertAll rest := rfl
      rw [hstep, ih _ (by rw [hnames, List.append_assoc]; exact h), hentries, List.append_assoc]
      rfl

/-- Pairs with distinct names are the entries of their catalog. -/
theorem entries_ofPairs {pairs : List (String × α)} (h : (pairs.map Prod.fst).Nodup) :
    (ofPairs pairs).entries = pairs :=
  entries_insertAll empty h

theorem eq_iff_entries_eq {c d : Catalog α} : c = d ↔ c.entries = d.entries := by
  refine ⟨congrArg entries, fun h => ?_⟩
  cases c
  cases d
  cases h
  rfl

theorem ofPairs_entries (c : Catalog α) : ofPairs c.entries = c :=
  eq_iff_entries_eq.2 (entries_ofPairs c.nodup)

theorem entries_eq_map (c : Catalog α) (otherwise : α) :
    c.entries = c.names.map fun name => (name, (c.find? name).getD otherwise) := by
  rw [names, List.map_map]
  refine (List.map_id c.entries).symm.trans (List.map_congr_left fun entry hentry => ?_)
  have hfound : c.find? entry.1 = some entry.2 := (get?_eq_some_iff_mem c.nodup).2 hentry
  rw [Function.comp_apply, hfound]
  rfl

theorem map_eq_self_iff {f : α → α} {c : Catalog α} :
    c.map f = c ↔ ∀ entry ∈ c.entries, f entry.2 = entry.2 := by
  rw [eq_iff_entries_eq, map]
  conv => lhs; rhs; rw [← List.map_id c.entries]
  rw [List.map_inj_left]
  exact forall_congr' fun entry => imp_congr_right fun _ => by simp [Prod.ext_iff]

end Catalog

end TaskAudit
