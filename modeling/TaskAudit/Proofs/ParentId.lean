import TaskAudit.Proofs.IdShape

/-!
# Ids of subtasks and of their parents

An id has one of four shapes at most, and the shape of a subtask's id says where the id of its
parent ends in it. What is read from an id, its code, its number and the category of that number, is
read from the part that the two have in common.
-/

namespace TaskAudit.TaskId

open Text

/-- Two to four capitals, and three or four digits behind them or behind a dash. -/
structure IsStem (dashed : Bool) (stem code digits : List Char) : Prop where
  eq : stem = code ++ (if dashed then ['-'] else []) ++ digits
  isCapital : ∀ c ∈ code, isCapital c = true
  least : 2 ≤ code.length
  most : code.length ≤ 4
  isDigit : ∀ c ∈ digits, isDigit c = true
  three : 3 ≤ digits.length
  four : digits.length ≤ 4

/-- An id of a shape, with the part of it that is in front of the tail. -/
def HasShape (id : String) (shape : Shape) (stem : String) : Prop :=
  (∃ code digits, IsStem shape.isDashed stem.toList code digits) ∧
    ∃ rest, shape.Ends rest ∧ id.toList = stem.toList ++ rest

/-! ### Ids of a shape -/

section Ids

variable {id parent stem : String} {shape : Shape} {h : Head} {dashed : Bool}
  {code digits rest : List Char}

theorem isHead_of_isStem {stem : List Char} (h : IsStem dashed stem code digits)
    (hrest : ∀ c, rest.head? = some c → Text.isDigit c = false) :
    IsHead (stem ++ rest) ⟨code, dashed, digits, rest⟩ := by
  rw [h.eq]
  cases dashed with
  | false => simpa using isHead_append h.isCapital h.least h.most h.isDigit h.three hrest
  | true =>
      exact ⟨rfl, h.isCapital, h.least, h.most, h.isDigit, hrest,
        fun hdash => absurd hdash (by simp)⟩

theorem IsHead.isStem {cs : List Char} (hh : IsHead cs h) (hnumber : h.hasNumber = true) :
    IsStem h.dashed h.id h.code h.digits := by
  rw [Head.hasNumber, Bool.and_eq_true, decide_eq_true_eq, decide_eq_true_eq] at hnumber
  exact ⟨rfl, hh.isCapital, hh.least, hh.most, hh.isDigit, hnumber.1, hnumber.2⟩

theorem hasShape_iff :
    HasShape id shape stem ↔ ∃ h, shape? id = some (shape, h) ∧ stem.toList = h.id := by
  simp only [shape?_eq_some_iff]
  constructor
  · rintro ⟨⟨code, digits, hstem⟩, rest, hends, hid⟩
    refine ⟨⟨code, shape.isDashed, digits, rest⟩, ⟨?_, ?_, rfl, hends⟩, hstem.eq⟩
    · rw [hid]
      exact isHead_of_isStem hstem hends.not_isDigit
    · simp [Head.hasNumber, hstem.three, hstem.four]
  · rintro ⟨h, ⟨hhead, hnumber, hdashed, hends⟩, hstem⟩
    refine ⟨⟨h.code, h.digits, ?_⟩, h.rest, hends, ?_⟩
    · rw [hstem, ← hdashed]
      exact hhead.isStem hnumber
    · rw [hstem]
      exact hhead.eq

theorem HasShape.unique {other : String} {shape' : Shape} (h : HasShape id shape stem)
    (h' : HasShape id shape' other) : shape = shape' ∧ stem = other := by
  obtain ⟨head, hhead, hstem⟩ := hasShape_iff.1 h
  obtain ⟨head', hhead', hother⟩ := hasShape_iff.1 h'
  obtain ⟨rfl, rfl⟩ := Prod.mk.inj (Option.some.inj (hhead.symm.trans hhead'))
  exact ⟨rfl, String.toList_inj.1 (hstem.trans hother.symm)⟩

theorem map_fst_shape?_eq_some_iff :
    (shape? id).map Prod.fst = some shape ↔ ∃ stem, HasShape id shape stem := by
  simp only [hasShape_iff, Option.map_eq_some_iff]
  constructor
  · rintro ⟨⟨_, h⟩, hshape, rfl⟩
    exact ⟨String.ofList h.id, h, hshape, String.toList_ofList⟩
  · rintro ⟨stem, h, hshape, -⟩
    exact ⟨(shape, h), hshape, rfl⟩

/-- All shapes but that of a main id say where the parent's id ends. -/
theorem parent?_eq_some_iff :
    parent? id = some parent ↔ ∃ shape, shape ≠ .dashedMain ∧ HasShape id shape parent := by
  simp only [hasShape_iff]
  have hid : ∀ h : Head, String.ofList h.id = parent ↔ parent.toList = h.id := fun h => by
    rw [← String.toList_inj, String.toList_ofList, eq_comm]
  rw [parent?]
  rcases shape? id with _ | ⟨found, h⟩
  · simp
  · have hfound : (∃ shape, shape ≠ .dashedMain ∧ ∃ h', some (found, h) = some (shape, h') ∧
        parent.toList = h'.id) ↔ found ≠ .dashedMain ∧ parent.toList = h.id := by
      constructor
      · rintro ⟨shape, hne, h', heq, hparent⟩
        obtain ⟨rfl, rfl⟩ := Prod.mk.inj (Option.some.inj heq)
        exact ⟨hne, hparent⟩
      · rintro ⟨hne, hparent⟩
        exact ⟨found, hne, h, rfl, hparent⟩
    rw [hfound]
    cases found <;> simp [hid]

/-! ### What an id has from its parent -/

theorem IsStem.head?_eq (hstem : IsStem dashed parent.toList code digits)
    (hrest : ∀ c, rest.head? = some c → Text.isDigit c = false)
    (hid : id.toList = parent.toList ++ rest) :
    head? id.toList = some ⟨code, dashed, digits, rest⟩ := by
  rw [hid]
  exact head?_of_isHead (isHead_of_isStem hstem hrest)

theorem IsStem.code?_eq (hstem : IsStem dashed parent.toList code digits)
    (hhead : head? id.toList = some ⟨code, dashed, digits, rest⟩) :
    code? id = some (String.ofList code) := by
  have hne : digits ≠ [] := List.ne_nil_of_length_pos (Nat.lt_of_lt_of_le (by decide) hstem.three)
  simp [code?, hhead, hne]

theorem IsStem.number?_eq (hstem : IsStem dashed parent.toList code digits)
    (hhead : head? id.toList = some ⟨code, dashed, digits, rest⟩) :
    number? id = some (digitsValue digits) := by
  simp only [number?, hhead, Nat.not_lt.2 hstem.three, if_false, List.take_of_length_le hstem.four]

/-- The id of a parent is a plain one or a main id with a dash. -/
theorem IsStem.shape_eq (hstem : IsStem dashed parent.toList code digits)
    (h : HasShape parent shape stem) : shape = .dashedMain := by
  obtain ⟨head, hshape, -⟩ := hasShape_iff.1 h
  obtain ⟨hhead, -, -, hends⟩ := shape?_eq_some_iff.1 hshape
  have hwhole : head? parent.toList = some ⟨code, dashed, digits, []⟩ :=
    hstem.head?_eq (by simp) (List.append_nil _).symm
  obtain rfl := Option.some.inj (hwhole.symm.trans (head?_eq_some_iff.2 hhead))
  exact hends.eq_dashedMain

/-- **What the id of a subtask says.** An id has at most one of the four shapes, and it has a parent
if it has one of those of subtasks. The id of the parent is a beginning of it, not the whole, and
not itself the id of a subtask. Both have the same code, the same number and so the same category,
and are never without. -/
theorem parent?_inherits (id : String) :
    (∀ shape, (shape? id).map Prod.fst = some shape ↔ ∃ stem, HasShape id shape stem) ∧
    (∀ shape shape' stem stem', HasShape id shape stem → HasShape id shape' stem' →
      shape = shape') ∧
    (∀ parent, parent? id = some parent ↔
      ∃ shape, shape ≠ .dashedMain ∧ HasShape id shape parent) ∧
    ∀ parent, parent? id = some parent →
      (parent.toList <+: id.toList ∧ parent ≠ id) ∧
      (∀ shape stem, HasShape parent shape stem → shape = .dashedMain) ∧
      (∃ code, code? id = some code ∧ code? parent = some code) ∧
      (∃ n, number? id = some n ∧ number? parent = some n) ∧
      ∀ policy given given', category? policy id given = category? policy parent given' := by
  refine ⟨fun shape => map_fst_shape?_eq_some_iff, fun _ _ _ _ h h' => (h.unique h').1,
    fun parent => parent?_eq_some_iff, fun parent hparent => ?_⟩
  obtain ⟨shape, hsubtask, ⟨code, digits, hstem⟩, rest, hends, hid⟩ :=
    parent?_eq_some_iff.1 hparent
  have hhead := hstem.head?_eq hends.not_isDigit hid
  have hwhole : head? parent.toList = some ⟨code, shape.isDashed, digits, []⟩ :=
    hstem.head?_eq (by simp) (List.append_nil _).symm
  have hnumber := hstem.number?_eq hhead
  have hnumber' := hstem.number?_eq hwhole
  refine ⟨⟨⟨rest, hid.symm⟩, ?_⟩, fun _ _ => hstem.shape_eq,
    ⟨_, hstem.code?_eq hhead, hstem.code?_eq hwhole⟩, ⟨_, hnumber, hnumber'⟩, fun _ _ _ => ?_⟩
  · rintro rfl
    obtain rfl : rest = [] := by simpa using hid
    exact hsubtask hends.eq_dashedMain
  · rw [category?, category?, hnumber, hnumber']

end Ids

/-- A dash in front of digits of two scripts, and a line feed at the end. -/
def dashedId : String := "AB-\u0660\u0660\u0661\u06f2-\u0667\n"

theorem parent?_inherits_dashedId : parent? dashedId = some "AB-\u0660\u0660\u0661\u06f2" ∧
    (∀ shape stem, HasShape "AB-\u0660\u0660\u0661\u06f2" shape stem → shape = .dashedMain) ∧
    code? "AB-\u0660\u0660\u0661\u06f2" = some "AB" ∧
    number? "AB-\u0660\u0660\u0661\u06f2" = some 12 := by
  have hparent : parent? dashedId = some "AB-\u0660\u0660\u0661\u06f2" := by decide +kernel
  have hcode : code? dashedId = some "AB" := by decide +kernel
  have hnumber : number? dashedId = some 12 := by decide +kernel
  obtain ⟨-, hshape, ⟨code, hid, hcode'⟩, ⟨n, hid', hnumber'⟩, -⟩ :=
    (parent?_inherits dashedId).2.2.2 _ hparent
  obtain rfl := Option.some.inj (hcode.symm.trans hid)
  obtain rfl := Option.some.inj (hnumber.symm.trans hid')
  exact ⟨hparent, hshape, hcode', hnumber'⟩

end TaskAudit.TaskId
