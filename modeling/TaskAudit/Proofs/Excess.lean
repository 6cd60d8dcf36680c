import TaskAudit.Policy.Shape

/-!
# What ends the reading of a policy

Of all fields of a policy only the two patterns can hold more than can be read. If one of them does,
the reading ends with it, whatever is wrong with the other fields; and it ends for nothing else.
-/

namespace TaskAudit

/-! ### Readings that have stopped -/

namespace Reading

variable {α β : Type}

def excess? : Reading α → Option Shape.Excess
  | stopped excess => some excess
  | _ => none

@[simp] theorem excess?_ok (a : α) : (ok a).excess? = none := rfl

@[simp] theorem excess?_fail (fault : Shape.Fault) : (fail fault : Reading α).excess? = none := rfl

@[simp] theorem excess?_failed (problems : List Shape.Problem) :
    (failed problems : Reading α).excess? = none := rfl

@[simp] theorem excess?_ofExcept (x : Except Shape.Fault α) : (ofExcept x).excess? = none := by
  cases x <;> rfl

@[simp] theorem excess?_map (f : α → β) (r : Reading α) : (r.map f).excess? = r.excess? := by
  cases r <;> rfl

@[simp] theorem excess?_fmap (f : α → β) (r : Reading α) : (f <$> r).excess? = r.excess? :=
  excess?_map f r

/-- The first of two readings that stops is the one that counts. -/
@[simp] theorem excess?_seq (f : Reading (α → β)) (r : Reading α) :
    (f <*> r).excess? = f.excess?.or r.excess? := by
  cases f <;> cases r <;> rfl

@[simp] theorem excess?_under (step : Shape.Step) (r : Reading α) :
    (r.under step).excess? = r.excess? := by
  cases r <;> rfl

@[simp] theorem excess?_keeping (rule : α → Option String) (r : Reading α) :
    (r.keeping rule).excess? = r.excess? := by
  cases r with
  | ok a =>
      rw [keeping]
      cases rule a <;> rfl
  | _ => rfl

end Reading

namespace Shape

open Reading

variable {α β : Type} {read : Value → Reading α}

/-! ### Shapes that never stop -/

/-- Every value is read to its end. -/
def Ends (read : Value → Reading α) : Prop := ∀ v, (read v).excess? = none

@[simp] theorem excess?_ofOption (fault : Fault) (x : Option α) :
    (ofOption fault x).excess? = none := by
  cases x <;> rfl

theorem Ends.keeping (h : Ends read) (rule : α → Option String) :
    Ends fun v => (read v).keeping rule := fun v => by
  rw [excess?_keeping]
  exact h v

theorem Ends.map (h : Ends read) (f : α → β) : Ends fun v => (read v).map f := fun v => by
  rw [excess?_map]
  exact h v

theorem Ends.list (h : Ends read) : Ends (list read) := by
  have hmembers : ∀ items index, (members read index items).excess? = none := by
    intro items
    induction items with
    | nil => exact fun _ => rfl
    | cons v more ih =>
        intro index
        rw [members, excess?_seq, excess?_fmap, excess?_under, h v, ih]
        rfl
  intro v
  cases v with
  | list items => exact hmembers items 0
  | _ => rfl

theorem Ends.pair (h : Ends read) : Ends (pair read) := by
  intro v
  cases v with
  | list items =>
      rcases items with - | ⟨v, - | ⟨w, - | ⟨x, more⟩⟩⟩
      · simp [Shape.pair]
      · simp [Shape.pair, h v]
      · simp [Shape.pair, h v, h w]
      · rfl
  | _ => rfl

/-! ### Fields -/

theorem excess?_field (entries : List (String × Value)) (name : String) (default : α) :
    (field entries name (.ok default) read).excess? =
      (Catalog.get? name entries).bind fun v => (read v).excess? := by
  rw [field, excess?_under]
  cases Catalog.get? name entries <;> rfl

theorem Ends.field (h : Ends read) (entries : List (String × Value)) (name : String) (default : α) :
    (field entries name (.ok default) read).excess? = none := by
  rw [excess?_field]
  cases Catalog.get? name entries with
  | none => rfl
  | some v => exact h v

/-- What reading a pattern meets when it holds more than can be read. -/
def Excess.fault : Excess → Pattern.Fault
  | repetition => .oversized
  | depth => .deep

end Shape

namespace Policy

open Reading Shape

/-- The number of times is too large by one. -/
example : (ofValue (.map [("rating_regex", .text "([1-5]\x7b4294967295\x7d)?")])).excess? =
    some .repetition := by
  decide +kernel

end Policy

end TaskAudit
