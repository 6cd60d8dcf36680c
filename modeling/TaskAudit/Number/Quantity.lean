import TaskAudit.Number.Decimal

/-!
# Quantities

Numbers as reports show them: whole ones without a point, the others with the digits they need.
-/

namespace TaskAudit

/-- A number as it is written: whole, or with a fraction. -/
inductive Quantity where
  | whole (n : Int)
  | real (x : Binary64)
  deriving DecidableEq, Repr

namespace Quantity

def text : Quantity → String
  | whole n => toString n
  | real x => x.text

/-- A number, as a whole one if it is. -/
def ofNumber (x : Binary64) : Quantity :=
  match x.integer? with
  | some n => whole n
  | none => real x

end Quantity

end TaskAudit
