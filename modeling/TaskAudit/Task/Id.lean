import TaskAudit.Policy
import TaskAudit.Task
import TaskAudit.Text.Digit
import TaskAudit.Text.Scan

/-!
# Task ids

An id starts with a code of two to four capitals, then digits, with or without a dash between; what
follows the digits makes it the id of a subtask. Each question about an id is asked of its head: the
code, the dash, the longest run of digits, and the rest.
-/

namespace TaskAudit.TaskId

open Text

def isCapital (c : Char) : Bool := 'A' ≤ c && c ≤ 'Z'

def isSmall (c : Char) : Bool := 'a' ≤ c && c ≤ 'z'

structure Head where
  code : List Char
  dashed : Bool
  digits : List Char
  rest : List Char
  deriving DecidableEq, Repr

/-- The head of an id, unless it starts with fewer than two or more than four capitals. -/
def head? (cs : List Char) : Option Head :=
  let code := cs.takeWhile isCapital
  if 2 ≤ code.length ∧ code.length ≤ 4 then
    match cs.dropWhile isCapital with
    | '-' :: tail =>
      some {
        code, dashed := true, digits := tail.takeWhile isDigit, rest := tail.dropWhile isDigit }
    | tail =>
      some {
        code, dashed := false, digits := tail.takeWhile isDigit, rest := tail.dropWhile isDigit }
  else none

theorem length_rest_head? {cs : List Char} {h : Head} (hh : head? cs = some h) :
    h.rest.length ≤ cs.length := by
  have hd (p : Char → Bool) (l : List Char) : (l.dropWhile p).length ≤ l.length :=
    (List.dropWhile_suffix p).length_le
  have h₁ := hd isCapital cs
  simp only [head?, Option.ite_none_right_eq_some] at hh
  obtain ⟨_, hh⟩ := hh
  generalize cs.dropWhile isCapital = afterCode at h₁ hh
  split at hh
  · next tail =>
    have h₂ := hd isDigit tail
    simp only [Option.some.injEq] at hh
    subst hh
    simp only [List.length_cons] at h₁ ⊢
    omega
  · have h₂ := hd isDigit afterCode
    simp only [Option.some.injEq] at hh
    subst hh
    simp only
    omega

/-- Three or four digits, the length of a task number. -/
def Head.hasNumber (h : Head) : Bool := 3 ≤ h.digits.length && h.digits.length ≤ 4

def Head.id (h : Head) : List Char :=
  h.code ++ (if h.dashed then ['-'] else []) ++ h.digits

/-- The end of an id, which a single line feed may follow. -/
def isEnd (cs : List Char) : Bool := cs = [] || cs = ['\n']

/-- A dash and digits up to the end, as in `AB0001-1`. -/
def isNumberedTail : List Char → Bool
  | '-' :: cs => cs.takeWhile isDigit != [] && isEnd (cs.dropWhile isDigit)
  | _ => false

/-- A small letter at the end, as in `AB0001a`. -/
def isLetteredTail : List Char → Bool
  | c :: cs => isSmall c && isEnd cs
  | [] => false

/-- The shapes of ids that say something about a parent. -/
inductive Shape where
  | numbered
  | lettered
  | dashedNumbered
  | dashedMain
  deriving DecidableEq, Repr

def Head.shape? (h : Head) : Option Shape :=
  if h.hasNumber then
    if h.dashed then
      if isNumberedTail h.rest then some .dashedNumbered
      else if isEnd h.rest then some .dashedMain
      else none
    else if isNumberedTail h.rest then some .numbered
    else if isLetteredTail h.rest then some .lettered
    else none
  else none

/-- The shape of an id, if it has one of the four, with its head. -/
def shape? (id : String) : Option (Shape × Head) :=
  (head? id.toList).bind fun h => h.shape?.map (·, h)

/-- Whether an id is that of a numbered subtask. A main id with a dash, `PROJ-0001`, is not. -/
def isNumbered (id : String) : Bool := (shape? id).map Prod.fst = some .numbered

def isDashedMain (id : String) : Bool := (shape? id).map Prod.fst = some .dashedMain

/-- The capitals that an id starts with, when a digit follows them. -/
def code? (id : String) : Option String :=
  match head? id.toList with
  | some h => if h.digits.isEmpty then none else some (String.ofList h.code)
  | none => none

/-- The task number in an id, of four digits at most. -/
def number? (id : String) : Option Nat :=
  match head? id.toList with
  | some h => if h.digits.length < 3 then none else some (digitsValue (h.digits.take 4))
  | none => none

def numberedParent? (id : String) : Option String :=
  match shape? id with
  | some (.numbered, h) => some (String.ofList h.id)
  | _ => none

def parent? (id : String) : Option String :=
  match shape? id with
  | some (.dashedMain, _) => none
  | some (_, h) => some (String.ofList h.id)
  | none => none

/-- The category that the number in an id falls into; an id without a number leaves it open. -/
def category? (policy : Policy) (id : String) (fallback : Option String) : Option String :=
  match number? id with
  | some n => policy.categoryOf? n
  | none => fallback

end TaskAudit.TaskId
