import TaskAudit.Number.Numeral
import TaskAudit.Pattern
import TaskAudit.Text.CharName

/-!
# Tokens of patterns

A pattern is read token by token. A token is a character, or a backslash with the character after
it; what follows an escape may belong to it as well. Every step over tokens returns those that are
left, with the proof that they are no more than it was given.
-/

namespace TaskAudit.Pattern

open Numeral Text

inductive Token where
  | char (c : Char)
  /-- A backslash and the character after it. -/
  | escape (c : Char)
  /-- A backslash with nothing after it. -/
  | cut
  deriving DecidableEq, Repr

def tokens : List Char → List Token
  | [] => []
  | ['\\'] => [.cut]
  | '\\' :: c :: rest => .escape c :: tokens rest
  | c :: rest => .char c :: tokens rest

/-- What is left of some tokens. -/
abbrev Left (ts : List Token) := { rest : List Token // rest.length ≤ ts.length }

namespace Left

variable {t : Token} {ts : List Token}

def all (ts : List Token) : Left ts := ⟨ts, Nat.le_refl _⟩

def tail : Left (t :: ts) := ⟨ts, Nat.le_succ _⟩

def under (left : Left ts) : Left (t :: ts) := ⟨left.1, Nat.le_succ_of_le left.2⟩

def andThen (left : Left ts) (more : Left left.1) : Left ts := ⟨more.1, Nat.le_trans more.2 left.2⟩

end Left

/-! ### Steps over tokens -/

def first? : (ts : List Token) → Option (Token × Left ts)
  | [] => none
  | t :: _ => some (t, .tail)

/-- What is left after a given character. -/
def skip? (c : Char) : (ts : List Token) → Option (Left ts)
  | .char d :: _ => if d = c then some .tail else none
  | _ => none

/-- The characters of a kind in front, but no more of them than some number. -/
def takeUpTo (p : Char → Bool) : Nat → (ts : List Token) → List Char × Left ts
  | n + 1, .char c :: rest =>
    if p c then
      let (taken, left) := takeUpTo p n rest
      (c :: taken, left.under)
    else ([], .all _)
  | _, ts => ([], .all ts)

/-- All characters of a kind in front. -/
def takeRun (p : Char → Bool) (ts : List Token) : List Char × Left ts := takeUpTo p ts.length ts

/-- The characters before a given one, and what is left after it. -/
def takeUntil? (stop : Char) : (ts : List Token) → Option (List Char × Left ts)
  | .char c :: rest =>
    if c = stop then some ([], .tail)
    else (takeUntil? stop rest).map fun (taken, left) => (c :: taken, left.under)
  | _ => none

/-- A name between a given beginning and a given character. -/
def name? (stop : Char) (ts : List Token) : Option (List Char × Left ts) :=
  (takeUntil? stop ts).filter fun (name, _) => !name.isEmpty

/-- What is left after the first of a given character. -/
def dropPast? (stop : Char) : (ts : List Token) → Option (Left ts)
  | [] => none
  | .cut :: _ => none
  | t :: rest =>
    if t = .char stop then some .tail else (dropPast? stop rest).map Left.under

/-! ### Escapes -/

private def valueOf (base : Nat) (digits : List Char) : Nat :=
  valueIn base (digits.filterMap hexDigit?)

private def isHex (c : Char) : Bool := (hexDigit? c).isSome

def isOctal (c : Char) : Bool := '0' ≤ c && c ≤ '7'

/-- A code point in so many hexadecimal digits. -/
private def hex? (width : Nat) (ts : List Token) : Option (Nat × Left ts) :=
  let (digits, left) := takeUpTo isHex width ts
  if digits.length = width then some (valueOf 16 digits, left) else none

/-- A code point of up to three octal digits. -/
def octal? (digits : List Char) : Option Nat :=
  let n := valueOf 8 digits
  if n ≤ 0xFF then some n else none

private def named? (ts : List Token) : Option (Nat × Left ts) := do
  let brace ← skip? '\x7b' ts
  let (name, left) ← name? '\x7d' brace.1
  let code ← charNamed? name
  return (code, brace.andThen left)

def kind? : Char → Option Item
  | 'd' => some (.kind .digit false)
  | 'D' => some (.kind .digit true)
  | 's' => some (.kind .blank false)
  | 'S' => some (.kind .blank true)
  | 'w' => some (.kind .word false)
  | 'W' => some (.kind .word true)
  | _ => none

/-- The code point that an escape writes in a set and outside one. Letters and digits that write
none are refused. -/
def code? (c : Char) (ts : List Token) : Option (Nat × Left ts) :=
  match c with
  | 'x' => hex? 2 ts
  | 'u' => hex? 4 ts
  | 'U' => (hex? 8 ts).filter fun (code, _) => code ≤ 0x10FFFF
  | 'N' => named? ts
  | 'a' => some (0x07, .all ts)
  | 'f' => some (0x0C, .all ts)
  | 'n' => some (0x0A, .all ts)
  | 'r' => some (0x0D, .all ts)
  | 't' => some (0x09, .all ts)
  | 'v' => some (0x0B, .all ts)
  | _ => if c.isAlphanum then none else some (c.toNat, .all ts)

/-! ### Sets -/

def member? (t : Token) (ts : List Token) : Option (Item × Left ts) :=
  match t with
  | .cut => none
  | .char c => some (.char c.toNat, .all ts)
  | .escape c =>
    match kind? c with
    | some item => some (item, .all ts)
    | none =>
      if c = 'b' then some (.char 0x08, .all ts)
      else if isOctal c then
        let (more, left) := takeUpTo isOctal 2 ts
        (octal? (c :: more)).map fun code => (.char code, left)
      else (code? c ts).map fun (code, left) => (.char code, left)

/-- A member of a set or the run that starts with it, given its first token. A dash before the
closing bracket is a member and ends the set. -/
def items? (t : Token) (ts : List Token) : Option (List Item × Bool × Left ts) := do
  let (first, left) ← member? t ts
  match skip? '-' left.1 with
  | none => return ([first], false, left)
  | some dash =>
    let (u, more) ← first? dash.1
    let afterDash := left.andThen (dash.andThen more)
    if u = .char ']' then return ([first, .char '-'.toNat], true, afterDash)
    else
      let (last, rest) ← member? u more.1
      match first, last with
      | .char low, .char high =>
        if low ≤ high then return ([.run low high], false, afterDash.andThen rest) else none
      | _, _ => none

/-- The members of a set after those found so far, up to the closing bracket. -/
def members? (found : List Item) (ts : List Token) : Option (List Item × Left ts) :=
  match ts with
  | [] => none
  | t :: rest =>
    if t = .char ']' && !found.isEmpty then some (found, .tail)
    else
      match items? t rest with
      | none => none
      | some (items, true, left) => some (found ++ items, left.under)
      | some (items, false, left) =>
        (members? (found ++ items) left.1).map fun (all, more) => (all, (left.andThen more).under)
termination_by ts.length
decreasing_by exact Nat.lt_succ_of_le left.2

/-- A set after its opening bracket. -/
def set? (m : Mode) (ts : List Token) : Option (Expr × Left ts) :=
  match skip? '^' ts with
  | some left =>
    (members? [] left.1).map fun (items, more) => (.oneOf m true items.eraseDups, left.andThen more)
  | none => (members? [] ts).map fun (items, left) => (.oneOf m false items.eraseDups, left)

end TaskAudit.Pattern
