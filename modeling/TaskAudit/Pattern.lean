import TaskAudit.Text.Blank
import TaskAudit.Text.Digit
import TaskAudit.Text.Fold
import TaskAudit.Text.Word

/-!
# Patterns

The regular expressions of a policy. A pattern accepts a text when it describes some beginning of
it. The search for that beginning tries the ways to go on in their order of preference and takes
back what does not lead to an end. The order matters where something is settled for good: in an
atomic group, in a look ahead or behind, and in a repetition that gives nothing back.
-/

namespace TaskAudit

open Text

namespace Pattern

/-- How characters are told apart. -/
structure Mode where
  /-- Digits, blanks, words and case are those of ASCII. -/
  ascii : Bool
  anyCase : Bool
  deriving DecidableEq, Repr, Inhabited

inductive Kind where
  | digit
  | blank
  | word
  deriving DecidableEq, Repr

/-- A member of a set of characters. Characters are given by code points, as half of a surrogate
pair can be written too. -/
inductive Item where
  | char (code : Nat)
  | run (first last : Nat)
  | kind (kind : Kind) (negated : Bool)
  deriving DecidableEq, Repr

inductive Anchor where
  | start
  /-- The start of the text, or behind a line feed. -/
  | lineStart
  /-- The end of the text, or before a line feed that ends it. -/
  | finish
  /-- The end of the text, or before a line feed. -/
  | lineFinish
  | stop
  /-- Between a character of a word and one of none. -/
  | edge (ascii negated : Bool)
  deriving DecidableEq, Repr

/-- In which order a repetition tries its counts. -/
inductive Greed where
  | greedy
  | lazy
  /-- As often as it can, and each time in the first way there is. -/
  | possessive
  deriving DecidableEq, Repr

/-- The least and the greatest length of what an expression matches. -/
structure Width where
  least : Nat
  most : Option Nat
  deriving DecidableEq, Repr, Inhabited

inductive Expr where
  | empty
  | any (lineFeed : Bool)
  | oneOf (mode : Mode) (negated : Bool) (items : List Item)
  | anchor (a : Anchor)
  | seq (first second : Expr)
  | alt (left right : Expr)
  | rep (greed : Greed) (body : Expr) (least : Nat) (most : Option Nat)
  | group (index : Nat) (body : Expr)
  /-- What a group matched, whose width is known. -/
  | again (mode : Mode) (index : Nat) (width : Width)
  | ahead (negated : Bool) (body : Expr)
  | behind (negated : Bool) (width : Nat) (body : Expr)
  | atomic (body : Expr)
  /-- One expression if a group has matched, another one if not. -/
  | either (index : Nat) (yes no : Expr)
  deriving DecidableEq, Repr, Inhabited

/-! ### Characters -/

def Kind.holds (ascii : Bool) (c : Char) : Kind → Bool
  | digit => if ascii then c.isDigit else isDigit c
  | blank => if ascii then c = ' ' || (9 ≤ c.toNat && c.toNat ≤ 13) else isBlank c
  | word => if ascii then c = '_' || c.isAlphanum else isWordChar c

private def isAsciiCapital (n : Nat) : Bool := 65 ≤ n && n ≤ 90

namespace Mode

def lower (m : Mode) (n : Nat) : Nat :=
  if !m.anyCase then n
  else if m.ascii then if isAsciiCapital n then n + 32 else n
  else lowerCode n

/-- The lower-case forms that count as a given one. -/
def alikes (m : Mode) (n : Nat) : List Nat :=
  if m.anyCase && !m.ascii then Text.alikes n else [n]

/-- The code points with a given lower case. -/
def forms (m : Mode) (n : Nat) : List Nat :=
  if !m.anyCase then [n]
  else if m.ascii then if isAsciiCapital (n - 32) then [n, n - 32] else [n]
  else n :: capitalsOf n

def same (m : Mode) (code : Nat) (c : Char) : Bool :=
  (m.alikes (m.lower code)).contains (m.lower c.toNat)

/-- Whether a character or another form of it is in a run. Beyond the basic plane a run is compared
by the lower and the upper case of a character. -/
def inRun (m : Mode) (first last : Nat) (c : Char) : Bool :=
  let within (last n : Nat) : Bool := first ≤ n && n ≤ last
  if !m.anyCase then within last c.toNat
  else
    let n := m.lower c.toNat
    (m.alikes n).any (fun like => (m.forms like).any (within (min last 0xFFFF))) ||
      (0xFFFF < last && (within last n || within last (upperCode n)))

end Mode

/-- Whether a character is a member of a set. One beyond the basic plane is there only if its lower
case is. -/
def Item.holds (m : Mode) (c : Char) : Item → Bool
  | char code => if 0xFFFF < code then m.lower c.toNat == code else m.same code c
  | run first last => m.inRun first last c
  | kind k negated => k.holds m.ascii c != negated

/-- Whether a character is in a set. A set of one character stands for that character. -/
def inSet (m : Mode) (c : Char) : List Item → Bool
  | [.char code] => m.same code c
  | items => items.any (·.holds m c)

/-! ### Places -/

private def isWordAt (text : Array Char) (ascii : Bool) (i : Nat) : Bool :=
  text[i]?.any fun c => Kind.word.holds ascii c

def Anchor.holds (text : Array Char) (i : Nat) : Anchor → Bool
  | start => i == 0
  | lineStart => i == 0 || text[i - 1]? == some '\n'
  | finish => i == text.size || (i + 1 == text.size && text[i]? == some '\n')
  | lineFinish => i == text.size || text[i]? == some '\n'
  | stop => i == text.size
  | edge ascii negated =>
    let before := 0 < i && isWordAt text ascii (i - 1)
    !text.isEmpty && (before != isWordAt text ascii i) != negated

/-- How far a search has come, and where the groups that matched start and end. -/
structure Spot where
  pos : Nat
  groups : List (Nat × Nat × Nat)
  deriving DecidableEq, Repr

namespace Spot

def start : Spot := ⟨0, []⟩

def goto (s : Spot) (pos : Nat) : Spot := { s with pos }

def group? (s : Spot) (index : Nat) : Option (Nat × Nat) := s.groups.lookup index

/-- A group that started somewhere ends here. -/
def mark (s : Spot) (index start : Nat) : Spot :=
  { s with groups := (index, start, s.pos) :: s.groups.filter (·.1 != index) }

end Spot

/-! ### The search -/

/-- A search goes on with the first of its ways that leads to an end. -/
abbrev Search := Spot → (Spot → Option Spot) → Option Spot

namespace Search

/-- One character of a kind. -/
def one (text : Array Char) (p : Char → Bool) : Search := fun s next =>
  if text[s.pos]?.any p then next (s.goto (s.pos + 1)) else none

/-- A search that does not come back for another way. -/
def settled (f : Search) : Search := fun s next => (f s some).bind next

/-- A search some number of times. -/
def times (f : Search) : Nat → Search
  | 0, s, next => next s
  | n + 1, s, next => f s fun t => times f n t next

/-- A search up to some number of times, the last of which started at a place. It is not repeated
where it has taken nothing. -/
def upTo (f : Search) (greed : Greed) : Nat → Option Nat → Search
  | 0, _, s, next => next s
  | n + 1, last, s, next =>
    if last = some s.pos then next s
    else
      match greed with
      | .greedy => (f s fun t => upTo f greed n (some s.pos) t next) <|> next s
      | .lazy => next s <|> f s fun t => upTo f greed n (some s.pos) t next
      | .possessive =>
        match f s some with
        | some t => upTo f greed n (some s.pos) t next
        | none => next s

/-- The characters that a group matched, once more. -/
def again (text : Array Char) (m : Mode) (index : Nat) : Search := fun s next =>
  match s.group? index with
  | none => none
  | some (first, last) =>
    let lowered (i : Nat) := text[i]?.map fun c => m.lower c.toNat
    let size := last - first
    if s.pos + size ≤ text.size &&
        (List.range size).all (fun i => lowered (first + i) == lowered (s.pos + i))
    then next (s.goto (s.pos + size))
    else none

end Search

open Search

/-- The search for an expression in a text. -/
def Expr.search (text : Array Char) : Expr → Search
  | empty, s, next => next s
  | any lineFeed, s, next => one text (fun c => lineFeed || c != '\n') s next
  | oneOf m negated items, s, next => one text (fun c => inSet m c items != negated) s next
  | anchor a, s, next => if a.holds text s.pos then next s else none
  | seq first second, s, next => first.search text s fun t => second.search text t next
  | alt left right, s, next => left.search text s next <|> right.search text s next
  | rep greed body least most, s, next =>
    let f := if greed = .possessive then settled (body.search text) else body.search text
    -- All but the last of the repetitions take a character.
    let more := match most with
      | some m => m - least
      | none => text.size + 1
    times f least s fun t => upTo f greed more none t next
  | group index body, s, next => body.search text s fun t => next (t.mark index s.pos)
  | again m index _, s, next => Search.again text m index s next
  | ahead negated body, s, next =>
    match body.search text s some with
    | some t => if negated then none else next (t.goto s.pos)
    | none => if negated then next s else none
  | behind negated width body, s, next =>
    match if width ≤ s.pos then body.search text (s.goto (s.pos - width)) some else none with
    | some t => if negated then none else next (t.goto s.pos)
    | none => if negated then next s else none
  | atomic body, s, next => settled (body.search text) s next
  | either index yes no, s, next =>
    if (s.group? index).isSome then yes.search text s next else no.search text s next

end Pattern

/-- A regular expression together with the text it was read from. -/
structure Pattern where
  source : String
  expr : Pattern.Expr
  deriving DecidableEq, Repr, Inhabited

def Pattern.accepts (p : Pattern) (s : String) : Bool :=
  (p.expr.search s.toList.toArray .start some).isSome

end TaskAudit
