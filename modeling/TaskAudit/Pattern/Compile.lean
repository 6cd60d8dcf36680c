import TaskAudit.Pattern.Token
import TaskAudit.Text.Identifier
import TaskAudit.Value

/-!
# Reading patterns

The notation of patterns, read in one pass. What is open stands on a stack of levels, one for each
group that is not closed yet, and every token changes the topmost one, opens another or closes it.
Where reading fails, it tells a malformed pattern from the three other causes: flags that exclude
each other, a repetition of too many times, and groups too deep inside each other.
-/

namespace TaskAudit.Pattern

open Numeral Text

inductive Fault where
  | malformed
  /-- The pattern breaks a rule beside its notation. -/
  | broken (rule : String)
  /-- A repetition of more times than are counted. -/
  | oversized
  /-- Expressions too deep inside each other. -/
  | deep
  deriving DecidableEq, Repr

/-- How many calls deep an expression may be read, measured and written. -/
def maxDepth : Nat := 978

/-- One more than how often anything can be repeated. -/
def maxRepeat : Nat := 4294967295

def maxGroups : Nat := 1073741823

/-- The greatest width that can be looked behind. -/
def maxBehind : Nat := 4294967295

/-! ### Widths -/

namespace Width

def zero : Width := ⟨0, some 0⟩

def one : Width := ⟨1, some 1⟩

def add (v w : Width) : Width := ⟨v.least + w.least, v.most.bind fun m => w.most.map (m + ·)⟩

def union (v w : Width) : Width :=
  ⟨min v.least w.least, v.most.bind fun m => w.most.map (max m ·)⟩

/-- Nothing repeated without end is still nothing, and anything repeated no time is. -/
def times (w : Width) (least : Nat) (most : Option Nat) : Width where
  least := w.least * least
  most := if w.most = some 0 || most = some 0 then some 0
    else w.most.bind fun m => most.map (m * ·)

end Width

def Expr.width : Expr → Width
  | empty | anchor _ | ahead _ _ | behind _ _ _ => .zero
  | any _ | oneOf _ _ _ => .one
  | seq first second => first.width.add second.width
  | alt left right => left.width.union right.width
  | rep _ body least most => body.width.times least most
  | group _ body | atomic body => body.width
  | again _ _ width => width
  | either _ yes no => yes.width.union no.width

/-! ### Flags -/

inductive Flag where
  | ascii
  | anyCase
  | multiline
  | dotAll
  | unicode
  | verbose
  /-- Forbids repetitions. -/
  | template
  deriving DecidableEq, Repr

def Flag.ofChar? : Char → Option Flag
  | 'a' => some ascii
  | 'i' => some anyCase
  | 'm' => some multiline
  | 's' => some dotAll
  | 'u' => some unicode
  | 'x' => some verbose
  | 't' => some template
  | _ => none

/-- Flags switched on and off. -/
structure Change where
  on : List Flag
  off : List Flag

/-- Flags in front of a character, and what is left after it. -/
private def takeFlags (ts : List Token) : List Flag × Left ts :=
  let (letters, left) := takeRun (fun c => (Flag.ofChar? c).isSome) ts
  (letters.filterMap Flag.ofChar?, left)

/-- Flags for all of the pattern, after a bracket and a question mark. -/
def flags? (ts : List Token) : Option (List Flag × Left ts) := do
  let (on, left) := takeFlags ts
  let close ← skip? ')' left.1
  if on.isEmpty || (on.contains .ascii && on.contains .unicode) then none
  else return (on, left.andThen close)

/-- Flags for a group, after its bracket and a question mark. -/
def change? (ts : List Token) : Option (Change × Left ts) := do
  let (on, left) := takeFlags ts
  if on.contains .template || (on.contains .ascii && on.contains .unicode) then none
  match skip? ':' left.1 with
  | some colon => return (⟨on, []⟩, left.andThen colon)
  | none =>
    let minus ← skip? '-' left.1
    let (off, more) := takeFlags minus.1
    let colon ← skip? ':' more.1
    if off.isEmpty || off.any (fun flag => on.contains flag ||
        [.ascii, .unicode, .template].contains flag) then none
    else return (⟨on, off⟩, left.andThen (minus.andThen (more.andThen colon)))

structure Flags where
  mode : Mode
  multiline : Bool
  dotAll : Bool
  verbose : Bool
  deriving DecidableEq, Repr

namespace Flags

def none : Flags := ⟨⟨false, false⟩, false, false, false⟩

def apply (f : Flags) (change : Change) : Flags :=
  let after (old : Bool) (flag : Flag) : Bool :=
    (old || change.on.contains flag) && !change.off.contains flag
  let ascii := if change.on.contains .unicode then false
    else f.mode.ascii || change.on.contains .ascii
  { mode := ⟨ascii, after f.mode.anyCase .anyCase⟩
    multiline := after f.multiline .multiline
    dotAll := after f.dotAll .dotAll
    verbose := after f.verbose .verbose }

end Flags

/-! ### Pieces -/

/-- A part of an expression. Measuring and writing it take calls inside each other, and writing it
may fail after some. -/
structure Piece where
  expr : Expr
  /-- Whether a repetition may follow. -/
  repeatable : Bool
  measuring : Nat
  writing : Nat
  isBad : Bool
  deriving Repr

namespace Piece

def leaf (expr : Expr) : Piece :=
  { expr, repeatable := true, measuring := 0, writing := 0, isBad := false }

def place (a : Anchor) : Piece := { leaf (.anchor a) with repeatable := false }

/-- Two pieces of which the first is written before the second. -/
private def both (expr : Expr) (p q : Piece) : Piece where
  expr
  repeatable := true
  measuring := max p.measuring q.measuring
  writing := if p.isBad then p.writing else max p.writing q.writing
  isBad := p.isBad || q.isBad

def followedBy (p q : Piece) : Piece :=
  match q.expr with
  | .empty => both p.expr p q
  | e => both (.seq p.expr e) p q

def or (p q : Piece) : Piece := both (.alt p.expr q.expr) p q

/-- A piece with another call around it. -/
def within (p : Piece) (expr : Expr) : Piece :=
  { p with expr, repeatable := true, measuring := p.measuring + 1, writing := p.writing + 1 }

def captured (p : Piece) (index : Nat) : Piece :=
  { p.within (.group index p.expr) with measuring := 1 }

def ahead (p : Piece) (negated : Bool) : Piece :=
  { p.within (.ahead negated p.expr) with measuring := 0 }

/-- Looking behind takes a single width. -/
def behind (p : Piece) (negated : Bool) : Piece :=
  let width := p.expr.width
  let looked := { p.within (.behind negated width.least p.expr) with measuring := 0 }
  if width.least ≤ maxBehind && width.most = some width.least then
    { looked with writing := max (p.measuring + 1) looked.writing }
  else { looked with writing := p.measuring + 1, isBad := true }

def choice (yes no : Piece) (index : Nat) : Piece :=
  let p := both .empty yes no
  p.within (.either index yes.expr no.expr)

def repeated (p : Piece) (greed : Greed) (least : Nat) (most : Option Nat) (forbidden : Bool) :
    Piece :=
  let whole := { p.within (.rep greed p.expr least most) with repeatable := false }
  if forbidden then { whole with writing := 0, isBad := true } else whole

/-- Pieces one after the other, given backwards. -/
def joined : List Piece → Piece
  | [] => leaf .empty
  | last :: before =>
    before.foldl (fun later p => p.followedBy later) { last with repeatable := true }

end Piece

/-! ### Levels -/

/-- What a level is closed to. -/
inductive Opening where
  | whole
  | plain
  /-- A group with flags of its own. -/
  | flagged
  | capture (index : Nat)
  | atomic
  | ahead (negated : Bool)
  /-- A look behind, with the groups that the look behind around it may refer to. -/
  | behind (negated : Bool) (outer : Option Nat)
  | choice (index : Nat)
  /-- The second half of a choice, after what the first half was read to. -/
  | otherwise (index : Nat) (yes : Piece)

structure Level where
  opening : Opening
  flags : Flags
  /-- The calls inside each other that it takes to get here. -/
  depth : Nat
  /-- Backwards, as is the sequence. -/
  alternatives : List Piece
  sequence : List Piece

namespace Level

def opened (opening : Opening) (flags : Flags) (depth : Nat) : Level :=
  { opening, flags, depth, alternatives := [], sequence := [] }

def add (level : Level) (p : Piece) : Level := { level with sequence := p :: level.sequence }

def body (level : Level) : Piece :=
  let last := Piece.joined level.sequence
  if level.alternatives.isEmpty then last
  else
    let all := level.alternatives.foldl (fun later p => p.or later) last
    all.within all.expr

end Level

structure Reader where
  level : Level
  outer : List Level
  /-- The widths of the groups so far, none for one that is still open. -/
  widths : List (Option Width)
  names : List (List Char × Nat)
  /-- In a look behind, how many groups there were before it. -/
  behind : Option Nat
  /-- The groups that are asked for by their number before it is known that there are so many. -/
  asked : List Nat
  /-- The flags for all of the pattern. -/
  given : List Flag
  /-- The calls inside each other that the last step took. -/
  calls : Nat

namespace Reader

def start : Reader where
  level := .opened .whole .none 0
  outer := []
  widths := []
  names := []
  behind := none
  asked := []
  given := []
  calls := 0

variable (r : Reader)

def mode : Mode := r.level.flags.mode

def add (p : Piece) : Reader := { r with level := r.level.add p }

/-- Another level inside, so many calls deeper. -/
def inside (opening : Opening) (flags : Flags) (calls : Nat) : Reader :=
  let depth := r.level.depth + calls
  { r with level := .opened opening flags depth, outer := r.level :: r.outer, calls := depth }

/-- The width of a group that is closed and that may be referred to. -/
def refer? (index : Nat) : Option Width :=
  if index = 0 || r.behind.any (· < index) then none else (r.widths[index - 1]?).join

def excludes : Bool := r.given.contains .ascii && r.given.contains .unicode

/-! ### Escapes and references -/

private def again? (index : Nat) : Option Reader :=
  (r.refer? index).map fun width => r.add (.leaf (.again r.mode index width))

private def addCode (code : Nat) : Reader := r.add (.leaf (.oneOf r.mode false [.char code]))

/-- A number after a backslash: a group, or a code point if there are three octal digits. -/
private def number? (c : Char) (ts : List Token) : Option (Reader × Left ts) :=
  let (second, left) := takeUpTo Char.isDigit 1 ts
  let (third, more) := takeUpTo isOctal 1 left.1
  let digits := c :: second
  if digits.all isOctal && !second.isEmpty && !third.isEmpty then
    (octal? (digits ++ third)).map fun code => (r.addCode code, left.andThen more)
  else do
    let r ← r.again? (value (digits.filterMap asciiDigit?))
    return (r, left)

def escape? (c : Char) (ts : List Token) : Option (Reader × Left ts) :=
  let placed (a : Anchor) : Option (Reader × Left ts) := some (r.add (.place a), .all ts)
  match c with
  | 'A' => placed .start
  | 'Z' => placed .stop
  | 'b' => placed (.edge r.mode.ascii false)
  | 'B' => placed (.edge r.mode.ascii true)
  | '0' =>
    let (more, left) := takeUpTo isOctal 2 ts
    (octal? more).map fun code => (r.addCode code, left)
  | _ =>
    match kind? c with
    | some item => some (r.add (.leaf (.oneOf r.mode false [item])), .all ts)
    | none =>
      if c.isDigit then r.number? c ts
      else (code? c ts).map fun (code, left) => (r.addCode code, left)

/-! ### Repetitions -/

/-- A bound between braces; none are written by no digits. -/
private def bound (digits : List Char) : Except Fault (Option Nat) :=
  let n := value (digits.filterMap asciiDigit?)
  if digits.isEmpty then .ok none
  else if Value.maxIntegerDigits < digits.length then
    .error (.broken (Value.longIntegerText digits.length))
  else if maxRepeat ≤ n then .error .oversized
  else .ok (some n)

/-- The bounds of a repetition, after an opening brace. Without them the brace is a character. -/
private def bounds? (ts : List Token) : Except Fault (Option (Nat × Option Nat × Left ts)) :=
  let (low, afterLow) := takeRun Char.isDigit ts
  let comma := skip? ',' afterLow.1
  let (high, left) : List Char × Left ts :=
    match comma with
    | some comma =>
      let (high, more) := takeRun Char.isDigit comma.1
      (high, afterLow.andThen (comma.andThen more))
    | none => (low, afterLow)
  match skip? '\x7d' left.1 with
  | none => .ok none
  | some close =>
    if low.isEmpty && comma.isNone then .ok none
    else if close.1.head? = some .cut then .error .malformed
    else do
      let least := (← bound low).getD 0
      let most ← bound high
      if most.any (· < least) then throw .malformed
      return some (least, most, left.andThen close)

/-- Repeats the last piece. -/
private def repeat? (least : Nat) (most : Option Nat) (ts : List Token) :
    Option (Reader × Left ts) :=
  match r.level.sequence with
  | [] => none
  | p :: before =>
    let repeated (greed : Greed) : Reader :=
      let whole := p.repeated greed least most (r.given.contains .template)
      { r with level := { r.level with sequence := whole :: before } }
    if !p.repeatable then none
    else
      match skip? '?' ts, skip? '+' ts with
      | some left, _ => some (repeated .lazy, left)
      | none, some left => some (repeated .possessive, left)
      | none, none => some (repeated .greedy, .all ts)

/-! ### Groups -/

/-- A group that is captured, with or without a name. -/
private def capture? (name : Option (List Char)) : Option Reader :=
  let index := r.widths.length + 1
  let opened := { r.inside (.capture index) r.level.flags 2 with widths := r.widths ++ [none] }
  if maxGroups ≤ index then none
  else
    match name with
    | none => some opened
    | some name =>
      if (r.names.lookup name).isSome then none
      else some { opened with names := (name, index) :: r.names }

/-- The number of a group, written freely: blanks around it, a plus sign, digits of any script and
underscores between them. -/
private def groupNumber? (cs : List Char) : Option Nat := do
  let digits ← joinGroups digitValue? (match trim cs with
    | '+' :: rest => rest
    | rest => rest)
  match takeDigits digitValue? digits with
  | ([], _) => none
  | (digits, []) =>
    let n := value digits
    if digits.length ≤ Value.maxIntegerDigits && 0 < n && n < maxGroups then some n else none
  | _ => none

/-- A choice between two expressions by a group, which is given by its name or by its number. -/
private def choice? (name : List Char) : Option Reader :=
  let opened (r : Reader) (index : Nat) : Option Reader :=
    if r.behind.isSome && (r.refer? index).isNone then none
    else some (r.inside (.choice index) r.level.flags 1)
  if isIdentifier name then (r.names.lookup name).bind (opened r)
  else do
    let index ← groupNumber? name
    opened { r with asked := index :: r.asked } index

private def lookBehind (negated : Bool) : Reader :=
  { r.inside (.behind negated r.behind) r.level.flags 2 with
    behind := r.behind.or (some r.widths.length) }

/-- An extension, after a bracket and a question mark. -/
private def extension? (ts : List Token) : Option (Reader × Left ts) :=
  let level := r.level
  match ts with
  | .char 'P' :: .char '<' :: rest => do
    let (name, left) ← name? '>' rest
    if !isIdentifier name then none
    return (← r.capture? name, left.under.under)
  | .char 'P' :: .char '=' :: rest => do
    let (name, left) ← name? ')' rest
    if !isIdentifier name then none
    return (← r.again? (← r.names.lookup name), left.under.under)
  | .char '#' :: rest => (dropPast? ')' rest).map fun left => (r, left.under)
  | .char '=' :: _ => some (r.inside (.ahead false) level.flags 2, .tail)
  | .char '!' :: _ => some (r.inside (.ahead true) level.flags 2, .tail)
  | .char '<' :: .char '=' :: _ => some (r.lookBehind false, Left.tail.under)
  | .char '<' :: .char '!' :: _ => some (r.lookBehind true, Left.tail.under)
  | .char '>' :: _ => some (r.inside .atomic level.flags 2, .tail)
  | .char '(' :: rest => do
    let (name, left) ← name? ')' rest
    return (← r.choice? name, left.under)
  | ts =>
    match flags? ts with
    | some (on, left) =>
      -- Only comments and other flags may stand before flags for all of the pattern.
      if r.outer.isEmpty && level.alternatives.isEmpty && level.sequence.isEmpty then
        some ({ r with
          level := { level with flags := level.flags.apply ⟨on, []⟩ }
          given := r.given ++ on }, left)
      else none
    | none => do
      let (change, left) ← change? ts
      let opening := if change.on.isEmpty && change.off.isEmpty then .plain else .flagged
      return (r.inside opening (level.flags.apply change) 2, left)

private def bracket? (ts : List Token) : Option (Reader × Left ts) :=
  match skip? '?' ts with
  | some mark => (r.extension? mark.1).map fun (r, left) => (r, mark.andThen left)
  | none => (r.capture? none).map fun r => (r, .all ts)

private def bar? : Option Reader :=
  let level := r.level
  match level.opening with
  | .otherwise _ _ => none
  | .choice index =>
    let yes := Piece.joined level.sequence
    some { r with level := { level with opening := .otherwise index yes, sequence := [] } }
  | _ => some { r with level := { level with
      alternatives := Piece.joined level.sequence :: level.alternatives
      sequence := [] } }

/-- Closes the topmost level. A group that is captured is measured at once. -/
private def close : Except Fault Reader :=
  match r.outer with
  | [] =>
    .error (if r.excludes then .broken "ASCII and UNICODE flags are incompatible" else .malformed)
  | parent :: outer =>
    let body := r.level.body
    let back (p : Piece) : Reader := { r with level := parent.add p, outer, calls := parent.depth }
    .ok (match r.level.opening with
      | .whole | .plain => back body
      | .flagged => back (body.within body.expr)
      | .capture index =>
        { back (body.captured index) with
          widths := r.widths.set (index - 1) (some body.expr.width)
          calls := parent.depth + body.measuring }
      | .atomic => back (body.within (.atomic body.expr))
      | .ahead negated => back (body.ahead negated)
      | .behind negated behind => { back (body.behind negated) with behind }
      | .choice index => back (.choice body (.leaf .empty) index)
      | .otherwise index yes => back (.choice yes body index))

/-! ### All tokens -/

private def ofOption {α : Type} (x : Option α) : Except Fault α :=
  match x with
  | some a => .ok a
  | none => .error .malformed

private def isSkipped (c : Char) : Bool := c = ' ' || (9 ≤ c.toNat && c.toNat ≤ 13)

/-- What is left after a remark up to the end of its line. -/
private def dropRemark (ts : List Token) : Left ts :=
  (dropPast? '\n' ts).getD ⟨ts.filter (· = .cut), List.length_filter_le _ _⟩

/-- Reads a character and what belongs to it. -/
private def char (c : Char) (ts : List Token) : Except Fault (Reader × Left ts) :=
  let flags := r.level.flags
  let stay (r : Reader) : Except Fault (Reader × Left ts) := .ok (r, .all ts)
  if flags.verbose && isSkipped c then stay r
  else if flags.verbose && c = '#' then .ok (r, dropRemark ts)
  else
    match c with
    | '[' => ofOption ((set? r.mode ts).map fun (e, left) => (r.add (.leaf e), left))
    | '(' => ofOption (r.bracket? ts)
    | ')' => r.close.map fun r => (r, .all ts)
    | '|' => ofOption (r.bar?.map fun r => (r, .all ts))
    | '.' => stay (r.add (.leaf (.any flags.dotAll)))
    | '^' => stay (r.add (.place (if flags.multiline then .lineStart else .start)))
    | '$' => stay (r.add (.place (if flags.multiline then .lineFinish else .finish)))
    | '*' => ofOption (r.repeat? 0 none ts)
    | '+' => ofOption (r.repeat? 1 none ts)
    | '?' => ofOption (r.repeat? 0 (some 1) ts)
    | '\x7b' => do
      match ← bounds? ts with
      | none => return (r.addCode c.toNat, .all ts)
      | some (least, most, left) =>
        let (r, more) ← ofOption (r.repeat? least most left.1)
        return (r, left.andThen more)
    | _ => stay (r.addCode c.toNat)

/-- Reads a token and what belongs to it. -/
def step (t : Token) (ts : List Token) : Except Fault (Reader × Left ts) :=
  match t with
  | .cut => .error .malformed
  | .escape c => ofOption (r.escape? c ts)
  | .char c => r.char c ts

/-- Reads all tokens. A backslash at the end is found as soon as what is before it is read. -/
def read (r : Reader) (ts : List Token) : Except Fault Reader :=
  match ts with
  | [] => .ok r
  | t :: rest =>
    match r.step t rest with
    | .error fault => .error fault
    | .ok (r, left) =>
      if left.1.head? = some .cut then .error .malformed
      else if maxDepth < r.calls then .error .deep
      else read r left.1
termination_by ts.length
decreasing_by exact Nat.lt_succ_of_le left.2

/-- The expression that was read, if it can be written. -/
def finish : Except Fault Expr :=
  let body := r.level.body
  if !r.outer.isEmpty then .error .malformed
  else if r.excludes then .error (.broken "ASCII and UNICODE flags are incompatible")
  else if r.asked.any (r.widths.length < ·) then .error .malformed
  else if maxDepth < max body.measuring body.writing then .error .deep
  else if body.isBad then .error .malformed
  else .ok body.expr

end Reader

private def halfEscape (code : Nat) : List Char := '\\' :: 'u' :: Nat.toDigits 16 code

/-- A pattern given by its code points. Half of a surrogate pair stands for itself, with or without
a backslash before it, and an escape is written for it. -/
def spelled : List Nat → List Char
  | [] => []
  | 0x5C :: code :: rest =>
    if code.isValidChar then '\\' :: Char.ofNat code :: spelled rest
    else halfEscape code ++ spelled rest
  | code :: rest =>
    if code.isValidChar then Char.ofNat code :: spelled rest
    else halfEscape code ++ spelled rest

def compile (source : String) : Except Fault Pattern := do
  let r ← Reader.start.read (tokens source.toList)
  return { source, expr := ← r.finish }

end TaskAudit.Pattern
