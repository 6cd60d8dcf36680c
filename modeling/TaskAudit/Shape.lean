import TaskAudit.Number.Numeral
import TaskAudit.Pattern.Compile
import TaskAudit.Value

/-!
# Shapes

Turning dynamic values into typed data. A reading either succeeds or tells every problem it met,
each with the path to the value in question; the members of a list, a map or a record are all read,
whatever became of those before them. Only a value that is more than can be read ends a reading at
once, and then no problem is told.
-/

namespace TaskAudit

namespace Shape

inductive Step where
  | key (name : String)
  | index (i : Nat)
  deriving DecidableEq, Repr

/-- What can be wrong with a value. -/
inductive Fault where
  | notInteger
  | unreadableInteger
  | fractionalInteger
  | oversizedInteger
  | infiniteInteger
  | notNumber
  | unreadableNumber
  | notBool
  | unreadableBool
  | notText
  /-- A text that is not all characters. -/
  | unpairedText
  | notList
  | notMap
  | notPair
  | longPair
  | notChoice
  | notPattern
  | unreadablePattern
  | notRecord
  /-- A record inside too many of its own kind. -/
  | deepRecord
  | absent
  | unknownKey
  /-- A field of a record that never changes. -/
  | fixed
  /-- The value has the right shape and breaks a rule. -/
  | broken (rule : String)
  deriving DecidableEq, Repr

structure Problem where
  path : List Step
  fault : Fault
  deriving DecidableEq, Repr

def Problem.under (step : Step) (p : Problem) : Problem := { p with path := step :: p.path }

/-- What is more than can be read. -/
inductive Excess where
  /-- A pattern with a repetition of more times than are counted. -/
  | repetition
  /-- A pattern with expressions too deep inside each other. -/
  | depth
  deriving DecidableEq, Repr

end Shape

inductive Reading (α : Type) where
  | ok (a : α)
  | failed (problems : List Shape.Problem)
  | stopped (excess : Shape.Excess)
  deriving Repr

namespace Reading

variable {α β : Type}

def fail (fault : Shape.Fault) : Reading α := failed [⟨[], fault⟩]

def ofExcept : Except Shape.Fault α → Reading α
  | .ok a => ok a
  | .error fault => fail fault

/-- The value that was read, or the problems, of which a reading that has stopped tells none. -/
def toExcept : Reading α → Except (List Shape.Problem) α
  | ok a => .ok a
  | failed ps => .error ps
  | stopped _ => .error []

def map (f : α → β) : Reading α → Reading β
  | ok a => ok (f a)
  | failed ps => failed ps
  | stopped excess => stopped excess

/-- Two readings side by side: the problems of both are told, unless one has stopped. -/
def seq (f : Reading (α → β)) (x : Unit → Reading α) : Reading β :=
  match f, x () with
  | stopped excess, _ => stopped excess
  | _, stopped excess => stopped excess
  | ok f, ok a => ok (f a)
  | ok _, failed ps => failed ps
  | failed ps, ok _ => failed ps
  | failed ps, failed more => failed (ps ++ more)

instance : Applicative Reading where
  pure := ok
  map := map
  seq := seq

def under (step : Shape.Step) : Reading α → Reading α
  | ok a => ok a
  | failed ps => failed (ps.map (·.under step))
  | stopped excess => stopped excess

/-- A rule that a value must keep once it has the right shape; it answers what is broken, if
anything. -/
def keeping (rule : α → Option String) : Reading α → Reading α
  | ok a =>
    match rule a with
    | none => ok a
    | some broken => fail (.broken broken)
  | failed ps => failed ps
  | stopped excess => stopped excess

end Reading

namespace Shape

open Text Numeral

variable {α : Type}

def ofOption (fault : Fault) : Option α → Reading α
  | some a => .ok a
  | none => .fail fault

def intOfBool (b : Bool) : Int := if b then 1 else 0

/-- A text without the single underscores inside it, or as it is when they are anywhere else. -/
def dropUnderscores (cs : List Char) : List Char :=
  if cs.head? = some '_' || cs.getLast? = some '_' || (cs.zip cs.tail).contains ('_', '_') then cs
  else cs.filter (· ≠ '_')

/-- Leading zeros, with any underscores among them, are dropped up to the last one before a point or
the end; a minus may follow them. A text that starts with no digit has none to drop. -/
def dropLeadingZeros? : List Char → Option (List Char)
  | '0' :: rest =>
    let zeros := rest.takeWhile fun c => c = '0' || c = '_'
    match rest.dropWhile fun c => c = '0' || c = '_' with
    | [] => some [(zeros.getLast?).getD '0']
    | '.' :: fraction => some ((zeros.getLast?).getD '0' :: '.' :: fraction)
    | c :: more => if c = '-' || (asciiDigit? c).isSome then some (c :: more) else none
  | c :: rest => if (asciiDigit? c).isSome then some (c :: rest) else none
  | [] => none

/-- A text up to its point, if zeros and nothing else follow that. -/
def dropZeroFraction (cs : List Char) : List Char :=
  match cs.dropWhile (· ≠ '.') with
  | '.' :: '0' :: more => if more.all (· = '0') then cs.takeWhile (· ≠ '.') else cs
  | _ => cs

/-- An unsigned integer's text without leading zeros, a fraction of zeros and underscores. -/
def plainDigits? (cs : List Char) : Option (List Char) :=
  (dropLeadingZeros? cs).map fun cs => dropUnderscores (dropZeroFraction cs)

/-- An integer's text in its plain form: without blanks around it and without a plus sign. -/
def plainIntegerText? (s : String) : Option (List Char) :=
  match trimOf isWhiteSpace s.toList with
  | '+' :: '-' :: _ => none
  | '+' :: rest => plainDigits? rest
  | '-' :: rest => (plainDigits? rest).map ('-' :: ·)
  | cs => plainDigits? cs

/-- An integer in digits without a leading zero, and with a minus or no sign. That it has too many
digits is told before anything that is wrong after them. -/
def plainInteger (cs : List Char) : Except Fault Int :=
  let (negative, unsigned) :=
    match cs with
    | '-' :: rest => (true, rest)
    | _ => (false, cs)
  let (digits, rest) := takeDigits asciiDigit? unsigned
  if digits.isEmpty || (digits.head? = some 0 && digits != [0]) then .error .unreadableInteger
  else if Value.maxIntegerDigits < digits.length then .error .oversizedInteger
  else if rest.isEmpty then .ok (if negative then -(value digits : Int) else value digits)
  else .error .unreadableInteger

/-- An integer in its plain form, or in one that can be brought to it. -/
def integerOfText (s : String) : Reading Int :=
  match plainInteger s.toList with
  | .error .unreadableInteger =>
    match plainIntegerText? s with
    | none => .fail .unreadableInteger
    | some cs => .ofExcept (plainInteger cs)
  | result => .ofExcept result

/-- One more than the largest integer of 64 bits with a sign. -/
def integerBound : Int := 9223372036854775808

/-- Integers that a fraction-less number may stand for: those within 64 bits. -/
def fits (n : Int) : Bool := -integerBound < n && n < integerBound

def integer : Value → Reading Int
  | .int n => .ok n
  | .bool b => .ok (intOfBool b)
  | .text s => integerOfText s
  | .unpaired => .fail .unpairedText
  | .float (.finite s m e) =>
    match Binary64.integer? (.finite s m e) with
    | none => .fail .fractionalInteger
    | some n => if fits n then .ok n else .fail .oversizedInteger
  | .float _ => .fail .infiniteInteger
  | _ => .fail .notInteger

/-- A number in a text: with blanks around it, or with underscores inside. -/
def numberOfText? (s : String) : Option Binary64 :=
  match read? asciiDigit? (trimOf isWhiteSpace s.toList) with
  | some x => some x
  | none => read? asciiDigit? (dropUnderscores s.toList)

def number : Value → Reading Binary64
  | .float x => .ok x
  | .int n => ofOption .notNumber (Binary64.ofInt? n)
  | .bool b => .ok (Binary64.ofInt (intOfBool b))
  | .text s => ofOption .unreadableNumber (numberOfText? s)
  | .unpaired => .fail .unpairedText
  | _ => .fail .notNumber

def boolOfInt (n : Int) : Reading Bool :=
  if n = 0 then .ok false else if n = 1 then .ok true else .fail .unreadableBool

def bool : Value → Reading Bool
  | .bool b => .ok b
  | .text s =>
    let word := String.ofList (s.toList.map asciiLower)
    if word ∈ ["0", "off", "f", "false", "n", "no"] then .ok false
    else if word ∈ ["1", "on", "t", "true", "y", "yes"] then .ok true
    else .fail .unreadableBool
  | .unpaired => .fail .unpairedText
  | .int n => if -integerBound ≤ n ∧ n < integerBound then boolOfInt n else .fail .notBool
  | .float x =>
    match x.integer? with
    | some n => if fits n then boolOfInt n else .fail .notBool
    | none => .fail .notBool
  | _ => .fail .notBool

def text : Value → Reading String
  | .text s => .ok s
  | .unpaired => .fail .unpairedText
  | _ => .fail .notText

def optional (read : Value → Reading α) : Value → Reading (Option α)
  | .null => .ok none
  | v => (read v).map some

def choice (ofName? : String → Option α) : Value → Reading α
  | .text s => ofOption .notChoice (ofName? s)
  | .unpaired => .fail .unpairedText
  | _ => .fail .notChoice

/-- The notation of a pattern, in which halves of surrogate pairs may stand too. -/
def patternText? : Value → Option String
  | .text s => some s
  | @Value.unpaired codes => some (String.ofList (Pattern.spelled codes))
  | _ => none

def pattern (v : Value) : Reading Pattern :=
  match patternText? v with
  | none => .fail .notPattern
  | some s =>
    match Pattern.compile s with
    | .ok p => .ok p
    | .error .malformed => .fail .unreadablePattern
    | .error (.broken rule) => .fail (.broken rule)
    | .error .oversized => .stopped .repetition
    | .error .deep => .stopped .depth

/-- The members of a list, the first of which has the given index. -/
def members (read : Value → Reading α) (index : Nat) : List Value → Reading (List α)
  | [] => .ok []
  | v :: more =>
    List.cons <$> (read v).under (.index index) <*> members read (index + 1) more

def list (read : Value → Reading α) : Value → Reading (List α)
  | .list items => members read 0 items
  | _ => .fail .notList

def entriesOf (read : Value → Reading α) :
    List (String × Value) → Reading (List (String × α))
  | [] => .ok []
  | (name, v) :: more =>
    (fun a rest => (name, a) :: rest) <$> (read v).under (.key name) <*> entriesOf read more

def map (read : Value → Reading α) : Value → Reading (Catalog α)
  | .map entries => (entriesOf read entries).map Catalog.ofPairs
  | _ => .fail .notMap

/-- A list of just two members. -/
def pair (read : Value → Reading α) : Value → Reading (α × α)
  | .list (_ :: _ :: _ :: _) => .fail .longPair
  | .list items =>
    let member (i : Nat) : Reading α := (match items[i]? with
      | some v => read v
      | none => .fail .absent).under (.index i)
    Prod.mk <$> member 0 <*> member 1
  | _ => .fail .notPair

/-- A field of a record, with what stands for it when it is absent. -/
def field (entries : List (String × Value)) (name : String) (default : Reading α)
    (read : Value → Reading α) : Reading α :=
  (match Catalog.get? name entries with
    | some v => read v
    | none => default).under (.key name)

/-- The problems of a record that has no other keys than the given ones. -/
def closed (known : List String) (entries : List (String × Value)) : Reading Unit :=
  match (entries.filter fun entry => !known.contains entry.1) with
  | [] => .ok ()
  | unknown => .failed (unknown.map fun entry => ⟨[.key entry.1], .unknownKey⟩)

end Shape

end TaskAudit
