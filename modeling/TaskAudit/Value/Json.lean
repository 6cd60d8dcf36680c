import TaskAudit.Number.Numeral
import TaskAudit.Value

/-!
# JSON

Reading JSON texts into values. A text is cut into tokens by a machine that moves one character at a
time, and the tokens drive a second machine with a stack of the lists and maps that are still open.
Integers and numbers with a fraction or an exponent stay apart; `NaN` and `Infinity` are numbers.
-/

namespace TaskAudit.Json

open Text Numeral
open Value (Fault maxDepth maxIntegerDigits)

inductive Token where
  | openList
  | closeList
  | openMap
  | closeMap
  | comma
  | colon
  /-- A text by its code points. -/
  | text (codes : List Nat)
  | literal (v : Value)
  | bad (fault : Fault)
  deriving Repr

/-! ### Words: numbers and names -/

private def fractionOf : List Char → Option (List Nat × List Char)
  | '.' :: rest =>
    match takeDigits asciiDigit? rest with
    | ([], _) => none
    | found => some found
  | _ => none

private def exponentOf : List Char → Option (Int × List Char)
  | c :: rest =>
    if c = 'e' || c = 'E' then
      let (negative, rest) := takeSign rest
      match takeDigits asciiDigit? rest with
      | ([], _) => none
      | (digits, rest) => some (if negative then -(value digits : Int) else value digits, rest)
    else none
  | [] => none

/-- A number that starts with given digits before the point. -/
private def number (negative : Bool) (whole : List Nat) (rest : List Char) : Token :=
  let (fraction, afterFraction) := (fractionOf rest).getD ([], rest)
  let (exponent, afterAll) := (exponentOf afterFraction).getD (0, afterFraction)
  let token : Token :=
    if afterAll.length = rest.length then
      if maxIntegerDigits < whole.length then .bad (.longInteger whole.length)
      else .literal (.int (if negative then -(value whole : Int) else value whole))
    else
      .literal (.float (Binary64.ofDecimal negative (value (whole ++ fraction))
        (exponent - (fraction.length : Int))))
  match token with
  | .bad fault => .bad fault
  | token => if afterAll.isEmpty then token else .bad .malformed

private def word (cs : List Char) : Token :=
  if cs = "true".toList then .literal (.bool true)
  else if cs = "false".toList then .literal (.bool false)
  else if cs = "null".toList then .literal .null
  else if cs = "NaN".toList then .literal (.float .nan)
  else if cs = "Infinity".toList then .literal (.float (.infinite false))
  else if cs = "-Infinity".toList then .literal (.float (.infinite true))
  else
    let (negative, rest) :=
      match cs with
      | '-' :: rest => (true, rest)
      | _ => (false, cs)
    match rest with
    | '0' :: rest => number negative [0] rest
    | _ =>
      match takeDigits asciiDigit? rest with
      | ([], _) => .bad .malformed
      | (whole, rest) => number negative whole rest

/-! ### Tokens -/

/-- The code points of a quoted text that were read, backwards, and the first half of a surrogate
pair. -/
structure Draft where
  codes : List Nat
  half : Option Nat

namespace Draft

def empty : Draft := { codes := [], half := none }

/-- The code points when no second half follows. -/
def flush (d : Draft) : List Nat := d.half.toList ++ d.codes

def add (d : Draft) (code : Nat) : Draft := { codes := code :: d.flush, half := none }

/-- Adds a UTF-16 unit, pairing it with a first half before it. -/
def addUnit (d : Draft) (unit : Nat) : Draft :=
  if 0xD800 ≤ unit ∧ unit ≤ 0xDBFF then { codes := d.flush, half := some unit }
  else
    match d.half with
    | some first =>
      if 0xDC00 ≤ unit ∧ unit ≤ 0xDFFF then
        let code := 0x10000 + (first - 0xD800) * 0x400 + (unit - 0xDC00)
        { codes := code :: d.codes, half := none }
      else d.add unit
    | none => d.add unit

def token (d : Draft) : Token := .text d.flush.reverse

end Draft

/-- Where the reader stands between two characters. -/
inductive Lexer where
  | between
  | inWord (backwards : List Char)
  | inText (done : Draft)
  | afterBackslash (done : Draft)
  | inUnit (done : Draft) (digits : List Nat)

private def escapeOf? (c : Char) : Option Char :=
  if c = '\x22' || c = '\\' || c = '/' then some c
  else if c = 'b' then some '\x08'
  else if c = 'f' then some '\x0c'
  else if c = 'n' then some '\n'
  else if c = 'r' then some '\r'
  else if c = 't' then some '\t'
  else none

private def punctuation? (c : Char) : Option Token :=
  if c = '[' then some .openList
  else if c = ']' then some .closeList
  else if c = '{' then some .openMap
  else if c = '}' then some .closeMap
  else if c = ',' then some .comma
  else if c = ':' then some .colon
  else none

private def isSpace (c : Char) : Bool := c = ' ' || c = '\t' || c = '\n' || c = '\r'

def Lexer.finish : Lexer → List Token
  | between => []
  | inWord backwards => [word backwards.reverse]
  | _ => [.bad .malformed]

def Lexer.next : Lexer → Char → List Token × Lexer
  | between, c =>
    if isSpace c then ([], between)
    else if c = '\x22' then ([], inText .empty)
    else
      match punctuation? c with
      | some token => ([token], between)
      | none => ([], inWord [c])
  | inWord backwards, c =>
    if isSpace c then ([word backwards.reverse], between)
    else if c = '\x22' then ([word backwards.reverse], inText .empty)
    else
      match punctuation? c with
      | some token => ([word backwards.reverse, token], between)
      | none => ([], inWord (c :: backwards))
  | inText done, c =>
    if c = '\x22' then ([done.token], between)
    else if c = '\\' then ([], afterBackslash done)
    else if c.toNat < 0x20 then ([.bad .malformed], between)
    else ([], inText (done.add c.toNat))
  | afterBackslash done, c =>
    if c = 'u' then ([], inUnit done [])
    else
      match escapeOf? c with
      | some d => ([], inText (done.add d.toNat))
      | none => ([.bad .malformed], between)
  | inUnit done digits, c =>
    match hexDigit? c with
    | none => ([.bad .malformed], between)
    | some d =>
      if digits.length < 3 then ([], inUnit done (digits ++ [d]))
      else ([], inText (done.addUnit (valueIn 16 (digits ++ [d]))))

def Lexer.run (lexer : Lexer) : List Char → List Token
  | [] => lexer.finish
  | c :: rest => (lexer.next c).1 ++ (lexer.next c).2.run rest

def tokens (cs : List Char) : List Token := Lexer.between.run cs

/-! ### Values -/

/-- The text of some code points, if all of them are characters. -/
def text? (codes : List Nat) : Option String :=
  if codes.all fun n => n.isValidChar then some (String.ofList (codes.map Char.ofNat)) else none

/-- What is shown of some code points: a replacement character for each that is none. -/
def shown (codes : List Nat) : String :=
  String.ofList (codes.map fun n => Char.ofNat (if n.isValidChar then n else 0xFFFD))

def textValue (codes : List Nat) : Value :=
  match text? codes with
  | some s => .text s
  | none => @Value.unpaired codes

/-- A key with its value. -/
abbrev Entry := List Nat × Value

/-- A map of entries. Those whose keys are no texts come last, and as nothing reads their values,
the keys stand for these. -/
def mapValue (entries : List Entry) : Value :=
  let named := entries.filterMap fun (key, v) => (text? key).map (·, v)
  let unnamed := (entries.map Prod.fst).filter fun key => (text? key).isNone
  .map ((Catalog.ofPairs named).entries ++ unnamed.map fun key => (shown key, textValue key))

/-- A list or map that is still open, with its members so far, the last one first. -/
inductive Frame where
  | list (items : List Value)
  | map (entries : List Entry) (key : List Nat)

/-- What must come next. -/
inductive Awaiting where
  /-- A value, or the end of the list that was just opened. -/
  | value (canClose : Bool)
  /-- A key of the map with these entries, or the end of it. -/
  | key (entries : List Entry) (canClose : Bool)
  | colon (entries : List Entry) (key : List Nat)
  /-- A comma or the end of the innermost list or map, after this member. -/
  | separator (v : Value)
  deriving Repr

structure Parser where
  stack : List Frame
  awaiting : Awaiting

/-- A list or map is finished, or a value stands alone. -/
private def Parser.give (stack : List Frame) (v : Value) : Except Fault Parser :=
  .ok { stack, awaiting := .separator v }

def Parser.step (p : Parser) (token : Token) : Except Fault Parser :=
  match p.awaiting, token with
  | .value _, .bad fault => .error fault
  | .value _, .literal v => give p.stack v
  | .value _, .text codes => give p.stack (textValue codes)
  | .value _, .openList =>
    if maxDepth < p.stack.length then .error (.deep .jsonList)
    else .ok { stack := .list [] :: p.stack, awaiting := .value true }
  | .value _, .openMap =>
    if maxDepth < p.stack.length then .error (.deep .jsonMap)
    else .ok { p with awaiting := .key [] true }
  | .value true, .closeList =>
    match p.stack with
    | .list [] :: stack => give stack (.list [])
    | _ => .error .malformed
  | .key entries _, .text key => .ok { p with awaiting := .colon entries key }
  | .key _ true, .closeMap => give p.stack (.map [])
  | .colon entries key, .colon =>
    .ok { stack := .map entries key :: p.stack, awaiting := .value false }
  | .separator v, .comma =>
    match p.stack with
    | .list items :: stack => .ok { stack := .list (v :: items) :: stack, awaiting := .value false }
    | .map entries key :: stack => .ok { stack, awaiting := .key ((key, v) :: entries) false }
    | [] => .error .malformed
  | .separator v, .closeList =>
    match p.stack with
    | .list items :: stack => give stack (.list (v :: items).reverse)
    | _ => .error .malformed
  | .separator v, .closeMap =>
    match p.stack with
    | .map entries key :: stack => give stack (mapValue ((key, v) :: entries).reverse)
    | _ => .error .malformed
  | _, _ => .error .malformed

def Parser.start : Parser := { stack := [], awaiting := .value false }

/-- The value that a whole text writes. -/
def parse (s : String) : Except Fault Value := do
  let final ← (tokens s.toList).foldlM Parser.step Parser.start
  match final.stack, final.awaiting with
  | [], .separator v => return v
  | _, _ => throw .malformed

end TaskAudit.Json
