import TaskAudit.Number.Binary64
import TaskAudit.Text.Blank
import TaskAudit.Text.Case
import TaskAudit.Text.Digit

/-!
# Numerals

Numbers as people write them: a sign, digits with a point, a power of ten, or one of the words for
the infinities and not-a-number. What counts as a digit is a parameter.
-/

namespace TaskAudit.Numeral

open Text

def asciiDigit? (c : Char) : Option Nat :=
  if '0' ≤ c && c ≤ '9' then some (c.toNat - 48) else none

def hexDigit? (c : Char) : Option Nat :=
  if '0' ≤ c && c ≤ '9' then some (c.toNat - 48)
  else if 'a' ≤ c && c ≤ 'f' then some (c.toNat - 87)
  else if 'A' ≤ c && c ≤ 'F' then some (c.toNat - 55)
  else none

def takeDigits (digit? : Char → Option Nat) : List Char → List Nat × List Char
  | [] => ([], [])
  | c :: rest =>
    match digit? c with
    | some d => ((d :: (takeDigits digit? rest).1), (takeDigits digit? rest).2)
    | none => ([], c :: rest)

def valueIn (base : Nat) (digits : List Nat) : Nat := digits.foldl (fun n d => n * base + d) 0

def value (digits : List Nat) : Nat := valueIn 10 digits

/-- A sign, read as whether it is a minus, and the rest of the text. -/
def takeSign : List Char → Bool × List Char
  | '-' :: rest => (true, rest)
  | '+' :: rest => (false, rest)
  | cs => (false, cs)

/-- Drops each underscore that stands between two digits; any other one is refused. -/
def joinGroups (digit? : Char → Option Nat) (cs : List Char) : Option (List Char) :=
  go false cs
where
  go (afterDigit : Bool) : List Char → Option (List Char)
    | [] => some []
    | '_' :: rest =>
      match afterDigit, rest with
      | true, c :: _ => if (digit? c).isSome then go false rest else none
      | _, _ => none
    | c :: rest => (go (digit? c).isSome rest).map (c :: ·)

/-- The exponent part of a numeral, zero when there is none. -/
private def exponent? (digit? : Char → Option Nat) : List Char → Option Int
  | [] => some 0
  | c :: rest =>
    if c = 'e' || c = 'E' then
      let (negative, rest) := takeSign rest
      match takeDigits digit? rest with
      | ([], _) => none
      | (digits, []) => some (if negative then -(value digits : Int) else value digits)
      | _ => none
    else none

private def magnitude? (digit? : Char → Option Nat) (negative : Bool) (cs : List Char) :
    Option Binary64 :=
  let (whole, rest) := takeDigits digit? cs
  let (fraction, rest) :=
    match rest with
    | '.' :: more => takeDigits digit? more
    | _ => ([], rest)
  if whole.isEmpty && fraction.isEmpty then none
  else (exponent? digit? rest).map fun e =>
    Binary64.ofDecimal negative (value (whole ++ fraction)) (e - (fraction.length : Int))

private def isWord (word : String) (cs : List Char) : Bool :=
  cs.map asciiLower == word.toList

/-- The number that a whole text writes, without blanks around it. -/
def read? (digit? : Char → Option Nat) (cs : List Char) : Option Binary64 :=
  let (negative, rest) := takeSign cs
  if isWord "inf" rest || isWord "infinity" rest then some (.infinite negative)
  else if isWord "nan" rest then some .nan
  else magnitude? digit? negative rest

/-- A number written freely: blanks around it, digits of any script, underscores between digits. -/
def readFree? (s : String) : Option Binary64 :=
  (joinGroups digitValue? (trimOf isWhiteSpace s.toList)).bind (read? digitValue?)

/-- The whole number that a text of ASCII digits writes, its sign aside. -/
def digits? (cs : List Char) : Option Nat :=
  match takeDigits asciiDigit? cs with
  | ([], _) => none
  | (digits, []) => some (value digits)
  | _ => none

end TaskAudit.Numeral
