import TaskAudit.Number.Numeral
import TaskAudit.Text.Scan

/-!
# Quoted texts of TOML

A text stands in single or double quotes, and in three of them it may go over several lines. Only
double quotes know escapes.
-/

namespace TaskAudit.Toml

open Text Numeral

def isSpace (c : Char) : Bool := c = ' ' || c = '\t'

def isSpaceOrBreak (c : Char) : Bool := isSpace c || c = '\n'

/-- Characters that neither a text nor a comment may hold, apart from line breaks. -/
def isControl (c : Char) : Bool := (c.toNat < 0x20 && c != '\t') || c = '\x7f'

/-- The kind of quotes around a text: which character, and whether there are three of them. -/
structure Quotes where
  mark : Char
  block : Bool
  deriving DecidableEq, Repr

/-- The end of a text: one mark, or three. Up to two marks before the last three belong to the
text. -/
def closing? (quotes : Quotes) (cs : List Char) : Option (List Char × Shorter cs) :=
  let count := (cs.takeWhile (· = quotes.mark)).length
  have hcount : count ≤ cs.length := (List.takeWhile_prefix _).length_le
  if quotes.block then
    if h : 3 ≤ count then
      let extra := min (count - 3) 2
      some (List.replicate extra quotes.mark,
        ⟨cs.drop (3 + extra), by rw [List.length_drop]; omega⟩)
    else none
  else if h : 1 ≤ count then some ([], ⟨cs.drop 1, by rw [List.length_drop]; omega⟩)
  else none

/-- A character given by its number in so many hexadecimal digits. -/
def numbered? (width : Nat) (cs : List Char) : Option (Char × List Char) := do
  let digits ← (cs.take width).mapM hexDigit?
  let n := valueIn 16 digits
  if digits.length = width ∧ n.isValidChar then some (Char.ofNat n, cs.drop width) else none

private def escaped? (c : Char) : Option Char :=
  if c = '\x22' || c = '\\' then some c
  else if c = 'b' then some '\x08'
  else if c = 't' then some '\t'
  else if c = 'n' then some '\n'
  else if c = 'f' then some '\x0c'
  else if c = 'r' then some '\r'
  else none

/-- What stands for an escape, given what follows its backslash. Before the end of a line in a block
it stands for nothing and takes all blanks and breaks with it. -/
def escape? (quotes : Quotes) : List Char → Option (List Char × List Char)
  | [] => none
  | c :: rest =>
    if quotes.block && isSpaceOrBreak c then
      match (c :: rest).dropWhile isSpace with
      | '\n' :: more => some ([], more.dropWhile isSpaceOrBreak)
      | _ => none
    else if c = 'u' then (numbered? 4 rest).map fun (d, more) => ([d], more)
    else if c = 'U' then (numbered? 8 rest).map fun (d, more) => ([d], more)
    else (escaped? c).map fun d => ([d], rest)

def quoted? (quotes : Quotes) (cs : List Char) : Option (List Char × Shorter cs) :=
  match closing? quotes cs with
  | some found => some found
  | none =>
    match cs with
    | [] => none
    | c :: rest =>
      if c = '\\' && quotes.mark = '\x22' then
        match escape? quotes rest with
        | none => none
        | some (chars, more) =>
          if h : more.length < rest.length then
            match quoted? quotes more with
            | none => none
            | some (tail, last) =>
              some (chars ++ tail, .under ⟨last.1, Nat.lt_trans last.2 h⟩)
          else none
      else if isControl c && !(quotes.block && c = '\n') then none
      else
        match quoted? quotes rest with
        | none => none
        | some (tail, last) => some (c :: tail, last.under)
termination_by cs.length
decreasing_by
  · exact Nat.lt_succ_of_lt h
  · exact Nat.lt_succ_self _

/-- The quotes that a text opens with, and what follows them; a break right after three is
dropped. -/
def opening? : List Char → Option (Quotes × List Char)
  | a :: b :: c :: rest =>
    if a = '\x22' || a = '\'' then
      if b = a && c = a then
        some (⟨a, true⟩, match rest with
          | '\n' :: more => more
          | _ => rest)
      else some (⟨a, false⟩, b :: c :: rest)
    else none
  | a :: rest => if a = '\x22' || a = '\'' then some (⟨a, false⟩, rest) else none
  | [] => none

theorem length_opening? {cs : List Char} {quotes : Quotes} {rest : List Char}
    (h : opening? cs = some (quotes, rest)) : rest.length < cs.length := by
  unfold opening? at h
  split at h
  · split at h
    · split at h
      · split at h <;> simp_all <;> omega
      · simp_all
    · simp at h
  · split at h <;> simp_all
  · simp at h

end TaskAudit.Toml
