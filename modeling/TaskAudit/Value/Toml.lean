import TaskAudit.Value.Toml.Quoted
import TaskAudit.Value.Toml.Scalar
import TaskAudit.Value.Toml.Tables

/-!
# TOML

Reading TOML documents into values. Lines end in line feeds. A document is a sequence of headings
and of keys with their values, each on a line of its own, though values in brackets go on over
lines.
-/

namespace TaskAudit.Toml

open Text
open Value (Fault maxDepth)

/-- A text that is no longer than a given one. -/
abbrev NotLonger (cs : List Char) := { rest : List Char // rest.length ≤ cs.length }

abbrev Parsed (α : Type) (cs : List Char) := Except Fault (α × Shorter cs)

def dropSpaces (cs : List Char) : NotLonger cs :=
  ⟨cs.dropWhile isSpace, (List.dropWhile_suffix _).length_le⟩

/-- A comment up to the end of its line. -/
def dropComment? (cs : List Char) : Option (NotLonger cs) :=
  match next? '#' cs with
  | none => some ⟨cs, Nat.le_refl _⟩
  | some ⟨rest, h⟩ =>
    if (rest.takeWhile (· ≠ '\n')).any isControl then none
    else some ⟨rest.dropWhile (· ≠ '\n'),
      Nat.le_trans (List.dropWhile_suffix _).length_le (Nat.le_of_lt h)⟩

/-- Spaces, breaks and comments, as they stand between the members of a list. -/
def dropFillerIn (inComment : Bool) : List Char → Option (List Char)
  | [] => some []
  | c :: rest =>
    if inComment then
      if c = '\n' then dropFillerIn false rest
      else if isControl c then none
      else dropFillerIn true rest
    else if isSpaceOrBreak c then dropFillerIn false rest
    else if c = '#' then dropFillerIn true rest
    else some (c :: rest)

theorem length_dropFillerIn {inComment : Bool} {cs rest : List Char}
    (h : dropFillerIn inComment cs = some rest) : rest.length ≤ cs.length := by
  induction cs generalizing inComment with
  | nil => simp_all [dropFillerIn]
  | cons c cs ih =>
    unfold dropFillerIn at h
    simp only [List.length_cons]
    split at h
    · split at h
      · have := ih h
        omega
      · split at h
        · simp at h
        · have := ih h
          omega
    · split at h
      · have := ih h
        omega
      · split at h
        · have := ih h
          omega
        · simp only [Option.some.injEq] at h
          subst h
          simp

def dropFiller (cs : List Char) : Except Fault (NotLonger cs) :=
  match h : dropFillerIn false cs with
  | some rest => .ok ⟨rest, length_dropFillerIn h⟩
  | none => .error .malformed

/-! ### Keys -/

def isBare (c : Char) : Bool := c.isAlphanum || c = '-' || c = '_'

def keyPart? (cs : List Char) : Option (String × Shorter cs) :=
  match cs with
  | [] => none
  | c :: rest =>
    if isBare c then
      have h : (rest.dropWhile isBare).length ≤ rest.length := (List.dropWhile_suffix _).length_le
      some (String.ofList (c :: rest.takeWhile isBare),
        ⟨rest.dropWhile isBare, Nat.lt_add_one_of_le h⟩)
    else if c = '\x22' || c = '\'' then
      match quoted? ⟨c, false⟩ rest with
      | some (name, last) => some (String.ofList name, last.under)
      | none => none
    else none

/-- A key of parts between dots, and the spaces after it. -/
def key? (cs : List Char) : Option (Path × Shorter cs) :=
  match keyPart? cs with
  | none => none
  | some (name, ⟨rest, h⟩) =>
    match dropSpaces rest with
    | ⟨tail, ht⟩ =>
      match next? '.' tail with
      | none => some ([name], ⟨tail, by omega⟩)
      | some ⟨more, hm⟩ =>
        match dropSpaces more with
        | ⟨start, hs⟩ =>
          match key? start with
          | none => none
          | some (path, ⟨last, hl⟩) => some (name :: path, ⟨last, by omega⟩)
termination_by cs.length

def assignedKey (cs : List Char) : Parsed Path cs :=
  match key? cs with
  | none => .error .malformed
  | some (path, ⟨rest, h⟩) =>
    match next? '=' rest with
    | none => .error .malformed
    | some ⟨more, hm⟩ =>
      match dropSpaces more with
      | ⟨start, hs⟩ => .ok (path, ⟨start, by omega⟩)

/-! ### Values -/

def quotedValue? (cs : List Char) : Option (Value × Shorter cs) :=
  match h : opening? cs with
  | none => none
  | some (quotes, rest) =>
    match quoted? quotes rest with
    | none => none
    | some (chars, ⟨last, hl⟩) =>
      some (.text (String.ofList chars), ⟨last, Nat.lt_trans hl (length_opening? h)⟩)

def plainValue (cs : List Char) : Parsed Value cs :=
  match quotedValue? cs with
  | some found => .ok found
  | none =>
    match h : scalar? cs with
    | some (.ok v, rest) => .ok (v, ⟨rest, length_scalar? h⟩)
    | some (.error fault, _) => .error fault
    | none => .error .malformed

mutual

/-- A value, for which there is so much room: a list takes two parts of it for what is inside, and a
map three. -/
def value (room : Nat) (cs : List Char) : Parsed Value cs :=
  match next? '[' cs with
  | some ⟨rest, h⟩ =>
    if room < 2 then .error (.deep .toml)
    else
      match members (room - 2) rest with
      | .error fault => .error fault
      | .ok (items, ⟨last, hl⟩) => .ok (.list items, ⟨last, Nat.lt_trans hl h⟩)
  | none =>
    match next? '\x7b' cs with
    | some ⟨rest, h⟩ =>
      if room < 3 then .error (.deep .toml)
      else
        match dropSpaces rest with
        | ⟨start, hs⟩ =>
          match next? '\x7d' start with
          | some ⟨last, hl⟩ => .ok (.map [], ⟨last, by omega⟩)
          | none =>
            match assignments (room - 3) .empty start with
            | .error fault => .error fault
            | .ok (entries, ⟨last, hl⟩) => .ok (.map entries, ⟨last, by omega⟩)
    | none => plainValue cs
termination_by (cs.length, 0)
decreasing_by all_goals simp only [Prod.lex_def]; omega

/-- The members of a list up to its closing bracket. -/
def members (room : Nat) (cs : List Char) : Parsed (List Value) cs :=
  match dropFiller cs with
  | .error fault => .error fault
  | .ok ⟨start, hs⟩ =>
    match next? ']' start with
    | some ⟨last, hl⟩ => .ok ([], ⟨last, by omega⟩)
    | none =>
      match value room start with
      | .error fault => .error fault
      | .ok (v, ⟨rest, hr⟩) =>
        match dropFiller rest with
        | .error fault => .error fault
        | .ok ⟨tail, ht⟩ =>
          match next? ']' tail with
          | some ⟨last, hl⟩ => .ok ([v], ⟨last, by omega⟩)
          | none =>
            match next? ',' tail with
            | none => .error .malformed
            | some ⟨more, hm⟩ =>
              match members room more with
              | .error fault => .error fault
              | .ok (items, ⟨last, hl⟩) => .ok (v :: items, ⟨last, by omega⟩)
termination_by (cs.length, 1)
decreasing_by all_goals simp only [Prod.lex_def]; omega

/-- The keys and values of a table in braces up to its closing brace. -/
def assignments (room : Nat) (t : Tables) (cs : List Char) : Parsed Entries cs :=
  match assignedKey cs with
  | .error fault => .error fault
  | .ok (key, ⟨start, hs⟩) =>
    match value room start with
    | .error fault => .error fault
    | .ok (v, ⟨rest, hr⟩) =>
      match t.assignInline key v, dropSpaces rest with
      | none, _ => .error .malformed
      | some t, ⟨tail, ht⟩ =>
        match next? '\x7d' tail with
        | some ⟨last, hl⟩ => .ok (t.entries, ⟨last, by omega⟩)
        | none =>
          match next? ',' tail with
          | none => .error .malformed
          | some ⟨more, hm⟩ =>
            match dropSpaces more with
            | ⟨next, hn⟩ =>
              match assignments room t next with
              | .error fault => .error fault
              | .ok (entries, ⟨last, hl⟩) => .ok (entries, ⟨last, by omega⟩)
termination_by (cs.length, 1)
decreasing_by all_goals simp only [Prod.lex_def]; omega

end

/-! ### Documents -/

private def orMalformed {α : Type} : Option α → Except Fault α
  | some a => .ok a
  | none => .error .malformed

/-- A heading with so many brackets on either side. -/
def heading (brackets : Nat) (cs : List Char) : Except Fault (Path × NotLonger cs) :=
  match dropSpaces (cs.drop brackets) with
  | ⟨start, hs⟩ =>
    match key? start with
    | none => .error .malformed
    | some (path, ⟨rest, hr⟩) =>
      if (List.replicate brackets ']').isPrefixOf rest then
        .ok (path, ⟨rest.drop brackets, by simp only [List.length_drop] at *; omega⟩)
      else .error .malformed

/-- What a line writes, if it writes anything before its comment. -/
def statement (t : Tables) (cs : List Char) : Except Fault (Tables × NotLonger cs) :=
  if cs.head? = some '#' then .ok (t, ⟨cs, Nat.le_refl _⟩)
  else if ['[', '['].isPrefixOf cs then do
    let (path, rest) ← heading 2 cs
    return (← orMalformed (t.append path), rest)
  else if cs.head? = some '[' then do
    let (path, rest) ← heading 1 cs
    return (← orMalformed (t.declare path), rest)
  else do
    let (key, ⟨start, hs⟩) ← assignedKey cs
    let (v, ⟨last, hl⟩) ← value maxDepth start
    return (← orMalformed (t.assign key v), ⟨last, by omega⟩)

def statements (t : Tables) (cs : List Char) : Except Fault Tables :=
  match dropSpaces cs with
  | ⟨line, _hl⟩ =>
    if line.isEmpty then .ok t
    else
      match next? '\n' line with
      | some ⟨rest, _h⟩ => statements t rest
      | none =>
        match statement t line with
        | .error fault => .error fault
        | .ok (t, ⟨rest, _hr⟩) =>
          match dropSpaces rest with
          | ⟨tail, _ht⟩ =>
            match dropComment? tail with
            | none => .error .malformed
            | some ⟨final, _hf⟩ =>
              match next? '\n' final with
              | some ⟨more, _hm⟩ => statements t more
              | none => if final.isEmpty then .ok t else .error .malformed
termination_by cs.length

/-- The table that a whole document writes. -/
def parse (s : String) : Except Fault Value :=
  (statements .empty s.toList).map fun t => .map t.entries

end TaskAudit.Toml
