import TaskAudit.Number.Numeral
import TaskAudit.Text.CharNameTable
import TaskAudit.Text.Scan

/-!
# Characters by their names

A character has a name of its own, or one made up of what it is and its code point, or, as a Hangul
syllable, of the sounds in it. Only the names that are made up tell small letters from capitals.
-/

namespace TaskAudit.Text

open Numeral

/-! ### Names made up by rules -/

/-- First and last code points of the unified ideographs. -/
def ideographRuns : List (Nat × Nat) :=
  [(0x3400, 0x4DBF), (0x4E00, 0x9FFF), (0x20000, 0x2A6DF), (0x2A700, 0x2B738), (0x2B740, 0x2B81D),
   (0x2B820, 0x2CEA1), (0x2CEB0, 0x2EBE0), (0x30000, 0x3134A)]

/-- What characters are called that have their code points in their names. -/
def numberedRuns : List (String × List (Nat × Nat)) :=
  [("CJK COMPATIBILITY IDEOGRAPH-", [(0xF900, 0xFA6D), (0xFA70, 0xFAD9), (0x2F800, 0x2FA1D)]),
   ("KHITAN SMALL SCRIPT CHARACTER-", [(0x18B00, 0x18CD5)]),
   ("NUSHU CHARACTER-", [(0x1B170, 0x1B2FB)])]

private def isInRuns (runs : List (Nat × Nat)) (n : Nat) : Bool :=
  runs.any fun run => run.1 ≤ n && n ≤ run.2

/-- A code point in capital hexadecimal digits. -/
private def capitalHex? (cs : List Char) : Option Nat :=
  if cs.any Char.isLower then none
  else (cs.mapM hexDigit?).map (valueIn 16)

private def ideograph? (digits : List Char) : Option Nat :=
  if digits.length = 4 || digits.length = 5 then
    (capitalHex? digits).filter (isInRuns ideographRuns)
  else none

private def numbered? (name : List Char) : Option Nat :=
  numberedRuns.findSome? fun (kind, runs) =>
    (after? kind.toList name).bind fun digits =>
      if digits.head? = some '0' then none else (capitalHex? digits).filter (isInRuns runs)

/-- The sounds that a syllable starts with, goes on with and ends in. -/
def sounds : List (List String) :=
  [["G", "GG", "N", "D", "DD", "R", "M", "B", "BB", "S", "SS", "", "J", "JJ", "C", "K", "T", "P",
    "H"],
   ["A", "AE", "YA", "YAE", "EO", "E", "YEO", "YE", "O", "WA", "WAE", "OE", "YO", "U", "WEO", "WE",
    "WI", "YU", "EU", "YI", "I"],
   ["", "G", "GG", "GS", "N", "NJ", "NH", "D", "L", "LG", "LM", "LB", "LS", "LT", "LP", "LH", "M",
    "B", "BS", "S", "SS", "NG", "J", "C", "K", "T", "P", "H"]]

/-- The longest of some sounds that a text starts with, by its place among them, and the rest. -/
private def sound? (sounds : List String) (cs : List Char) : Option (Nat × List Char) :=
  let found := sounds.zipIdx.filterMap fun (sound, i) =>
    (after? sound.toList cs).map fun rest => (i, rest)
  found.foldl (fun best next =>
    match best with
    | some (_, rest) => if next.2.length < rest.length then some next else best
    | none => some next) none

/-- The place of a syllable among all of them. -/
private def syllable? : List (List String) → Nat → List Char → Option Nat
  | [], n, cs => if cs.isEmpty then some n else none
  | column :: more, n, cs =>
    (sound? column cs).bind fun (i, rest) => syllable? more (n * column.length + i) rest

/-! ### Other names -/

/-- The words of an entry, the abbreviated ones in full. -/
private def wordsIn (entry : List Char) : List (List Char) :=
  let full := entry.flatMap fun c =>
    if c.isLower then ' ' :: (frequentWords.getD (c.toNat - 97) "").toList ++ [' '] else [c]
  (splitOn ' ' full).filter (!·.isEmpty)

/-- The entries of the table with their code points. -/
private def entries : List (Nat × List Char) :=
  nameRuns.flatMap fun (first, names) =>
    ((splitOn ',' names.toList).map trim).zipIdx.map fun (entry, i) => (first + i, entry)

/-- Looks for a name, given by its words, behind the name that was read last. -/
private def listed? (name : List (List Char)) :
    List (List Char) → List (Nat × List Char) → Option Nat
  | _, [] => none
  | _, (_, []) :: _ => none
  | last, (code, shared :: entry) :: more =>
    let words := last.take (shared.toNat - 48) ++ wordsIn entry
    if words = name then some code else listed? name words more

/-- The code point of the character with a name. -/
def charNamed? (name : List Char) : Option Nat :=
  match after? "CJK UNIFIED IDEOGRAPH-".toList name, after? "HANGUL SYLLABLE ".toList name with
  | some digits, _ => ideograph? digits
  | none, some syllable => (syllable? sounds 0 syllable).map (0xAC00 + ·)
  | none, none =>
    let name := name.map Char.toUpper
    match numbered? name with
    | some code => some code
    | none =>
      match otherNames.find? (·.2.toList = name) with
      | some (code, _) => some code
      | none => listed? (splitOn ' ' name) [] entries

end TaskAudit.Text
