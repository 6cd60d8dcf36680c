import TaskAudit.Text.Digit
import TaskAudit.Text.Scan

/-!
# Arguments

Reading a list of arguments against the options of a command. An option is given by one of its names
or by a beginning of a long name that no other option shares; its value follows in the next
argument, after a sign of equality, or right after a letter. Letters can stand together. After two
dashes there are no options any more.
-/

namespace TaskAudit.CommandLine

open Text

structure Switch where
  /-- Names with their dashes. -/
  names : List String
  takesValue : Bool
  deriving DecidableEq, Repr, Inhabited

inductive Word where
  | operand (s : String)
  | twoDashes
  /-- Options, the last of which may take a value and may have it attached. -/
  | options (plain : List Switch) (valued : Option (Switch × Option String))
  /-- What looks like an option and is none of the command. -/
  | unknown
  /-- Options put together as they cannot be. -/
  | refused
  deriving Repr

/-- Splits an argument at its first sign of equality. -/
def splitAtEquals (arg : List Char) : List Char × Option String :=
  match upTo? '=' arg with
  | some (name, ⟨value, _⟩) => (name, some (String.ofList value))
  | none => (arg, none)

def named? (switches : List Switch) (name : List Char) : Option Switch :=
  switches.find? (·.names.contains (String.ofList name))

/-- A negative number, which is never an option. -/
def isNegativeNumber : List Char → Bool
  | '-' :: digits =>
    let digits := if digits.getLast? = some '\n' then digits.dropLast else digits
    let fraction := digits.dropWhile isDigit
    match fraction with
    | [] => !digits.isEmpty
    | '.' :: more => !more.isEmpty && more.all isDigit
    | _ => false
  | _ => false

/-- The letter of an option with what stands right after it: its value, or letters of other options
that take none. -/
def letters (switches plain : List Switch) (switch : Switch) : List Char → Word
  | [] =>
    if switch.takesValue then .options plain (some (switch, none))
    else .options (plain ++ [switch]) none
  | c :: rest =>
    if switch.takesValue then .options plain (some (switch, some (String.ofList (c :: rest))))
    else
      match named? switches ['-', c] with
      | some next => letters switches (plain ++ [switch]) next rest
      | none => .refused

/-- An option with the value that is attached to its long name, if there is one. -/
def attached (switch : Switch) : Option String → Word
  | none => if switch.takesValue then .options [] (some (switch, none)) else .options [switch] none
  | some value => if switch.takesValue then .options [] (some (switch, some value)) else .refused

/-- The options that have a name with a beginning, once for each such name. -/
def beginningWith (switches : List Switch) (beginning : List Char) : List Switch :=
  switches.flatMap fun switch =>
    (switch.names.filter fun name => beginning.isPrefixOf name.toList).map fun _ => switch

/-- An argument that looks like an option and is none of the command. -/
def unnamedWord (arg : List Char) : Word :=
  if isNegativeNumber arg || arg.contains ' ' then .operand (String.ofList arg) else .unknown

/-- What an argument with two dashes says; `none` if it could be one of several options. -/
def longWord? (switches : List Switch) (arg : List Char) : Option Word :=
  let (name, value) := splitAtEquals arg
  match named? switches name with
  | some switch => some (attached switch value)
  | none =>
    match beginningWith switches name with
    | [] => some (unnamedWord arg)
    | [switch] => some (attached switch value)
    | _ => none

/-- What an argument with one dash says. A sign of equality right after the letter sets off a value,
which for an option without one is letters again. -/
def shortWord (switches : List Switch) (arg : List Char) : Word :=
  match named? switches (arg.take 2), arg.drop 2 with
  | some switch, '=' :: value =>
    if value.isEmpty then attached switch (some "") else letters switches [] switch value
  | some switch, rest => letters switches [] switch rest
  | none, _ => unnamedWord arg

def word? (switches : List Switch) (arg : String) : Option Word :=
  match arg.toList with
  | '-' :: '-' :: rest => longWord? switches ('-' :: '-' :: rest)
  | '-' :: c :: rest => some (shortWord switches ('-' :: c :: rest))
  | _ => some (.operand arg)

/-- The words of arguments, if each can be told. -/
def words? (switches : List Switch) : List String → Option (List Word)
  | [] => some []
  | arg :: more =>
    if arg = "--" then some (.twoDashes :: more.map .operand)
    else do return (← word? switches arg) :: (← words? switches more)

end TaskAudit.CommandLine
