import TaskAudit.Number.Binary64

/-!
# Decimal text of a number

A number is written with the fewest digits that read back as it, the nearest such digits to it where
several serve. A layout says how the digits stand around the point.
-/

namespace TaskAudit

/-- The digits `d₁d₂…dₙ` of `0.d₁d₂…dₙ` times ten to `point`. -/
structure Decimal where
  digits : List Char
  point : Int
  deriving Repr

namespace Decimal

private def ratioOf (m : Nat) (e : Int) : Nat × Nat :=
  if 0 ≤ e then (m * Nat.pow 2 e.toNat, 1) else (m, Nat.pow 2 (-e).toNat)

/-- Whether `10 ^ power ≤ num / den`. -/
private def reaches (num den : Nat) (power : Int) : Bool :=
  if 0 ≤ power then den * Nat.pow 10 power.toNat ≤ num
  else den ≤ num * Nat.pow 10 (-power).toNat

/-- The exponent of the leading decimal digit of `num / den`, given one of its binary exponent. -/
private def leadingPower (num den : Nat) (binary : Int) : Int :=
  let guess := Int.fdiv (binary * 30103) 100000
  if reaches num den (guess + 1) then guess + 1
  else if reaches num den guess then guess
  else guess - 1

/-- The real numbers that round to a significand and exponent, in quarters of the last place. -/
private structure Interval where
  low : Nat
  value : Nat
  high : Nat
  unit : Int
  closed : Bool

private def interval (m : Nat) (e : Int) : Interval :=
  let below := if m = Nat.pow 2 (Binary64.precision - 1) && Binary64.minExponent < e then 1 else 2
  { low := 4 * m - below, value := 4 * m, high := 4 * m + 2, unit := e - 2, closed := m % 2 == 0 }

/-- Whether `grid · 10 ^ power` lies in the interval, all sides brought to integers. -/
private def Interval.holds (i : Interval) (grid : Nat) (power : Int) : Bool :=
  let (num, den) := ratioOf 1 i.unit
  let (up, down) :=
    if 0 ≤ power then (Nat.pow 10 power.toNat, 1) else (1, Nat.pow 10 (-power).toNat)
  let point := grid * up * den
  let low := i.low * num * down
  let high := i.high * num * down
  if i.closed then low ≤ point && point ≤ high else low < point && point < high

/-- The grid point of a given spacing that reads back as the number, if there is one. -/
private def onGrid (m : Nat) (e : Int) (power : Int) : Option Nat :=
  let i := interval m e
  let (num, den) := ratioOf m e
  let (n, d) :=
    if 0 ≤ power then (num, den * Nat.pow 10 power.toNat)
    else (num * Nat.pow 10 (-power).toNat, den)
  let below := n / d
  let above := below + 1
  let rest := 2 * (n % d)
  let lowFirst := rest < d || (rest == d && below % 2 == 0)
  match i.holds below power, i.holds above power with
  | true, true => some (if lowFirst then below else above)
  | true, false => some below
  | false, true => some above
  | false, false => none

private def trimZeros (digits : List Char) : List Char :=
  (digits.reverse.dropWhile (· == '0')).reverse

private def search (m : Nat) (e lead : Int) : List Nat → Decimal
  | [] => { digits := ['0'], point := 1 }
  | count :: more =>
    let power := lead + 1 - (count : Int)
    match onGrid m e power with
    | some grid =>
      let digits := Nat.toDigits 10 grid
      { digits := trimZeros digits, point := power + (digits.length : Int) }
    | none => search m e lead more

/-- The fewest digits that read back as a positive finite number. -/
def shortest (m : Nat) (e : Int) : Decimal :=
  let (num, den) := ratioOf m e
  let lead := leadingPower num den ((Nat.log2 m : Int) + e)
  search m e lead (List.range' 1 17)

end Decimal

/-- How the digits of a number stand around the point and the exponent. -/
structure DecimalLayout where
  /-- The least exponent of a leading digit that is written without an exponent. -/
  leastPositional : Int
  /-- The greatest exponent of a leading digit that is written without an exponent. -/
  greatestPositional : Int
  /-- What a whole number ends in. -/
  wholeEnding : List Char
  exponentMark : Char
  exponentWidth : Nat
  infinity : List Char
  notANumber : List Char

namespace DecimalLayout

private def exponentText (layout : DecimalLayout) (exponent : Int) : List Char :=
  let digits := Nat.toDigits 10 exponent.natAbs
  layout.exponentMark :: (if exponent < 0 then '-' else '+') ::
    (List.replicate (layout.exponentWidth - digits.length) '0' ++ digits)

private def positional (layout : DecimalLayout) (digits : List Char) (point : Int) : List Char :=
  if point ≤ 0 then '0' :: '.' :: (List.replicate (-point).toNat '0' ++ digits)
  else
    let whole := digits.take point.toNat
    let missing := point.toNat - whole.length
    match digits.drop point.toNat with
    | [] => whole ++ List.replicate missing '0' ++ layout.wholeEnding
    | fraction => whole ++ '.' :: fraction

private def scientific (layout : DecimalLayout) (digits : List Char) (exponent : Int) : List Char :=
  match digits with
  | [] => []
  | [d] => d :: layout.exponentText exponent
  | d :: more => d :: '.' :: (more ++ layout.exponentText exponent)

def write (layout : DecimalLayout) (x : Binary64) : List Char :=
  let sign : List Char := if x.isNegative then ['-'] else []
  match x with
  | .nan => layout.notANumber
  | .infinite _ => sign ++ layout.infinity
  | .finite _ 0 _ => sign ++ '0' :: layout.wholeEnding
  | .finite _ m e =>
    let decimal := Decimal.shortest m e
    let exponent := decimal.point - 1
    sign ++
      if layout.leastPositional ≤ exponent && exponent ≤ layout.greatestPositional then
        layout.positional decimal.digits decimal.point
      else layout.scientific decimal.digits exponent

end DecimalLayout

namespace Binary64

/-- Numbers in messages and reports: from `0.0001` to below `10 ^ 16` without an exponent, whole
numbers ending in `.0`, and an exponent of two digits or more with its sign. -/
def layout : DecimalLayout where
  leastPositional := -4
  greatestPositional := 15
  wholeEnding := ['.', '0']
  exponentMark := 'e'
  exponentWidth := 2
  infinity := ['i', 'n', 'f']
  notANumber := ['n', 'a', 'n']

def text (x : Binary64) : String := String.ofList (layout.write x)

end Binary64

end TaskAudit
