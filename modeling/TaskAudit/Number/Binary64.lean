/-!
# Binary floating point

Numbers of 53 significant bits with exponents from -1074 to 971, the two infinities and one
not-a-number. Every operation is exact on integers and then rounds once: to the nearest number, and
between two equally near ones to that of even significand.
-/

namespace TaskAudit

/-- A finite number is its significand times two to its exponent, with a sign that zero carries
too. -/
inductive Binary64 where
  | nan
  | infinite (negative : Bool)
  | finite (negative : Bool) (significand : Nat) (exponent : Int)
  deriving DecidableEq, Repr, Inhabited

namespace Binary64

def precision : Nat := 53

def minExponent : Int := -1074

def maxExponent : Int := 971

/-- The quotient to the nearest integer, and to the even one of two equally near. -/
def roundDiv (num den : Nat) : Nat :=
  let quotient := num / den
  let rest := 2 * (num % den)
  if rest > den || (rest == den && quotient % 2 == 1) then quotient + 1 else quotient

/-- The numerator and denominator of `num / den` over a power of two. -/
def scale (num den : Nat) (exponent : Int) : Nat × Nat :=
  if 0 ≤ exponent then (num, den * Nat.pow 2 exponent.toNat)
  else (num * Nat.pow 2 (-exponent).toNat, den)

/-- The exponent that leaves `num / den` just 53 bits before the point, as far as exponents go. -/
def exponentFor (num den : Nat) : Int :=
  let guess := (Nat.log2 num : Int) - (Nat.log2 den : Int) - ((precision : Int) - 1)
  let (n, d) := scale num den guess
  max (if n / d < Nat.pow 2 (precision - 1) then guess - 1 else guess) minExponent

/-- The nearest number to `num / den`, infinite beyond the largest one. -/
def ofRatio (negative : Bool) (num den : Nat) : Binary64 :=
  if num = 0 then finite negative 0 minExponent
  else
    let exponent := exponentFor num den
    let (n, d) := scale num den exponent
    let significand := roundDiv n d
    let (m, e) :=
      if significand = Nat.pow 2 precision then (Nat.pow 2 (precision - 1), exponent + 1)
      else (significand, exponent)
    if maxExponent < e then infinite negative else finite negative m e

/-- The nearest number to a significand times a power of two. -/
def ofScaled (negative : Bool) (significand : Nat) (exponent : Int) : Binary64 :=
  if 0 ≤ exponent then ofRatio negative (significand * Nat.pow 2 exponent.toNat) 1
  else ofRatio negative significand (Nat.pow 2 (-exponent).toNat)

/-- The nearest number to an integer. -/
def ofInt (n : Int) : Binary64 := ofRatio (n < 0) n.natAbs 1

/-- The nearest number to an integer, if the integer is within the finite numbers' range. -/
def ofInt? (n : Int) : Option Binary64 :=
  match ofInt n with
  | infinite _ => none
  | x => some x

/-- The nearest number to a coefficient times a power of ten. An exponent far outside the range is
settled by the number of digits alone. -/
def ofDecimal (negative : Bool) (coefficient : Nat) (exponent : Int) : Binary64 :=
  let magnitude := exponent + ((Nat.toDigits 10 coefficient).length : Int)
  if coefficient = 0 then finite negative 0 minExponent
  else if 400 < magnitude then infinite negative
  else if magnitude < -400 then finite negative 0 minExponent
  else if 0 ≤ exponent then ofRatio negative (coefficient * Nat.pow 10 exponent.toNat) 1
  else ofRatio negative coefficient (Nat.pow 10 (-exponent).toNat)

def isNegative : Binary64 → Bool
  | nan => false
  | infinite negative => negative
  | finite negative _ _ => negative

def isZero : Binary64 → Bool
  | finite _ 0 _ => true
  | _ => false

/-- The signed integer that a finite number is, counted in units of two to a smaller exponent. -/
def unitsAt (exponent : Int) (negative : Bool) (m : Nat) (e : Int) : Int :=
  let units : Int := m * Nat.pow 2 (e - exponent).toNat
  if negative then -units else units

def mul : Binary64 → Binary64 → Binary64
  | nan, _ => nan
  | _, nan => nan
  | infinite s, infinite t => infinite (s != t)
  | infinite s, finite t m _ => if m = 0 then nan else infinite (s != t)
  | finite s m _, infinite t => if m = 0 then nan else infinite (s != t)
  | finite s m e, finite t n f => ofScaled (s != t) (m * n) (e + f)

def add : Binary64 → Binary64 → Binary64
  | nan, _ => nan
  | _, nan => nan
  | infinite s, infinite t => if s = t then infinite s else nan
  | infinite s, finite _ _ _ => infinite s
  | finite _ _ _, infinite t => infinite t
  | finite s m e, finite t n f =>
    let exponent := min e f
    let sum := unitsAt exponent s m e + unitsAt exponent t n f
    if sum = 0 then finite (s && t) 0 minExponent
    else ofScaled (sum < 0) sum.natAbs exponent

/-- The order of numbers; not-a-number is below nothing and nothing is below it. -/
def lt : Binary64 → Binary64 → Bool
  | nan, _ => false
  | _, nan => false
  | infinite s, infinite t => s && !t
  | infinite s, finite _ _ _ => s
  | finite _ _ _, infinite t => !t
  | finite s m e, finite t n f =>
    let exponent := min e f
    unitsAt exponent s m e < unitsAt exponent t n f

/-- Whether two numbers are equal, the two zeros being so and not-a-number being equal to
nothing. -/
def same : Binary64 → Binary64 → Bool
  | nan, _ => false
  | _, nan => false
  | x, y => !lt x y && !lt y x

def le (x y : Binary64) : Bool := lt x y || same x y

/-- The greatest integer not above a finite number. -/
def floor? : Binary64 → Option Int
  | finite negative m e =>
    let n : Int := if negative then -(m : Int) else m
    some (if 0 ≤ e then n * Nat.pow 2 e.toNat else n / Nat.pow 2 (-e).toNat)
  | _ => none

/-- The integer that a number is, if it is one. -/
def integer? (x : Binary64) : Option Int :=
  match x, floor? x with
  | finite _ m e, some n => if 0 ≤ e || m % Nat.pow 2 (-e).toNat = 0 then some n else none
  | _, _ => none

end Binary64

end TaskAudit
