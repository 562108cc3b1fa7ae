/-
ClusterBackup.Decimal.Binary64 — double-precision numbers, exactly.

A finite double is a sign and a magnitude `significand * 2 ^ exponent`, so
arithmetic on it is arithmetic on natural numbers followed by one
rounding. `Magnitude.ofQuotient?` is that rounding: the nearest double to
a quotient, ties to the even significand, nothing beyond the largest
double. Products, quotients and powers of ten are defined through it.
-/

namespace ClusterBackup.Decimal

/-- The power of a base; one where the exponent is negative. -/
def power (base : Nat) (exponent : Int) : Nat := Nat.pow base exponent.toNat

/-- The number `significand * 2 ^ exponent`. -/
structure Magnitude where
  significand : Nat
  exponent : Int
deriving DecidableEq, Repr

/-- A finite double. Zero keeps its sign. -/
structure Binary64 where
  negative : Bool
  magnitude : Magnitude
deriving DecidableEq, Repr

namespace Magnitude

/-- The exponent of the smallest doubles. -/
def minExponent : Int := -1074

/-- The exponent of the largest doubles. -/
def maxExponent : Int := 971

/-- The least significand of 53 binary digits. -/
def leastFull : Nat := 4503599627370496

def zero : Magnitude := ⟨0, minExponent⟩

/-- The quotient to the nearest whole number, ties to the even one. -/
def roundDiv (num den : Nat) : Nat :=
  let q := num / den
  let r := num % den
  if 2 * r > den ∨ (2 * r = den ∧ q % 2 = 1) then q + 1 else q

/-- The exponent at which the quotient has 53 binary digits, or the smallest exponent. -/
def exponentFor (num den : Nat) : Int :=
  let guess : Int := (num.log2 : Int) - den.log2 - 52
  let scaled := num * power 2 (-guess) / (den * power 2 guess)
  max minExponent (if scaled < leastFull then guess - 1 else guess)

/-- The nearest double to a quotient of natural numbers; none beyond the largest double. -/
def ofQuotient? (num den : Nat) : Option Magnitude :=
  if num = 0 then some zero
  else
    let e := exponentFor num den
    let m := roundDiv (num * power 2 (-e)) (den * power 2 e)
    let result : Magnitude := if m = 2 * leastFull then ⟨leastFull, e + 1⟩ else ⟨m, e⟩
    if result.exponent ≤ maxExponent then some result else none

/-- The nearest double to a product. -/
def mul? (x y : Magnitude) : Option Magnitude :=
  let e := x.exponent + y.exponent
  ofQuotient? (x.significand * y.significand * power 2 e) (power 2 (-e))

/-- The nearest double to a quotient of doubles, the second not zero. -/
def div? (x y : Magnitude) : Option Magnitude :=
  let e := x.exponent - y.exponent
  ofQuotient? (x.significand * power 2 e) (y.significand * power 2 (-e))

/-- The nearest double to a natural number. -/
def ofNat? (n : Nat) : Option Magnitude := ofQuotient? n 1

end Magnitude

end ClusterBackup.Decimal
