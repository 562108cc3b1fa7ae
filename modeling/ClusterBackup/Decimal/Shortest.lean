/-
ClusterBackup.Decimal.Shortest — the fewest digits that read back.

A double is what every real number of an interval around it rounds to; the
ends of the interval count when the significand is even. `shortest` walks
down the powers of ten and stops at the first one of which a multiple lies
in that interval. Only the two multiples next to the double can be the
first, and of two hits the nearer one is taken. All of it is arithmetic on
natural numbers, at a scale of a quarter of the last binary place.
-/
import ClusterBackup.Decimal.Binary64

namespace ClusterBackup.Decimal

/-- A decimal number `digits * 10 ^ exponent`. -/
structure Scientific where
  digits : Nat
  exponent : Int
deriving DecidableEq, Repr

namespace Magnitude

/-- The interval that rounds to a double, in quarters of the unit `2 ^ exponent`: the distance down
to its lower end, four times the significand, and the distance up to its upper end. -/
def reach (x : Magnitude) : Nat × Nat × Nat :=
  let below := if x.significand = leastFull ∧ x.exponent ≠ minExponent then 1 else 2
  (below, 4 * x.significand, 2)

/-- Where the multiple `d * 10 ^ k` rounds to the double. -/
def admits (x : Magnitude) (d : Nat) (k : Int) : Bool :=
  let (below, middle, above) := x.reach
  let unit := x.exponent - 2
  let left := d * power 10 k * power 2 (-unit)
  let scale := power 10 (-k) * power 2 unit
  let low := (middle - below) * scale
  let high := (middle + above) * scale
  if x.significand % 2 = 0 then low ≤ left && left ≤ high else low < left && left < high

/-- The multiples of `10 ^ k` next to the double, from below. -/
def floorMultiple (x : Magnitude) (k : Int) : Nat :=
  x.significand * power 2 x.exponent * power 10 (-k) / (power 2 (-x.exponent) * power 10 k)

/-- Where `d * 10 ^ k` is closer to the double than `(d + 1) * 10 ^ k`; a tie goes to the even
one. -/
def nearerBelow (x : Magnitude) (d : Nat) (k : Int) : Bool :=
  let twice := 2 * (x.significand * power 2 x.exponent * power 10 (-k))
  let middle := (2 * d + 1) * (power 2 (-x.exponent) * power 10 k)
  twice < middle || (twice == middle && d % 2 == 0)

/-- The decimal number at the power of ten `10 ^ k`, if one rounds to the double. -/
def atPower? (x : Magnitude) (k : Int) : Option Scientific :=
  let d := x.floorMultiple k
  match x.admits d k, x.admits (d + 1) k with
  | true, true => some ⟨if x.nearerBelow d k then d else d + 1, k⟩
  | true, false => some ⟨d, k⟩
  | false, true => some ⟨d + 1, k⟩
  | false, false => none

/-- The first hit on the way down from `10 ^ (k + tries)` to `10 ^ k`. -/
def searchDown (x : Magnitude) (k : Int) : Nat → Scientific
  | 0 => (x.atPower? k).getD ⟨x.floorMultiple k, k⟩
  | tries + 1 =>
    match x.atPower? (k + (tries + 1)) with
    | some s => s
    | none => searchDown x k tries

/-- The power of ten at which every double has an exact multiple close enough. -/
def lastPower : Int := -345

/-- The shortest decimal number that rounds to the double; zero has no digits. -/
def shortest (x : Magnitude) : Scientific :=
  if x.significand = 0 then ⟨0, 0⟩ else x.searchDown lastPower 655

end Magnitude

end ClusterBackup.Decimal
