/-
ClusterBackup.Json.Number — number literals and number texts.

Reading. The digits of a literal are collected in a 64-bit significand for
as long as they fit. A whole literal without overflow, fraction or
exponent is an integer, where 64 bits hold it with its sign; negative zero
and every other literal is a double: the significand, times or over one
power of ten, rounded after each of these two steps. Steps beyond ten to
the 308th are taken 308 at a time. A double beyond the largest is no
number.

Writing. Integers are written verbatim, doubles with the fewest digits
that read back: positional while the point stands at most sixteen places
after the first digit and fewer than five zeros follow it, and with an
exponent that shows its sign otherwise.
-/
import ClusterBackup.Json.Value
import ClusterBackup.Decimal.Shortest

namespace ClusterBackup.Json

open ClusterBackup.Decimal

/-- The parts of a number literal: its sign, the digits before and after the point, and the sign and
digits of the exponent. -/
structure Literal where
  negative : Bool
  whole : List Nat
  fraction : List Nat
  exponent : Option (Bool × List Nat)

namespace Literal

/-! ## Collecting digits -/

/-- The largest significand. -/
def maxSignificand : Nat := UInt64.size - 1

/-- Digits enter the significand until one does not fit; that one and those after it are left. -/
def absorb (significand : Nat) : List Nat → Nat × List Nat
  | [] => (significand, [])
  | d :: ds =>
    if significand * 10 + d ≤ maxSignificand then absorb (significand * 10 + d) ds
    else (significand, d :: ds)

/-- The whole numbers of 32 bits with sign are below this one, and not below its negative. -/
def int32Bound : Nat := 2147483648

/-- The digits as a number, unless it exceeds 32 bits with sign. -/
def smallExponent? (digits : List Nat) : Option Nat :=
  digits.foldl
    (fun n d => n.bind fun n => if n * 10 + d < int32Bound then some (n * 10 + d) else none)
    (some 0)

/-! ## Scaling -/

/-- The double nearest to a power of ten. -/
def powerOfTen (k : Nat) : Magnitude := (Magnitude.ofNat? (Decimal.power 10 k)).getD .zero

/-- The largest power of ten that is taken in one step. -/
def maxStep : Nat := 308

/-- The magnitude times ten to the exponent. -/
def scaleUp? (x : Magnitude) (exponent : Nat) : Option Magnitude :=
  if exponent ≤ maxStep then x.mul? (powerOfTen exponent)
  else if x.significand = 0 then some x
  else none

/-- The magnitude over ten to the exponent. -/
def scaleDown? (x : Magnitude) (exponent : Nat) : Option Magnitude :=
  if exponent ≤ maxStep then x.div? (powerOfTen exponent)
  else if x.significand = 0 then some x
  else do scaleDown? (← x.div? (powerOfTen maxStep)) (exponent - maxStep)
termination_by exponent
decreasing_by simp [maxStep] at *; omega

/-- The double of a significand and an exponent of ten. -/
def double? (negative : Bool) (significand : Nat) (exponent : Int) : Option Number := do
  let x ← Magnitude.ofNat? significand
  let scaled ←
    if 0 ≤ exponent then scaleUp? x exponent.toNat else scaleDown? x (-exponent).toNat
  return .float ⟨negative, scaled⟩

/-- Exponents are kept within 32 bits with sign. -/
def clampExponent (e : Int) : Int := max (-int32Bound) (min e (int32Bound - 1))

/-! ## The number of a literal -/

/-- The number that the literal denotes; none where it is beyond every double. -/
def value? (l : Literal) : Option Number :=
  let (whole, left) := absorb 0 l.whole
  let (significand, unread) := absorb whole l.fraction
  let exponent : Int := left.length - (l.fraction.length - unread.length : Nat)
  match l.exponent with
  | some (negativeExponent, digits) =>
    match smallExponent? digits with
    | some e =>
      double? l.negative significand
        (clampExponent (if negativeExponent then exponent - e else exponent + e))
    | none =>
      if significand ≠ 0 ∧ negativeExponent = false then none
      else some (.float ⟨l.negative, .zero⟩)
  | none =>
    if left.isEmpty ∧ l.fraction.isEmpty then
      if l.negative then
        if 0 < whole ∧ whole ≤ int64Bound then some (.int (-whole))
        else double? true whole 0
      else some (.int whole)
    else double? l.negative significand exponent

/-! ## Scanning -/

/-- The value of a decimal digit. -/
def digit? (c : Char) : Option Nat :=
  if c.isDigit then some (c.toNat - '0'.toNat) else none

/-- The digits at the front of the characters and the characters after them. -/
def spanDigits (cs : List Char) : List Nat × List Char :=
  ((cs.takeWhile Char.isDigit).filterMap digit?, cs.dropWhile Char.isDigit)

/-- The digits before the point: a single zero, or digits that do not start with one. -/
def scanWhole? (cs : List Char) : Option (List Nat × List Char) :=
  match spanDigits cs with
  | ([], _) => none
  | (0 :: _ :: _, _) => none
  | (ds, rest) => some (ds, rest)

/-- The point and the digits after it, if there is a point. -/
def scanFraction? : List Char → Option (List Nat × List Char)
  | '.' :: cs =>
    match spanDigits cs with
    | ([], _) => none
    | (ds, rest) => some (ds, rest)
  | cs => some ([], cs)

/-- The digits of an exponent, after its sign. -/
def scanExponentDigits? (negative : Bool) (cs : List Char) :
    Option (Option (Bool × List Nat) × List Char) :=
  match spanDigits cs with
  | ([], _) => none
  | (ds, rest) => some (some (negative, ds), rest)

/-- The exponent, if there is one. -/
def scanExponent? : List Char → Option (Option (Bool × List Nat) × List Char)
  | c :: cs =>
    if c = 'e' ∨ c = 'E' then
      match cs with
      | '+' :: cs => scanExponentDigits? false cs
      | '-' :: cs => scanExponentDigits? true cs
      | cs => scanExponentDigits? false cs
    else some (none, c :: cs)
  | [] => some (none, [])

/-- A literal at the front of the characters and the characters after it. -/
def scan? (cs : List Char) : Option (Literal × List Char) := do
  let (negative, cs) := match cs with
    | '-' :: cs => (true, cs)
    | cs => (false, cs)
  let (whole, cs) ← scanWhole? cs
  let (fraction, cs) ← scanFraction? cs
  let (exponent, cs) ← scanExponent? cs
  return (⟨negative, whole, fraction, exponent⟩, cs)

end Literal

/-! ## Writing -/

namespace Number

/-- How doubles are written: positional while the point stands at most `maxPoint` places after the
first digit and more than `minPoint` places before or after it, and with an exponent otherwise. -/
structure Layout where
  maxPoint : Int
  minPoint : Int

/-- Sixteen places to the right of the first digit, four zeros after the point. -/
def layout : Layout := ⟨16, -5⟩

/-- The exponent with its sign. -/
def exponentText (e : Int) : String := (if e < 0 then "e-" else "e+") ++ toString e.natAbs

/-- The digits with the point at its place, or with an exponent. -/
def arrange (l : Layout) (s : Scientific) : String :=
  let digits := (toString s.digits).toList
  let point : Int := digits.length + s.exponent
  if 0 ≤ s.exponent ∧ point ≤ l.maxPoint then
    String.ofList (digits ++ List.replicate s.exponent.toNat '0') ++ ".0"
  else if 0 < point ∧ point ≤ l.maxPoint then
    String.ofList (digits.take point.toNat) ++ "." ++ String.ofList (digits.drop point.toNat)
  else if l.minPoint < point ∧ point ≤ 0 then
    "0." ++ String.ofList (List.replicate (-point).toNat '0' ++ digits)
  else
    let tail := digits.drop 1
    String.ofList (digits.take 1) ++ (if tail.isEmpty then "" else "." ++ String.ofList tail)
      ++ exponentText (point - 1)

/-- The text of a number. -/
def text : Number → String
  | .int i => toString i
  | .float x => (if x.negative then "-" else "") ++ arrange layout x.magnitude.shortest

end Number

end ClusterBackup.Json
