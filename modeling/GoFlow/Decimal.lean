/-!
# Fractions and decimal numbers

- `Fraction`: the exact value of a number.
- `Decimal`: a number as it is written: a sign, digits, and the power of ten they stand for.
- `divEven`: a quotient rounded to the nearest whole number, halves to the even one.
-/

namespace GoFlow

/-- The number `num / den`. -/
structure Fraction where
  num : Int
  den : Nat := 1
deriving DecidableEq, Repr

namespace Fraction

/-- The difference of two numbers. -/
def sub (a b : Fraction) : Fraction := ⟨a.num * b.den - b.num * a.den, a.den * b.den⟩

/-- A multiple of a number. -/
def scale (a : Fraction) (n : Nat) : Fraction := ⟨a.num * n, a.den⟩

/-- The whole number that a fraction is, if it is one. -/
def toInt? (a : Fraction) : Option Int :=
  if a.num % a.den = 0 then some (a.num / a.den) else none

end Fraction

/-- The whole number nearest to `n / d`; of two that are equally near, the even one. -/
def divEven (n d : Nat) : Nat :=
  let q := n / d
  let twice := 2 * (n % d)
  if twice < d || (twice == d && q % 2 == 0) then q else q + 1

/-- A power of ten. -/
def tenTo (n : Nat) : Nat := Nat.pow 10 n

/-- The number `± digits * 10 ^ exponent`. -/
structure Decimal where
  negative : Bool := false
  digits : Nat
  exponent : Int := 0
deriving DecidableEq, Repr

namespace Decimal

/-- An integer as a decimal number. -/
def ofInt (n : Int) : Decimal := ⟨n < 0, n.natAbs, 0⟩

/-- Size of a decimal number as a quotient of two whole numbers. -/
def magnitude (d : Decimal) : Nat × Nat :=
  if d.exponent < 0 then (d.digits, tenTo (-d.exponent).toNat)
  else (d.digits * tenTo d.exponent.toNat, 1)

/-- How many digits stand in front of the point; the number is at least a tenth of one followed by
that many zeros, and less than all of it. -/
def pointAt (d : Decimal) : Int := (toString d.digits).length + d.exponent

/-- `text` with zeros in front up to the width. -/
def padZeros (width : Nat) (text : String) : String :=
  String.ofList (List.replicate (width - text.length) '0') ++ text

/-- The sign of a number. -/
def sign (d : Decimal) : String := if d.negative then "-" else ""

/-- Digits in front of the point, and as many behind it as there are places. -/
def renderPlaces (d : Decimal) (places : Nat) : String :=
  let shift := d.exponent + places
  let digits := if 0 ≤ shift then d.digits * tenTo shift.toNat else d.digits / tenTo (-shift).toNat
  d.sign ++ toString (digits / tenTo places) ++ "."
    ++ padZeros places (toString (digits % tenTo places))

end Decimal

end GoFlow
