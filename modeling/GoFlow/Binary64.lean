import GoFlow.Decimal

/-!
# Binary numbers of 64 bits

Numbers with 53 significant bits and an exponent of 11 bits, with two zeros, two infinities, and a
value for what is no number. Every operation is the exact one, rounded to the nearest number of the
kind, halves to the even one.

- `Binary64.nearest`: the number next to a fraction.
- `Binary64.ofDecimal`: the number next to a decimal number.
- `Binary64.sub`, `Binary64.scale`: arithmetic.
- `Binary64.toPlaces`, `Binary64.renderPlaces`: rounding to decimal places, exact on the binary
  value, halves to the even neighbour.
-/

namespace GoFlow

/-- A binary number of 64 bits. -/
inductive Binary64 where
  /-- The number `± mantissa * 2 ^ exponent`. -/
  | finite (negative : Bool) (mantissa : Nat) (exponent : Int)
  | infinite (negative : Bool)
  /-- No number. -/
  | nan
deriving DecidableEq, Repr

namespace Binary64

/-- A power of two. -/
def twoTo (n : Nat) : Nat := Nat.pow 2 n

/-- Zero. -/
def zero : Binary64 := .finite false 0 0

/-! ## Rounding -/

/-- The exponent of the last of 53 bits of `n / d`, not below that of the smallest numbers. -/
def lastBit (n d : Nat) : Int :=
  let guess : Int := (n.log2 : Int) - d.log2 - 52
  -- the guess is one too high if the first bit of the quotient is not set
  let high := if 0 ≤ guess then n < d * twoTo (guess.toNat + 52)
    else n * twoTo (-guess).toNat < d * twoTo 52
  let exponent := if high then guess - 1 else guess
  if exponent < -1074 then -1074 else exponent

/-- A number from a mantissa that may have been rounded up to 54 bits or down to nothing. -/
def normal (negative : Bool) (mantissa : Nat) (exponent : Int) : Binary64 :=
  if mantissa = 0 then .finite negative 0 0
  else if mantissa = twoTo 53 then .finite negative (twoTo 52) (exponent + 1)
  else .finite negative mantissa exponent

/-- The number next to `n / d`, with a sign. -/
def nearest (negative : Bool) (n d : Nat) : Binary64 :=
  let e := lastBit n d
  if n = 0 then .finite negative 0 0
  else if 0 ≤ e then
    let mantissa := divEven n (d * twoTo e.toNat)
    if twoTo 1024 ≤ mantissa * twoTo e.toNat then .infinite negative
    else normal negative mantissa e
  else normal negative (divEven (n * twoTo (-e).toNat) d) e

/-- The number next to a decimal number. Far outside the range of the binary numbers, only the place
of the point is looked at. -/
def ofDecimal (d : Decimal) : Binary64 :=
  if d.digits = 0 ∨ d.pointAt < -400 then .finite d.negative 0 0
  else if 400 < d.pointAt then .infinite d.negative
  else nearest d.negative d.magnitude.1 d.magnitude.2

/-- The number next to an integer. -/
def ofInt (n : Int) : Binary64 := ofDecimal (.ofInt n)

/-- Size of a finite number as a quotient of two whole numbers. -/
def magnitude (mantissa : Nat) (exponent : Int) : Nat × Nat :=
  if exponent < 0 then (mantissa, twoTo (-exponent).toNat)
  else (mantissa * twoTo exponent.toNat, 1)

/-- The exact value of a number, if it is finite. -/
def toFraction? : Binary64 → Option Fraction
  | .finite negative mantissa exponent =>
    let (n, d) := magnitude mantissa exponent
    some ⟨if negative then -(n : Int) else n, d⟩
  | _ => none

/-! ## Arithmetic -/

/-- The number next to a fraction. Zero gets the sign that is given. -/
def ofFraction (zeroNegative : Bool) (q : Fraction) : Binary64 :=
  if q.num = 0 then .finite zeroNegative 0 0 else nearest (q.num < 0) q.num.natAbs q.den

/-- The difference of two numbers. Of two zeros it is negative only if the first one is negative and
the second one is not. -/
def sub : Binary64 → Binary64 → Binary64
  | .nan, _ | _, .nan => .nan
  | .infinite a, .infinite b => if a = b then .nan else .infinite a
  | .infinite a, .finite .. => .infinite a
  | .finite .., .infinite b => .infinite !b
  | .finite a m e, .finite b m' e' =>
    match (Binary64.finite a m e).toFraction?, (Binary64.finite b m' e').toFraction? with
    | some x, some y => ofFraction (m = 0 && a && !b) (x.sub y)
    | _, _ => .nan

/-- The product with a whole number above zero. -/
def scale (x : Binary64) (n : Nat) : Binary64 :=
  match x with
  | .finite negative m e =>
    let (a, b) := magnitude m e
    nearest negative (a * n) b
  | x => x

/-- Whether the number is above a whole number. -/
def isAbove (x : Binary64) (n : Nat) : Bool :=
  match x with
  | .finite negative m e =>
    let (a, b) := magnitude m e
    !negative && n * b < a
  | .infinite negative => !negative
  | .nan => false

/-- The whole number that a number is, if it is one. -/
def toInt? (x : Binary64) : Option Int := x.toFraction?.bind Fraction.toInt?

/-! ## Decimal places -/

/-- The decimal number with so many places that is next to a finite number. -/
def placesOf (negative : Bool) (mantissa : Nat) (exponent : Int) (places : Nat) : Decimal :=
  let (n, d) := magnitude mantissa exponent
  ⟨negative, divEven (n * tenTo places) d, -(places : Int)⟩

/-- The number rounded to decimal places. -/
def toPlaces (x : Binary64) (places : Nat) : Binary64 :=
  match x with
  | .finite negative m e => ofDecimal (placesOf negative m e places)
  | x => x

/-- The number with so many places. -/
def renderPlaces (x : Binary64) (places : Nat) : String :=
  match x with
  | .finite negative m e => (placesOf negative m e places).renderPlaces places
  | .infinite negative => if negative then "-inf" else "inf"
  | .nan => "nan"

end Binary64

end GoFlow
