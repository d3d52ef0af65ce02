import GoFlow.Binary64

/-!
# Shortest decimal text

The fewest digits that read back as the same binary number, and of those the ones next to it.

- `Binary64.shortest`: the digits and the place of the point.
- `NumberStyle.render`: the text of a number: positional as long as the point is not too far from
  the digits, else with an exponent.
-/

namespace GoFlow

namespace Binary64

/-- How many digits stand in front of the point of `n / d`. -/
def pointOf (n d : Nat) : Int :=
  let guess := ((n.log2 : Int) - d.log2) * 30103 / 100000 + 1
  -- whether `n / d` is at least the power of ten
  let reaches (k : Int) : Bool :=
    if 0 ≤ k then d * tenTo k.toNat ≤ n else d ≤ n * tenTo (-k).toNat
  if reaches guess then guess + 1
  else if reaches (guess - 1) then guess
  else guess - 1

/-- The two decimal numbers around `n / d` that have `count` digits, of which `point` stand in front
of the point, the nearer one first; if both are equally near, the even one. -/
def neighbours (n d : Nat) (point : Int) (count : Nat) : List Decimal :=
  let shift := (count : Int) - point
  let (a, b) := if 0 ≤ shift then (n * tenTo shift.toNat, d) else (n, d * tenTo (-shift).toNat)
  let low : Decimal := ⟨false, a / b, -shift⟩
  let high : Decimal := ⟨false, a / b + 1, -shift⟩
  if divEven a b = a / b then [low, high] else [high, low]

/-- The first of some decimal numbers that reads back as the binary number. -/
def readsBack? (x : Binary64) (ds : List Decimal) : Option Decimal :=
  ds.find? (ofDecimal · == x)

/-- The fewest digits, from `count` on, that read back. Seventeen are always enough. -/
def shortestFrom (x : Binary64) (n d : Nat) (point : Int) : Nat → Nat → Decimal
  | 0, count => ⟨false, n * tenTo count / d, -(count : Int)⟩
  | fuel + 1, count =>
    (readsBack? x (neighbours n d point count)).getD (shortestFrom x n d point fuel (count + 1))

/-- The fewest digits that read back as a finite number above zero. -/
def shortest (mantissa : Nat) (exponent : Int) : Decimal :=
  let (n, d) := magnitude mantissa exponent
  shortestFrom (nearest false n d) n d (pointOf n d) 17 1

end Binary64

/-- How numbers are written. -/
structure NumberStyle where
  /-- Most digits in front of the point. -/
  mostWhole : Int
  /-- Most zeros between the point and the digits. -/
  mostZeros : Int
  infinity : String
  notNumber : String

namespace NumberStyle

/-- Digits with the point at its place. -/
def positional (digits : String) (point : Int) : String :=
  if point ≤ 0 then "0." ++ String.ofList (List.replicate (-point).toNat '0') ++ digits
  else if digits.length ≤ point.toNat then
    digits ++ String.ofList (List.replicate (point.toNat - digits.length) '0') ++ ".0"
  else
    String.ofList (digits.toList.take point.toNat) ++ "."
      ++ String.ofList (digits.toList.drop point.toNat)

/-- Digits with the point behind the first of them, and an exponent of at least two digits. -/
def scientific (digits : String) (point : Int) : String :=
  let mantissa := match digits.toList with
    | first :: second :: rest => String.ofList (first :: '.' :: second :: rest)
    | _ => digits
  let exponent := point - 1
  mantissa ++ (if exponent < 0 then "e-" else "e+")
    ++ Decimal.padZeros 2 (toString exponent.natAbs)

/-- The text of a number. -/
def render (style : NumberStyle) : Binary64 → String
  | .nan => style.notNumber
  | .infinite negative => (if negative then "-" else "") ++ style.infinity
  | .finite negative mantissa exponent =>
    let sign := if negative then "-" else ""
    if mantissa = 0 then sign ++ "0.0"
    else
      let d := Binary64.shortest mantissa exponent
      let digits := String.ofList ((toString d.digits).toList.reverse.dropWhile (· == '0')).reverse
      let point := d.pointAt
      sign ++ (if -style.mostZeros ≤ point ∧ point ≤ style.mostWhole then positional digits point
        else scientific digits point)

/-- Numbers in messages and on log lines. -/
def message : NumberStyle := ⟨16, 3, "inf", "nan"⟩

/-- Numbers in JSON. -/
def json : NumberStyle := ⟨16, 3, "Infinity", "NaN"⟩

end NumberStyle

end GoFlow
