/-!
# Numbers of Go

The grammar of number literals: four bases, fractions, exponents, imaginary numbers, and single
underscores between digits.

- `scanNumber`: splits off the longest text that reads like a number, and says whether it is one.
-/

namespace GoFlow.Go

/-- Whether a character is a digit of the base. -/
def isDigitOf (base : Nat) (c : Char) : Bool :=
  let value :=
    if c.isDigit then c.toNat - '0'.toNat
    else if 'a' ≤ c && c ≤ 'f' then c.toNat - 'a'.toNat + 10
    else if 'A' ≤ c && c ≤ 'F' then c.toNat - 'A'.toNat + 10
    else 16
  value < base

/-- How the base of a number is marked. -/
inductive Radix where
  /-- Base ten, without a mark. -/
  | plain
  /-- A leading zero: base eight, unless the number has a fraction or an exponent or is
  imaginary. -/
  | zero
  | binary
  | octal
  | hex
deriving DecidableEq, Repr

namespace Radix

/-- The base of whole numbers. -/
def base : Radix → Nat
  | .plain => 10
  | .zero | .octal => 8
  | .binary => 2
  | .hex => 16

/-- Whether a number goes on with the character. Digits that are too large for a small base count,
so that the whole number is found to be wrong. -/
def goesOn (r : Radix) (c : Char) : Bool := c == '_' || isDigitOf (if r = .hex then 16 else 10) c

/-- The radix at the start of a text, the characters that mark it, and what follows. -/
def split : List Char → Radix × List Char × List Char
  | '0' :: 'x' :: rest => (.hex, ['0', 'x'], rest)
  | '0' :: 'X' :: rest => (.hex, ['0', 'X'], rest)
  | '0' :: 'o' :: rest => (.octal, ['0', 'o'], rest)
  | '0' :: 'O' :: rest => (.octal, ['0', 'O'], rest)
  | '0' :: 'b' :: rest => (.binary, ['0', 'b'], rest)
  | '0' :: 'B' :: rest => (.binary, ['0', 'B'], rest)
  | '0' :: rest => (.zero, ['0'], rest)
  | s => (.plain, [], s)

/-- Whether an exponent with the letter may follow. -/
def takesExponent (r : Radix) (letter : Char) : Bool :=
  if letter == 'e' || letter == 'E' then r = .plain || r = .zero else r = .hex

end Radix

/-- Whether every underscore has a digit on either side; `afterDigit` tells of the character in
front. -/
def separated (r : Radix) (afterDigit : Bool) : List Char → Bool
  | [] => true
  | '_' :: rest =>
    afterDigit && rest.head?.any (fun c => c != '_' && r.goesOn c) && separated r false rest
  | c :: rest => separated r (r.goesOn c) rest

/-- The fraction at the start of a text with its point, and what follows. -/
def splitFraction (r : Radix) : List Char → List Char × List Char
  | '.' :: rest => ('.' :: rest.takeWhile r.goesOn, rest.dropWhile r.goesOn)
  | s => ([], s)

/-- The exponent at the start of a text with its letter and sign, and what follows. -/
def splitExponent (s : List Char) : List Char × List Char :=
  match s with
  | letter :: rest =>
    if letter.toLower == 'e' || letter.toLower == 'p' then
      match rest with
      | sign :: digits =>
        if sign == '+' || sign == '-' then
          (letter :: sign :: digits.takeWhile Radix.plain.goesOn,
            digits.dropWhile Radix.plain.goesOn)
        else (letter :: rest.takeWhile Radix.plain.goesOn, rest.dropWhile Radix.plain.goesOn)
      | [] => ([letter], [])
    else ([], s)
  | [] => ([], [])

/-- Whether an exponent, if there is one, fits the number and has digits. -/
def exponentOk (r : Radix) : List Char → Bool
  | [] => true
  | letter :: rest => r.takesExponent letter && rest.any Char.isDigit

/-- Whether the parts of a number go together. -/
def numberOk (r : Radix) (whole fraction exponent : List Char) (imaginary : Bool) : Bool :=
  let hasDigit := r = .zero || (whole ++ fraction).any fun c => c != '_' && r.goesOn c
  let isWhole := fraction.isEmpty && exponent.isEmpty
  hasDigit && exponentOk r exponent
    && (fraction.isEmpty || r = .plain || r = .zero || (r = .hex && !exponent.isEmpty))
    && (!isWhole || imaginary || whole.all fun c => c == '_' || isDigitOf r.base c)
    && separated r (r != .plain) (whole ++ fraction ++ exponent)

/-- Splits off a number from a text that starts with a digit, or with a point and a digit. Tells
whether it is right, its text, and what follows. -/
def scanNumber (s : List Char) : Bool × List Char × List Char :=
  let (r, mark, s) := Radix.split s
  let whole := s.takeWhile r.goesOn
  let (fraction, s) := splitFraction r (s.dropWhile r.goesOn)
  let (exponent, s) := splitExponent s
  let imaginary := s.head? == some 'i'
  (numberOk r whole fraction exponent imaginary,
    mark ++ whole ++ fraction ++ exponent ++ (if imaginary then ['i'] else []),
    if imaginary then s.drop 1 else s)

end GoFlow.Go
