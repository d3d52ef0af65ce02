import GoFlow.Go.Statement
import GoFlow.Text.Codec

/-!
# A front end for Go

Turns the bytes of a source into a syntax tree. Where the source is no Go, the tree says so.

- `rule`: the rule of every part, with the parts inside taken care of by the same rules.
- `sourceFile`: a package clause and declarations.
- `frontEnd`: from bytes to a tree, for any bytes.
-/

namespace GoFlow.Go

open Rule

/-- The rule of a part. `fuel` bounds how deep parts nest. -/
def rule : Nat → Goal → Rule Node
  | 0, _ => fail
  | fuel + 1, goal =>
    let k : Parts := ⟨fuel, rule fuel⟩
    match goal with
    | .type => typeRule k
    | .expression braces => expressionRule k braces
    | .operand braces => operandRule k braces
    | .literalValue => literalValueRule k
    | .block => blockRule k
    | .statement => statementRule k
    | .ifStatement => ifStatementRule k

/-- Declarations up to the end of the source. -/
def declarationsFrom (k : Parts) (done : List Node) : Nat → Rule (List Node)
  | 0 => fail
  | bound + 1 => do
    match ← peek with
    | none => return done.reverse
    | some _ =>
      let d ← topDeclaration k
      endRow
      declarationsFrom k (d :: done) bound

/-- The name of the package. -/
def packageClause : Rule Node := do
  let start ← here
  expect (.keyword "package")
  let first ← name
  let n ← plain "package_clause" start [first]
  endRow
  return n

/-- A source. One without any tokens is fine as well. -/
def sourceFile (k : Parts) : Rule Node := do
  match ← peek with
  | none => plain "source_file" {} []
  | some _ =>
    let package ← packageClause
    plain "source_file" {} (package :: (← declarationsFrom k [] k.bound))

/-- The most that parts can nest: no part goes more than a few rules deeper without taking a
token. -/
def depthOf (tokens : List Token) : Nat := 16 * (tokens.length + 1)

/-- The tree of a row of tokens. A source that is no Go has a fault where it stops being Go. -/
def treeOf (tokens : List Token) : Node :=
  let depth := depthOf tokens
  match sourceFile ⟨depth, rule depth⟩ ⟨tokens, {}⟩ with
  | .ok (root, _) => root
  | .error p =>
    .mk { label := .other "source_file", flagged := true }
      [nodeBetween .error p p []]

/-! ## Characters -/

/-- The first character of some bytes and what follows it. A byte that starts no character stands
for the replacement character. -/
def firstChar (b : UInt8) (rest : List UInt8) : Char × List UInt8 :=
  match Utf8.lead? 0 b with
  | none => (if b < 0x80 then Char.ofNat b.toNat else '\ufffd', rest)
  | some p =>
    match Utf8.decode (b :: rest.take p.owed) with
    | .ok [c] => (c, rest.drop p.owed)
    | _ => ('\ufffd', rest)

/-- The characters of some bytes, whatever they are; `done` holds those so far in reverse. -/
def readChars : Nat → List Char → List UInt8 → List Char
  | 0, done, _ => done.reverse
  | _, done, [] => done.reverse
  | fuel + 1, done, b :: rest =>
    if b < 0x80 then readChars fuel (Char.ofNat b.toNat :: done) rest
    else
      let (c, rest) := firstChar b rest
      readChars fuel (c :: done) rest

/-- The syntax tree of a source. A byte order mark at its start does not count. -/
def frontEnd (bytes : List UInt8) : Node :=
  let bytes := if Utf8.mark.isPrefixOf bytes then bytes.drop 3 else bytes
  treeOf (tokenize (readChars bytes.length [] bytes))

end GoFlow.Go
