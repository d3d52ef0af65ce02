/-!
# Kinds of basic blocks

A basic block stands for the end of one construct of a Go program, and its kind says which.

- `BlockKind`: the fifteen kinds, in the order that fixes their ordinals.
- `BlockKind.isMarker`: the two kinds that never stand for a line of the source.
- `BlockKind.fallsThrough`: the kinds whose blocks run on into the block below them.
-/

namespace GoFlow

/-- The construct whose end a basic block stands for. -/
inductive BlockKind where
  | functionEntry
  | ifCondition
  | elseCondition
  | elseBody
  | switchStatement
  | caseClause
  | selectStatement
  | commClause
  | returnStatement
  | forStatement
  | forBody
  | goStatement
  | start
  | exit
  | unknown
deriving DecidableEq, Repr, Inhabited

namespace BlockKind

/-- Every kind once, by ascending ordinal. -/
def all : List BlockKind :=
  [.functionEntry, .ifCondition, .elseCondition, .elseBody, .switchStatement, .caseClause,
   .selectStatement, .commClause, .returnStatement, .forStatement, .forBody, .goStatement,
   .start, .exit, .unknown]

/-- Position of a kind in `all`. -/
def ordinal : BlockKind → Nat
  | .functionEntry => 0
  | .ifCondition => 1
  | .elseCondition => 2
  | .elseBody => 3
  | .switchStatement => 4
  | .caseClause => 5
  | .selectStatement => 6
  | .commClause => 7
  | .returnStatement => 8
  | .forStatement => 9
  | .forBody => 10
  | .goStatement => 11
  | .start => 12
  | .exit => 13
  | .unknown => 14

/-- The word that reports use for a kind. -/
def name : BlockKind → String
  | .functionEntry => "FUNCTION_ENTRY"
  | .ifCondition => "IF_CONDITION"
  | .elseCondition => "ELSE_CONDITION"
  | .elseBody => "ELSE_BODY"
  | .switchStatement => "SWITCH_STATEMENT"
  | .caseClause => "CASE_CLAUSE"
  | .selectStatement => "SELECT_STATEMENT"
  | .commClause => "COMM_CLAUSE"
  | .returnStatement => "RETURN_STMT"
  | .forStatement => "FOR_STATEMENT"
  | .forBody => "FOR_BODY"
  | .goStatement => "GO_STATEMENT"
  | .start => "START"
  | .exit => "EXIT"
  | .unknown => "UNKNOWN"

/-- The kind that reports call `s`, if there is one. -/
def ofName? (s : String) : Option BlockKind :=
  all.find? (·.name == s)

/-- `start` and `exit` anchor a graph from outside (`BlockKind.is_marker`): they stand for no line
of the source. -/
def isMarker : BlockKind → Bool
  | .start | .exit => true
  | _ => false

/-- Whether control runs on from a block of this kind into the block below it
(`NO_FALLTHROUGH_KINDS`). The six kinds that do not are linked by hand, or never go on. -/
def fallsThrough : BlockKind → Bool
  | .forBody | .elseCondition | .elseBody | .commClause | .caseClause | .returnStatement => false
  | _ => true

theorem mem_all (k : BlockKind) : k ∈ all := by cases k <;> decide

theorem all_getElem?_ordinal (k : BlockKind) : all[k.ordinal]? = some k := by cases k <;> rfl

end BlockKind

end GoFlow
