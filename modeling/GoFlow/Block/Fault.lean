import GoFlow.Block
import GoFlow.Text.Quoted

/-!
# Kinds by name

A kind may be asked for by a name that no kind has, and a marker by a kind that is none.
-/

namespace GoFlow

/-- Why no block can be made. -/
inductive BlockFault where
  | unknownKind (name : String)
  | notMarker (kind : BlockKind)
deriving DecidableEq, Repr

/-- The fault in words. -/
def BlockFault.message : BlockFault → String
  | .unknownKind name => quoted name ++ " is not a valid BlockKind"
  | .notMarker kind => "Not a marker kind: " ++ kind.name

/-- The kind of the name. -/
def BlockKind.named (name : String) : Except BlockFault BlockKind :=
  (BlockKind.ofName? name).elim (.error (.unknownKind name)) .ok

/-- An anchor outside the source (`BasicBlock.marker`). -/
def Block.marker (kind : BlockKind) : Except BlockFault Block :=
  (Block.marker? kind).elim (.error (.notMarker kind)) .ok

end GoFlow
