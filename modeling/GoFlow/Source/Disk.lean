import GoFlow.Path
import GoFlow.Text.Codec

/-!
# Files

What a path leads to, and why it may lead to nothing.

- `Entry`: a file or a directory.
- `FileFault`: why it cannot be read.
- `Disk`: a working directory with its files, for looking paths up.
-/

namespace GoFlow

/-- What a path leads to. -/
inductive Entry where
  | file (bytes : List UInt8)
  /-- A file that may not be read. Its size may be asked for. -/
  | locked (size : Nat)
  | directory
deriving DecidableEq, Repr

/-- The size that is on record for a directory. -/
def directorySize : Nat := 4096

/-- Size in bytes. -/
def Entry.size : Entry → Nat
  | .file bytes => bytes.length
  | .locked size => size
  | .directory => directorySize

/-- Why a file cannot be read. -/
inductive FileFault where
  | missing (path : Path)
  /-- Something on the way is a file. -/
  | notDirectory (path : Path)
  | isDirectory (path : Path)
  /-- The path, or the way to it, is closed to the one who asks. -/
  | denied (path : Path)
  /-- A step of the path, or all of it, is longer than names can be. -/
  | nameTooLong (path : Path)
  /-- Any other fault that the system has a number and words for. -/
  | other (code : Nat) (words : String) (path : Path)
  /-- The path holds the character zero. -/
  | zeroCharacter
deriving DecidableEq, Repr

namespace FileFault

/-- A fault that the system has a number and words for, about a path. -/
def systemMessage (code : Nat) (words : String) (p : Path) : String :=
  "[Errno " ++ toString code ++ "] " ++ words ++ ": " ++ quoted p.render

/-- The fault in words. -/
def message : FileFault → String
  | .missing p => systemMessage 2 "No such file or directory" p
  | .denied p => systemMessage 13 "Permission denied" p
  | .notDirectory p => systemMessage 20 "Not a directory" p
  | .isDirectory p => systemMessage 21 "Is a directory" p
  | .nameTooLong p => systemMessage 36 "File name too long" p
  | .other code words p => systemMessage code words p
  | .zeroCharacter => "embedded null byte"

/-- The name under which reports list the fault. -/
def kindName : FileFault → String
  | .missing _ => "FileNotFoundError"
  | .notDirectory _ => "NotADirectoryError"
  | .isDirectory _ => "IsADirectoryError"
  | .denied _ => "PermissionError"
  | .nameTooLong _ | .other _ _ _ => "OSError"
  | .zeroCharacter => "ValueError"

end FileFault

/-- Whether a word, taken as a path, leads to nothing or to something that may be read. Behind a
slash there is nothing in a file. -/
def isReadable (find : Path → Except FileFault Entry) (word : String) : Bool :=
  match find (Path.ofString word) with
  | .ok (.locked _) => word.endsWith "/" || word.endsWith "/."
  | _ => true

/-- A working directory: what its files and directories hold, by the steps that lead there. -/
abbrev Disk := List (List String × Entry)

namespace Disk

/-- What is found at the end of a chain of steps. A directory is there if anything is below it. -/
def at? (d : Disk) (steps : List String) : Option Entry :=
  match d.lookup steps with
  | some e => some e
  | none => if d.any fun e => steps.isPrefixOf e.1 then some .directory else none

/-- Most bytes of a step. -/
def longestStep : Nat := 255

/-- Most bytes of a path. -/
def longestPath : Nat := 4095

/-- One step up from where `here` led, the latest step first. Above the working directory the steps
up are kept. -/
def up : List String → List String
  | [] => [".."]
  | step :: rest => if step == ".." then ".." :: step :: rest else rest

/-- Follows steps from a directory on; `here` holds the steps that led there, the latest first. -/
def follow (d : Disk) (p : Path) (here : List String) : List String → Except FileFault Entry
  | [] => .ok .directory
  | ".." :: rest => follow d p (up here) rest
  | step :: rest =>
    if step.utf8ByteSize > longestStep then .error (.nameTooLong p)
    else
      match d.at? (step :: here).reverse, rest with
      | none, _ => .error (.missing p)
      | some .directory, _ => follow d p (step :: here) rest
      | some e, [] => .ok e
      | some _, _ :: _ => .error (.notDirectory p)

/-- What a path leads to. The disk knows nothing outside the working directory. -/
def find (d : Disk) (p : Path) : Except FileFault Entry :=
  if p.render.toList.contains '\x00' then .error .zeroCharacter
  else if p.render.utf8ByteSize > longestPath then .error (.nameTooLong p)
  else if p.root == "" then d.follow p [] p.steps
  else
    match p.steps with
    | [] => .ok .directory
    | first :: _ =>
      .error (if first.utf8ByteSize > longestStep then .nameTooLong p else .missing p)

/-- Puts a file or directory at the end of some steps, and directories on the way. -/
def addFrom (d : Disk) (e : Entry) (here : List String) : List String → Disk
  | [] => (here.reverse, e) :: d
  | ".." :: rest => addFrom ((here.reverse, .directory) :: d) e (up here) rest
  | step :: rest =>
    addFrom (if here.isEmpty then d else (here.reverse, .directory) :: d) e (step :: here) rest

/-- Puts a file or directory at the end of a path. -/
def add (d : Disk) (p : Path) (e : Entry) : Disk := d.addFrom e [] p.steps

/-- The bytes of the settings file in the working directory. -/
def dotenv? (d : Disk) : Option (List UInt8) :=
  match d.find (Path.ofString ".env") with
  | .ok (.file bytes) => some bytes
  | _ => none

end Disk

end GoFlow
