import GoFlow.Text.Emoji
import GoFlow.Text.Letter
import GoFlow.Text.Markup.Style

/-!
# Markup

Text with tags in square brackets that set the style of what is between them, and with emoji by
name. Only the text is kept here; what the tags say about its looks is checked and dropped.

- `Markup.pieces`: text and tags in turn.
- `Markup.render`: the text, or why the tags do not fit together.
-/

namespace GoFlow

/-- Why a text with markup cannot be read. -/
inductive MarkupFault where
  /-- A tag closes a style that is not open. -/
  | nothingToClose
  /-- The arguments of an action are no constants. -/
  | badAction
  /-- The name of a tag is a colour with a share left out. -/
  | badColour
deriving DecidableEq, Repr

/-- The kind of the fault. -/
def MarkupFault.kindName : MarkupFault → String
  | .nothingToClose | .badAction => "MarkupError"
  | .badColour => "ValueError"

namespace Markup

/-! ## Tags -/

/-- A tag: its name, and what stands behind an equals sign. -/
structure Tag where
  name : List Char
  value : Option (List Char) := none
deriving DecidableEq, Repr

/-- A part of a text with markup. -/
inductive Piece where
  | text (s : List Char)
  | tag (t : Tag)
deriving DecidableEq, Repr

/-- Whether a tag can start with the character. -/
def startsTag (c : Char) : Bool := ('a' ≤ c && c ≤ 'z') || c == '#' || c == '/' || c == '@'

/-- The tag at the front, without its brackets, and what is behind it. -/
def tagText? : List Char → Option (List Char × List Char)
  | '[' :: c :: rest =>
    let inside (c : Char) : Bool := c != '[' && c != ']'
    match startsTag c, rest.dropWhile inside with
    | true, ']' :: behind => some (c :: rest.takeWhile inside, behind)
    | _, _ => none
  | _ => none

/-- The tag with the text. -/
def Tag.ofText (s : List Char) : Tag where
  name := s.takeWhile (· != '=')
  value := match s.dropWhile (· != '=') with
    | _ :: value => some value
    | [] => none

/-- A tag behind backslashes. Two of them stand for one, and one that is left over takes the tag as
text. -/
def escapedTag (slashes : Nat) (s : List Char) : List Piece :=
  (if slashes < 2 then [] else [.text (List.replicate (slashes / 2) '\\')])
  ++ [if slashes % 2 = 1 then .text ('[' :: s ++ [']']) else .tag (.ofText s)]

/-- Text that is done, in reverse, as a piece. -/
def textPiece (done : List Char) : List Piece :=
  if done.isEmpty then [] else [.text done.reverse]

/-- The pieces behind text that is done, which is in reverse. -/
def piecesFrom : Nat → List Char → List Char → List Piece
  | fuel + 1, done, c :: rest =>
    let slashes := (c :: rest).takeWhile (· == '\\')
    match tagText? ((c :: rest).drop slashes.length) with
    | some (t, behind) =>
      textPiece done ++ escapedTag slashes.length t ++ piecesFrom fuel [] behind
    | none =>
      if slashes.isEmpty then piecesFrom fuel (c :: done) rest
      else piecesFrom fuel (slashes ++ done) ((c :: rest).drop slashes.length)
  | _, done, rest => textPiece (rest.reverse ++ done)

/-- The pieces of a text with markup. -/
def pieces (s : List Char) : List Piece := piecesFrom s.length [] s

/-! ## Actions -/

/-- Splits off a number or a quoted text or one of the named constants. -/
def constant? : List Char → Option (List Char)
  | [] => none
  | c :: rest =>
    if c == '\'' || c == '"' then
      match rest.dropWhile fun d => d != c && d != '\\' && d != '\n' with
      | d :: behind => if d == c then some behind else none
      | [] => none
    else if c.isDigit || (c == '-' && rest.head?.any Char.isDigit) then
      some (rest.dropWhile fun d => d.isDigit || d == '.')
    else
      ["None", "True", "False"].findSome? fun word =>
        if word.toList.isPrefixOf (c :: rest) then some ((c :: rest).drop word.length) else none

/-- Whether the text is constants between brackets and commas. -/
def areConstants : Nat → List Char → Bool
  | fuel + 1, s =>
    match s.dropWhile isSpace with
    | [')'] => true
    | s =>
      match (constant? s).map (List.dropWhile isSpace) with
      | some (',' :: rest) => areConstants fuel rest
      | some [')'] => true
      | _ => false
  | 0, _ => false

/-- Whether the value of a tag is an action: a name, perhaps with constants in brackets behind
it. -/
def isAction (value : List Char) : Bool :=
  let s := trimSpaces value
  match s.dropWhile fun c => c == '.' || isNameChar c with
  | [] => true
  | '(' :: rest => areConstants s.length rest
  | _ => constant? s == some []

/-! ## Rendering -/

/-- A style that is open. -/
structure OpenStyle where
  name : String
  value : Option (List Char)
deriving DecidableEq, Repr

/-- Checks what a closed style asks for. The name of one that carries an action starts with an at
sign. -/
def OpenStyle.close (s : OpenStyle) : Except MarkupFault Unit :=
  match s.value with
  | some value =>
    if s.name.startsWith "@" && !value.isEmpty && !isAction value then .error .badAction
    else .ok ()
  | none => .ok ()

/-- The name of a style as it is written in a tag. -/
def nameOf (s : List Char) : Except MarkupFault String :=
  (styleName s).mapError fun _ => .badColour

/-- The open styles behind a tag, the latest first. -/
def applyTag (opened : List OpenStyle) (t : Tag) : Except MarkupFault (List OpenStyle) := do
  match t.name with
  | '/' :: name =>
    let name := trimSpaces name
    let closed? ← if name.isEmpty then pure opened.head?
      else do
        let name ← nameOf name
        pure (opened.find? (·.name == name))
    match closed? with
    | none => .error .nothingToClose
    | some closed =>
      closed.close
      return opened.eraseP (·.name == closed.name)
  | name => return ⟨← nameOf name, t.value⟩ :: opened

/-- Text with a bracket in place of a backslash and a bracket. -/
def unescape : List Char → List Char
  | '\\' :: '[' :: rest => '[' :: unescape rest
  | c :: rest => c :: unescape rest
  | [] => []

/-- Whether a terminal acts on the control: a bell, a step back, or a move to another line. -/
def movesCursor (c : Char) : Bool := c.toNat == 7 || c.toNat == 8 || (11 ≤ c.toNat && c.toNat ≤ 13)

/-- The text that the pieces show, behind styles that are open. -/
def renderPieces (opened : List OpenStyle) : List Piece → Except MarkupFault (List Char)
  | [] => .ok []
  | .text s :: rest => return expandEmoji (unescape s) ++ (← renderPieces opened rest)
  | .tag t :: rest => do renderPieces (← applyTag opened t) rest

/-- The text that markup shows. Styles that are left open end with it, and controls are taken
out. -/
def render (s : List Char) : Except MarkupFault (List Char) := do
  let shown ← if s.contains '[' then renderPieces [] (pieces s) else pure (expandEmoji s)
  return shown.filter (!movesCursor ·)

end Markup

end GoFlow
