import GoFlow.Go.Number
import GoFlow.Text.Letter

/-!
# Tokens of Go

- `Lexeme`: what a token is.
- `tokenize`: the tokens of a source, without blanks and comments. A line that ends behind a token
  that may end a statement gets a semicolon.
-/

namespace GoFlow.Go

/-- A place in a source, by row and column from zero. Columns count bytes. -/
structure Position where
  row : Nat := 0
  col : Nat := 0
deriving DecidableEq, Repr

/-- The place behind a character. Only a line feed starts a new row. -/
def Position.next (p : Position) (c : Char) : Position :=
  if c == '\n' then ⟨p.row + 1, 0⟩ else ⟨p.row, p.col + c.utf8Size⟩

/-- The place behind a text. -/
def Position.after (p : Position) (s : List Char) : Position := s.foldl Position.next p

/-- What a token is. -/
inductive Lexeme where
  | name (s : String)
  | keyword (s : String)
  | number
  | rune
  | text
  | symbol (s : String)
  /-- A semicolon, written or put in at the end of a line. -/
  | semicolon (written : Bool)
  /-- Something that is no token of Go. -/
  | bad
deriving DecidableEq, Repr

/-- A token with its place. -/
structure Token where
  lexeme : Lexeme
  start : Position
  stop : Position
  /-- Whether a line ends within the comments in front of the token. -/
  afterBreak : Bool := false
deriving DecidableEq, Repr

/-- The words that cannot be names. -/
def keywords : List String :=
  ["break", "case", "chan", "const", "continue", "default", "defer", "else", "fallthrough", "for",
   "func", "go", "goto", "if", "import", "interface", "map", "package", "range", "return",
   "select", "struct", "switch", "type", "var"]

/-- Operators and brackets, the longest first. -/
def symbols : List String :=
  ["<<=", ">>=", "&^=", "...",
   "&&", "||", "<-", "++", "--", "==", "!=", "<=", ">=", ":=", "+=", "-=", "*=", "/=", "%=", "&=",
   "|=", "^=", "<<", ">>", "&^",
   "+", "-", "*", "/", "%", "&", "|", "^", "<", ">", "=", "!", "~", "(", ")", "[", "]", "\x7b",
   "\x7d", ",", ".", ":"]

/-- Whether a line may end a statement behind the token. -/
def Lexeme.endsStatement : Lexeme → Bool
  | .name _ | .number | .rune | .text => true
  | .keyword s => s == "break" || s == "continue" || s == "fallthrough" || s == "return"
  | .symbol s => s == "++" || s == "--" || s == ")" || s == "]" || s == "\x7d"
  | .semicolon _ | .bad => false

/-! ## Text and runes -/

/-- What the characters of a literal are read as. -/
inductive EscapeMode where
  | plain
  /-- Right behind a backslash. -/
  | slash
  /-- Within the digits of an escape: how many are missing, their base, the value so far, and
  whether it is a code point and not a byte. -/
  | digits (left base value : Nat) (codePoint : Bool)
  | fault
deriving DecidableEq, Repr

/-- Whether the value of an escape is allowed. -/
def escapeValueOk (value : Nat) (codePoint : Bool) : Bool :=
  if codePoint then value < 0xD800 || (0xE000 ≤ value && value < 0x110000) else value < 0x100

/-- One character of a literal, with the number of characters that it stands for so far. -/
def EscapeMode.step (quote : Char) (state : Nat × EscapeMode) (c : Char) : Nat × EscapeMode :=
  let (count, mode) := state
  match mode with
  | .plain => if c == '\\' then (count, .slash) else (count + 1, .plain)
  | .slash =>
    if c == 'x' then (count, .digits 2 16 0 false)
    else if c == 'u' then (count, .digits 4 16 0 true)
    else if c == 'U' then (count, .digits 8 16 0 true)
    else if isDigitOf 8 c then (count, .digits 2 8 (c.toNat - '0'.toNat) false)
    else if c == quote || "abfnrtv\\".toList.contains c then (count + 1, .plain)
    else (count, .fault)
  | .digits left base value codePoint =>
    if isDigitOf base c then
      let digit := if c.isDigit then c.toNat - '0'.toNat else c.toLower.toNat - 'a'.toNat + 10
      let value := value * base + digit
      if left ≤ 1 then
        if escapeValueOk value codePoint then (count + 1, .plain) else (count, .fault)
      else (count, .digits (left - 1) base value codePoint)
    else (count, .fault)
  | .fault => (count, .fault)

/-- The number of characters that a literal stands for, if all its escapes are right. -/
def literalLength? (quote : Char) (body : List Char) : Option Nat :=
  match body.foldl (EscapeMode.step quote) (0, .plain) with
  | (count, .plain) => some count
  | _ => none

/-- Splits off what stands before the closing quote on the same line. -/
def spanQuoted (quote : Char) (done : List Char) : List Char → Option (List Char × List Char)
  | [] => none
  | '\\' :: c :: rest =>
    if c == '\n' then none else spanQuoted quote (c :: '\\' :: done) rest
  | c :: rest =>
    if c == quote then some (done.reverse, rest)
    else if c == '\n' then none
    else spanQuoted quote (c :: done) rest

/-- A literal in quotes behind its opening quote: what it is, its text with the closing quote, and
what follows. -/
def scanQuoted (quote : Char) (s : List Char) : Option (Lexeme × List Char × List Char) := do
  let (body, rest) ← spanQuoted quote [] s
  let count ← literalLength? quote body
  if quote == '"' then some (.text, body ++ [quote], rest)
  else if count == 1 then some (.rune, body ++ [quote], rest)
  else none

/-- Splits off a comment behind its opening, with its end. -/
def spanComment (done : List Char) : List Char → Option (List Char × List Char)
  | '*' :: '/' :: rest => some (('/' :: '*' :: done).reverse, rest)
  | c :: rest => spanComment (c :: done) rest
  | [] => none

/-! ## Scanning -/

/-- What is at the start of a text. -/
inductive Piece where
  /-- Blanks or a comment; `breaks` says that it is the end of a line. -/
  | gap (text : List Char) (breaks : Bool) (rest : List Char)
  | token (lexeme : Lexeme) (text : List Char) (rest : List Char)

/-- The piece, unless it holds the character zero, which no source may hold anywhere. -/
def Piece.checked : Piece → Piece
  | .gap text breaks rest =>
    if text.contains '\x00' then .token .bad text rest else .gap text breaks rest
  | .token lexeme text rest =>
    .token (if text.contains '\x00' then .bad else lexeme) text rest

/-- A name or keyword. -/
def wordLexeme (word : String) : Lexeme :=
  if keywords.contains word then .keyword word else .name word

/-- The longest symbol at the start of a text. -/
def symbol? (s : List Char) : Option String := symbols.find? (·.toList.isPrefixOf s)

/-- Whether a number is at the start of a text. -/
def startsNumber : List Char → Bool
  | '.' :: c :: _ => c.isDigit
  | c :: _ => c.isDigit
  | [] => false

/-- A token that starts with neither blank nor comment. -/
def scanToken (s : List Char) : Piece :=
  match s with
  | [] => .gap [] false []
  | ';' :: rest => .token (.semicolon true) [';'] rest
  | '"' :: rest =>
    match scanQuoted '"' rest with
    | some (lexeme, text, rest) => .token lexeme ('"' :: text) rest
    | none => .token .bad ['"'] rest
  | '\'' :: rest =>
    match scanQuoted '\'' rest with
    | some (lexeme, text, rest) => .token lexeme ('\'' :: text) rest
    | none => .token .bad ['\''] rest
  | c :: rest =>
    if c == '\x60' then
      -- text that goes on to the next grave accent, over any number of lines
      match rest.dropWhile (· != '\x60') with
      | _ :: behind => .token .text (c :: rest.takeWhile (· != '\x60') ++ [c]) behind
      | [] => .token .bad [c] rest
    else if isLetter c then
      let word := (c :: rest).takeWhile isNameChar
      .token (wordLexeme (String.ofList word)) word ((c :: rest).dropWhile isNameChar)
    else if startsNumber (c :: rest) then
      let (ok, text, behind) := scanNumber (c :: rest)
      .token (if ok then .number else .bad) text behind
    else
      match symbol? (c :: rest) with
      | some word => .token (.symbol word) word.toList ((c :: rest).drop word.length)
      | none => .token .bad [c] rest

/-- What is at the start of a text. A comment is never the end of a line, whatever it holds. -/
def scanPiece (s : List Char) : Piece :=
  match s with
  | '\n' :: rest => .gap ['\n'] true rest
  | ' ' :: rest => .gap [' '] false rest
  | '\t' :: rest => .gap ['\t'] false rest
  | '\r' :: rest => .gap ['\r'] false rest
  | '/' :: '/' :: rest =>
    .gap ('/' :: '/' :: rest.takeWhile (· != '\n')) false (rest.dropWhile (· != '\n'))
  | '/' :: '*' :: rest =>
    match spanComment [] rest with
    | some (text, behind) => .gap ('/' :: '*' :: text) false behind
    | none => .token .bad ['/', '*'] rest
  | s => scanToken s

/-- The tokens of a text from a position on, those before it in reverse. `ends` says that the
latest token may end a statement, `broken` that a line ended in a comment behind it. -/
def tokenizeFrom (fuel : Nat) (p : Position) (ends broken : Bool) (done : List Token)
    (s : List Char) : List Token :=
  match fuel, s with
  | 0, _ | _, [] => (if ends then ⟨.semicolon false, p, p, false⟩ :: done else done).reverse
  | fuel + 1, s =>
    match (scanPiece s).checked with
    | .gap text breaks rest =>
      if ends && breaks then
        tokenizeFrom fuel (p.after text) false false (⟨.semicolon false, p, p, false⟩ :: done) rest
      else tokenizeFrom fuel (p.after text) ends (broken || text.contains '\n') done rest
    | .token lexeme text rest =>
      let stop := p.after text
      tokenizeFrom fuel stop lexeme.endsStatement false (⟨lexeme, p, stop, broken⟩ :: done) rest

/-- The tokens of a source. Every piece takes at least one character, so that there are no more
pieces than characters. -/
def tokenize (s : List Char) : List Token := tokenizeFrom s.length {} false false [] s

end GoFlow.Go
