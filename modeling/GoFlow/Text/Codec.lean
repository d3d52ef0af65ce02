import GoFlow.Text.Encoding
import GoFlow.Text.Quoted

/-!
# Texts as bytes

- `encode`, `decode`: a text in a given encoding, all of it at once.
- `decodeStream`: the same for the bytes of a file, where a byte order mark is expected.
- `TextFault`: where and why that fails.
-/

namespace GoFlow

/-- Why a run of bytes stands for no character. -/
inductive Malformed where
  | startByte
  | continuationByte
  | unexpectedEnd
  /-- The byte has no meaning below the limit. -/
  | ordinal (limit : Nat)
  | truncated
  | unpairedLow
  | unpairedHigh
  | surrogate
  | outOfRange
deriving DecidableEq, Repr

/-- The reason in words. -/
def Malformed.text : Malformed → String
  | .startByte => "invalid start byte"
  | .continuationByte => "invalid continuation byte"
  | .unexpectedEnd => "unexpected end of data"
  | .ordinal limit => "ordinal not in range(" ++ toString limit ++ ")"
  | .truncated => "truncated data"
  | .unpairedLow => "illegal encoding"
  | .unpairedHigh => "illegal UTF-16 surrogate"
  | .surrogate => "code point in surrogate code point range(0xd800, 0xe000)"
  | .outOfRange => "code point not in range(0x110000)"

/-- A text that cannot be read or written in an encoding. -/
inductive TextFault where
  /-- No encoding goes by the name. -/
  | unknownEncoding (name : String)
  /-- The name of an encoding holds the character zero. -/
  | zeroInName
  /-- The bytes from `start` on stand for no character. -/
  | malformed (codec : String) (start : Nat) (bytes : List UInt8) (reason : Malformed)
  /-- The characters from `start` on are not below the limit of the encoding. -/
  | unencodable (codec : String) (start : Nat) (run : List Char) (limit : Nat)
  /-- A file in an encoding with a byte order mark has none. -/
  | unmarked (form : String)
deriving DecidableEq, Repr

namespace TextFault

/-- Positions from `start` on, as far as `length` goes. -/
def positions (start length : Nat) : String :=
  toString start ++ "-" ++ toString (start + length - 1)

/-- The fault in words. -/
def message : TextFault → String
  | .unknownEncoding name => "unknown encoding: " ++ name
  | .zeroInName => "embedded null character"
  | .malformed codec start [b] reason =>
    "'" ++ codec ++ "' codec can't decode byte 0x" ++ String.ofList (hexDigits 2 b.toNat)
      ++ " in position " ++ toString start ++ ": " ++ reason.text
  | .malformed codec start bytes reason =>
    "'" ++ codec ++ "' codec can't decode bytes in position " ++ positions start bytes.length
      ++ ": " ++ reason.text
  | .unencodable codec start [c] limit =>
    "'" ++ codec ++ "' codec can't encode character '" ++ String.ofList (escapeCode c)
      ++ "' in position " ++ toString start ++ ": " ++ (Malformed.ordinal limit).text
  | .unencodable codec start run limit =>
    "'" ++ codec ++ "' codec can't encode characters in position " ++ positions start run.length
      ++ ": " ++ (Malformed.ordinal limit).text
  | .unmarked form => form ++ " stream does not start with BOM"

/-- The name under which logs and reports list the fault. -/
def kindName : TextFault → String
  | .unknownEncoding _ => "LookupError"
  | .zeroInName => "ValueError"
  | .malformed .. => "UnicodeDecodeError"
  | .unencodable .. => "UnicodeEncodeError"
  | .unmarked _ => "UnicodeError"

end TextFault

/-- The characters of a text, or why there are none. -/
abbrev Decoded := Except TextFault (List Char)

/-! ## UTF-8 -/

namespace Utf8

/-- A character of which some bytes are still to come. -/
structure Pending where
  /-- Position of its first byte. -/
  start : Nat
  /-- Its bytes so far, the latest first. -/
  bytes : List UInt8
  /-- The bits of the code point so far. -/
  value : Nat
  /-- Number of bytes to come. -/
  owed : Nat
  /-- The least next byte that is allowed. -/
  least : UInt8
  /-- The greatest next byte that is allowed. -/
  greatest : UInt8
deriving DecidableEq, Repr

/-- What the first byte of a longer character says about the rest. The bounds on the second byte
keep out overlong forms, surrogates, and code points that are too large. -/
def lead? (start : Nat) (b : UInt8) : Option Pending :=
  if b < 0xC2 then none
  else if b < 0xE0 then some ⟨start, [b], b.toNat - 0xC0, 1, 0x80, 0xBF⟩
  else if b < 0xF0 then
    some ⟨start, [b], b.toNat - 0xE0, 2, if b = 0xE0 then 0xA0 else 0x80,
      if b = 0xED then 0x9F else 0xBF⟩
  else if b < 0xF5 then
    some ⟨start, [b], b.toNat - 0xF0, 3, if b = 0xF0 then 0x90 else 0x80,
      if b = 0xF4 then 0x8F else 0xBF⟩
  else none

/-- Between two bytes: the characters so far in reverse, the position, and the open character. -/
structure State where
  done : List Char := []
  position : Nat := 0
  pending : Option Pending := none
deriving DecidableEq, Repr

/-- One byte. -/
def step (s : State) (b : UInt8) : Except TextFault State :=
  match s.pending with
  | none =>
    if b < 0x80 then .ok ⟨Char.ofNat b.toNat :: s.done, s.position + 1, none⟩
    else
      match lead? s.position b with
      | some p => .ok ⟨s.done, s.position + 1, some p⟩
      | none => .error (.malformed "utf-8" s.position [b] .startByte)
  | some p =>
    if p.least ≤ b ∧ b ≤ p.greatest then
      let value := p.value * 64 + (b.toNat - 0x80)
      if p.owed ≤ 1 then .ok ⟨Char.ofNat value :: s.done, s.position + 1, none⟩
      else
        .ok ⟨s.done, s.position + 1, some ⟨p.start, b :: p.bytes, value, p.owed - 1, 0x80, 0xBF⟩⟩
    else .error (.malformed "utf-8" p.start p.bytes.reverse .continuationByte)

/-- The characters, unless the text ends inside one. -/
def finish (s : State) : Decoded :=
  match s.pending with
  | none => .ok s.done.reverse
  | some p => .error (.malformed "utf-8" p.start p.bytes.reverse .unexpectedEnd)

/-- Reads UTF-8. -/
def decode (bytes : List UInt8) : Decoded := do finish (← bytes.foldlM step {})

/-- Writes UTF-8. -/
def encode (text : List Char) : List UInt8 := text.flatMap String.utf8EncodeChar

/-- The byte order mark. -/
def mark : List UInt8 := [0xEF, 0xBB, 0xBF]

end Utf8

/-! ## Wider units -/

/-- The order of the bytes of a unit. -/
inductive ByteOrder where
  | little
  | big
deriving DecidableEq, Repr

namespace ByteOrder

/-- The end of the name of an encoding with this order. -/
def suffix : ByteOrder → String
  | .little => "-le"
  | .big => "-be"

/-- The number that bytes stand for. -/
def read (order : ByteOrder) (bytes : List UInt8) : Nat :=
  match order with
  | .little => bytes.foldr (fun b n => n * 256 + b.toNat) 0
  | .big => bytes.foldl (fun n b => n * 256 + b.toNat) 0

/-- The last `width` bytes of a number, the highest first. -/
def bytesOf : Nat → Nat → List UInt8
  | 0, _ => []
  | width + 1, n => bytesOf width (n / 256) ++ [UInt8.ofNat n]

/-- A number in `width` bytes. -/
def write (order : ByteOrder) (width n : Nat) : List UInt8 :=
  match order with
  | .little => (bytesOf width n).reverse
  | .big => bytesOf width n

end ByteOrder

namespace Utf16

/-- Reads UTF-16 from the position on. `high` holds the first half of a pair and its bytes. -/
def decodeFrom (order : ByteOrder) (position : Nat) (high : Option (Nat × List UInt8))
    (done : List Char) : List UInt8 → Decoded
  | [] =>
    match high with
    | none => .ok done.reverse
    | some (_, bytes) =>
      .error (.malformed ("utf-16" ++ order.suffix) (position - 2) bytes .unexpectedEnd)
  | [b] =>
    match high with
    | none => .error (.malformed ("utf-16" ++ order.suffix) position [b] .truncated)
    | some (_, bytes) =>
      .error (.malformed ("utf-16" ++ order.suffix) (position - 2) (bytes ++ [b]) .unexpectedEnd)
  | a :: b :: rest =>
    let unit := order.read [a, b]
    let isLow := 0xDC00 ≤ unit && unit < 0xE000
    match high with
    | some (first, bytes) =>
      if isLow then
        let c := Char.ofNat (0x10000 + (first - 0xD800) * 0x400 + (unit - 0xDC00))
        decodeFrom order (position + 2) none (c :: done) rest
      else .error (.malformed ("utf-16" ++ order.suffix) (position - 2) bytes .unpairedHigh)
    | none =>
      if isLow then .error (.malformed ("utf-16" ++ order.suffix) position [a, b] .unpairedLow)
      else if 0xD800 ≤ unit && unit < 0xDC00 then
        decodeFrom order (position + 2) (some (unit, [a, b])) done rest
      else decodeFrom order (position + 2) none (Char.ofNat unit :: done) rest

/-- The units of a character. -/
def units (c : Char) : List Nat :=
  let n := c.toNat
  if n < 0x10000 then [n] else [0xD800 + (n - 0x10000) / 0x400, 0xDC00 + (n - 0x10000) % 0x400]

/-- Writes UTF-16. -/
def encode (order : ByteOrder) (text : List Char) : List UInt8 :=
  text.flatMap fun c => (units c).flatMap (order.write 2)

/-- The byte order that a mark at the start tells, and the bytes behind it. -/
def unmark? : List UInt8 → Option (ByteOrder × List UInt8)
  | 0xFF :: 0xFE :: rest => some (.little, rest)
  | 0xFE :: 0xFF :: rest => some (.big, rest)
  | _ => none

end Utf16

namespace Utf32

/-- Reads UTF-32 from the position on. -/
def decodeFrom (order : ByteOrder) (position : Nat) (done : List Char) : List UInt8 → Decoded
  | [] => .ok done.reverse
  | a :: b :: c :: d :: rest =>
    let n := order.read [a, b, c, d]
    if 0xD800 ≤ n ∧ n < 0xE000 then
      .error (.malformed ("utf-32" ++ order.suffix) position [a, b, c, d] .surrogate)
    else if 0x110000 ≤ n then
      .error (.malformed ("utf-32" ++ order.suffix) position [a, b, c, d] .outOfRange)
    else decodeFrom order (position + 4) (Char.ofNat n :: done) rest
  | bytes => .error (.malformed ("utf-32" ++ order.suffix) position bytes .truncated)

/-- Writes UTF-32. -/
def encode (order : ByteOrder) (text : List Char) : List UInt8 :=
  text.flatMap fun c => order.write 4 c.toNat

/-- The byte order that a mark at the start tells, and the bytes behind it. -/
def unmark? : List UInt8 → Option (ByteOrder × List UInt8)
  | 0xFF :: 0xFE :: 0x00 :: 0x00 :: rest => some (.little, rest)
  | 0x00 :: 0x00 :: 0xFE :: 0xFF :: rest => some (.big, rest)
  | _ => none

end Utf32

/-! ## One byte for each character -/

namespace SingleByte

/-- Reads bytes below the limit from the position on. -/
def decodeFrom (codec : String) (limit position : Nat) (done : List Char) : List UInt8 → Decoded
  | [] => .ok done.reverse
  | b :: rest =>
    if b.toNat < limit then
      decodeFrom codec limit (position + 1) (Char.ofNat b.toNat :: done) rest
    else .error (.malformed codec position [b] (.ordinal limit))

/-- Writes characters below the limit. The fault lists all that stand in a row. -/
def encodeFrom (codec : String) (limit position : Nat) (done : List UInt8) :
    List Char → Except TextFault (List UInt8)
  | [] => .ok done.reverse
  | c :: rest =>
    if c.toNat < limit then
      encodeFrom codec limit (position + 1) (UInt8.ofNat c.toNat :: done) rest
    else .error (.unencodable codec position (c :: rest.takeWhile (limit ≤ ·.toNat)) limit)

end SingleByte

/-! ## Any encoding -/

namespace Encoding

/-- The bytes of a text. A byte order mark is written even for an empty text. -/
def encode (text : List Char) : Encoding → Except TextFault (List UInt8)
  | .utf8 => .ok (Utf8.encode text)
  | .utf8Marked => .ok (Utf8.mark ++ Utf8.encode text)
  | .ascii => SingleByte.encodeFrom "ascii" 128 0 [] text
  | .latin1 => SingleByte.encodeFrom "latin-1" 256 0 [] text
  | .utf16 => .ok ([0xFF, 0xFE] ++ Utf16.encode .little text)
  | .utf16le => .ok (Utf16.encode .little text)
  | .utf16be => .ok (Utf16.encode .big text)
  | .utf32 => .ok ([0xFF, 0xFE, 0x00, 0x00] ++ Utf32.encode .little text)
  | .utf32le => .ok (Utf32.encode .little text)
  | .utf32be => .ok (Utf32.encode .big text)

/-- The text that bytes stand for. A byte order mark may be there or not; without one the lower
byte comes first. Positions in a fault count from the byte behind the mark in UTF-8, and from the
first byte otherwise. -/
def decode (bytes : List UInt8) : Encoding → Decoded
  | .utf8 => Utf8.decode bytes
  | .utf8Marked => Utf8.decode (if Utf8.mark.isPrefixOf bytes then bytes.drop 3 else bytes)
  | .ascii => SingleByte.decodeFrom "ascii" 128 0 [] bytes
  | .latin1 => SingleByte.decodeFrom "latin-1" 256 0 [] bytes
  | .utf16 =>
    match Utf16.unmark? bytes with
    | some (order, rest) => Utf16.decodeFrom order 2 none [] rest
    | none => Utf16.decodeFrom .little 0 none [] bytes
  | .utf16le => Utf16.decodeFrom .little 0 none [] bytes
  | .utf16be => Utf16.decodeFrom .big 0 none [] bytes
  | .utf32 =>
    match Utf32.unmark? bytes with
    | some (order, rest) => Utf32.decodeFrom order 4 [] rest
    | none => Utf32.decodeFrom .little 0 [] bytes
  | .utf32le => Utf32.decodeFrom .little 0 [] bytes
  | .utf32be => Utf32.decodeFrom .big 0 [] bytes

/-- The text of a file. An encoding with a byte order insists on its mark once a whole unit was
read, and a file that breaks off inside the mark of UTF-8 is empty. -/
def decodeStream (bytes : List UInt8) (e : Encoding) : Decoded :=
  match e with
  | .utf8Marked => if bytes.isPrefixOf Utf8.mark then .ok [] else decode bytes e
  | .utf16 => do
    let text ← decode bytes e
    if 2 ≤ bytes.length && (Utf16.unmark? bytes).isNone then .error (.unmarked "UTF-16")
    else .ok text
  | .utf32 => do
    let text ← decode bytes e
    if 4 ≤ bytes.length && (Utf32.unmark? bytes).isNone then .error (.unmarked "UTF-32")
    else .ok text
  | _ => decode bytes e

end Encoding

/-- Whether a name holds the character zero, which is no part of any name. -/
def holdsZero (name : String) : Bool := name.toList.contains (Char.ofNat 0)

/-- The encoding called `name`, which may be unknown. -/
def namedEncoding (name : String) : Except TextFault Encoding :=
  if holdsZero name then .error .zeroInName
  else
    match Encoding.ofName? name with
    | some e => .ok e
    | none => .error (.unknownEncoding name)

/-- The encoding of a file that is to be read as `name`. One name stands for the encoding of the
place where the program runs, which is taken to be UTF-8 everywhere; texts in memory have no such
place. -/
def fileEncoding (name : String) : Except TextFault Encoding :=
  if name == "locale" then .ok .utf8 else namedEncoding name

/-- The bytes of a text in the encoding called `name`. -/
def encodeAs (name : String) (text : String) : Except TextFault (List UInt8) := do
  (← namedEncoding name).encode text.toList

/-- The text of bytes in the encoding called `name`. No bytes are the empty text in any encoding,
known or not. -/
def decodeAs (name : String) (bytes : List UInt8) : Except TextFault String :=
  if bytes.isEmpty && !holdsZero name then .ok ""
  else do return String.ofList (← (← namedEncoding name).decode bytes)

end GoFlow
