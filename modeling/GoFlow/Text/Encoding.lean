/-!
# Encodings

The encodings that a source may be in, and the names they go by. Case does not count in a name,
and any run of marks between letters and digits counts as one.
-/

namespace GoFlow

/-- How a text is written as bytes. -/
inductive Encoding where
  | utf8
  /-- UTF-8 behind a byte order mark. -/
  | utf8Marked
  | ascii
  | latin1
  /-- UTF-16 behind a byte order mark. -/
  | utf16
  | utf16le
  | utf16be
  /-- UTF-32 behind a byte order mark. -/
  | utf32
  | utf32le
  | utf32be
deriving DecidableEq, Repr

namespace Encoding

/-- Lower-case letters and digits, with one underscore for each run of other marks between them.
`gap` says that such a run comes right before. -/
def plainFrom (gap : Bool) (done : List Char) : List Char → List Char
  | [] => done.reverse
  | c :: rest =>
    if c.isAlphanum || c == '.' then
      plainFrom false (c.toLower :: (if gap && !done.isEmpty then '_' :: done else done)) rest
    else plainFrom true done rest

/-- A name in the form in which names are compared. -/
def plainName (name : String) : String := String.ofList (plainFrom false [] name.toList)

/-- All encodings. -/
def all : List Encoding :=
  [.utf8, .utf8Marked, .ascii, .latin1, .utf16, .utf16le, .utf16be, .utf32, .utf32le, .utf32be]

/-- The plain form of the usual name. -/
def usualName : Encoding → String
  | .utf8 => "utf_8"
  | .utf8Marked => "utf_8_sig"
  | .ascii => "ascii"
  | .latin1 => "latin_1"
  | .utf16 => "utf_16"
  | .utf16le => "utf_16_le"
  | .utf16be => "utf_16_be"
  | .utf32 => "utf_32"
  | .utf32le => "utf_32_le"
  | .utf32be => "utf_32_be"

/-- The plain forms of the other names. -/
def aliases : Encoding → List String
  | .utf8 => ["utf8", "u8", "utf", "utf8_ucs2", "utf8_ucs4", "cp65001"]
  | .utf8Marked => []
  | .ascii =>
    ["us_ascii", "us", "646", "ansi_x3.4_1968", "ansi_x3.4_1986", "ansi_x3_4_1968", "cp367",
     "csascii", "ibm367", "iso646_us", "iso_646.irv_1991", "iso_ir_6"]
  | .latin1 =>
    ["latin1", "latin", "l1", "8859", "cp819", "csisolatin1", "ibm819", "iso8859", "iso8859_1",
     "iso_8859_1", "iso_8859_1_1987", "iso_ir_100"]
  | .utf16 => ["utf16", "u16"]
  | .utf16le => ["utf_16le", "unicodelittleunmarked"]
  | .utf16be => ["utf_16be", "unicodebigunmarked"]
  | .utf32 => ["utf32", "u32"]
  | .utf32le => ["utf_32le"]
  | .utf32be => ["utf_32be"]

/-- Whether the encoding has the plain name. A point counts as a mark in names other than the
usual one. -/
def isCalled (plain : String) (e : Encoding) : Bool :=
  let unpointed := String.ofList (plain.toList.map fun c => if c == '.' then '_' else c)
  plain == e.usualName || e.aliases.contains plain || e.aliases.contains unpointed

/-- The encoding called `name`. These are all the encodings there are: any further ones that the
machine may know count as unknown. -/
def ofName? (name : String) : Option Encoding := all.find? (isCalled (plainName name))

end Encoding

end GoFlow
