import Dialogue.Encoding.SingleByte
import Dialogue.Encoding.Utf8
import Dialogue.Encoding.Utf16
/-!
# Encodings

The encodings a session can use, the names they go by, and how text becomes bytes. An encoding that
cannot hold some character refuses the whole text and tells the first run of such characters.
-/

namespace Dialogue

inductive Encoding where
  | utf8
  | ascii
  | latin1
  | western
  /-- With a mark in front that tells the byte order. -/
  | utf16
  /-- With a fixed byte order and no mark. -/
  | utf16Fixed (order : Encoding.ByteOrder)
deriving Repr, DecidableEq

namespace Encoding

/-- A name in lower case, with every run of characters other than ASCII letters, digits and points
replaced by an underscore; runs at either end are dropped. -/
def normalize (name : String) : String :=
  let go := name.toList.foldl (fun (state : List Char × Bool) c =>
    if c.isAlphanum || c == '.' then
      let out := if state.2 && !state.1.isEmpty then '_' :: state.1 else state.1
      (c.toLower :: out, false)
    else (state.1, true)) ([], false)
  String.ofList go.1.reverse

/-- The normalised names of each encoding. -/
def names : List (Encoding × List String) := [
  (utf8, ["utf_8", "u8", "utf", "utf8", "utf8_ucs2", "utf8_ucs4", "cp65001"]),
  (ascii, ["ascii", "646", "ansi_x3.4_1968", "ansi_x3_4_1968", "ansi_x3.4_1986", "cp367", "csascii",
    "ibm367", "iso646_us", "iso_646.irv_1991", "iso_ir_6", "us", "us_ascii"]),
  (latin1, ["latin_1", "8859", "cp819", "csisolatin1", "ibm819", "iso8859", "iso8859_1",
    "iso_8859_1", "iso_8859_1_1987", "iso_ir_100", "l1", "latin", "latin1"]),
  (western, ["cp1252", "1252", "windows_1252"]),
  (utf16, ["utf_16", "u16", "utf16"]),
  (utf16Fixed .littleEndian, ["utf_16_le", "unicodelittleunmarked", "utf_16le"]),
  (utf16Fixed .bigEndian, ["utf_16_be", "unicodebigunmarked", "utf_16be"])]

/-- The encoding of that name, if there is one. -/
def named? (name : String) : Option Encoding :=
  let n := normalize name
  (names.find? fun e => e.2.contains n).map (·.1)

/-- A text that an encoding cannot hold: `run` is the first run of such characters, at `start`. -/
structure Unencodable where
  label : String
  text : List Char
  start : Nat
  run : List Char
  reason : String

/-- The bytes of a text in a single-byte code. -/
def SingleByte.encodeText (code : SingleByte) (text : List Char) : Except Unencodable (List UInt8) :=
  let holds (c : Char) := (code.encode c).isSome
  if text.all holds then .ok (text.filterMap code.encode)
  else
    let (before, rest) := text.span holds
    .error ⟨code.label, text, before.length, rest.takeWhile (!holds ·), code.reason⟩

/-- The bytes of a text. -/
def encode (e : Encoding) (text : List Char) : Except Unencodable (List UInt8) :=
  match e with
  | utf8 => .ok (text.flatMap Utf8.encodeChar)
  | ascii => SingleByte.ascii.encodeText text
  | latin1 => SingleByte.latin1.encodeText text
  | western => SingleByte.western.encodeText text
  | utf16 => .ok (Utf16.mark ++ text.flatMap (Utf16.encodeChar .littleEndian))
  | utf16Fixed order => .ok (text.flatMap (Utf16.encodeChar order))

end Encoding

end Dialogue
