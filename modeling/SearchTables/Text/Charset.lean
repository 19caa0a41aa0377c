import SearchTables.Text.CharsetTable
import SearchTables.Text.Utf8

/-! # Character sets

A **character set** says which text bytes stand for. Bytes that stand for nothing in it become replacements, but
units of several bytes need a mark at the start that shows their order unless the set fixes it. -/

namespace SearchTables.Text

/-- In which order the bytes of a unit come. -/
inductive ByteOrder where
  | highFirst
  | lowFirst
deriving DecidableEq, Repr

/-- A character set. -/
inductive Charset where
  | ascii
  /-- Bytes are code points. -/
  | latin
  /-- UTF-8, with or without a mark at the start that is no part of the text. -/
  | utf8 (marked : Bool)
  /-- UTF-16, in an order that is fixed or marked. -/
  | utf16 (order : Option ByteOrder)
  /-- UTF-32, in an order that is fixed or marked. -/
  | utf32 (order : Option ByteOrder)
  /-- One byte for each character. -/
  | table (rows : ByteTable)

namespace Charset

/-- The names of the sets that have no table. -/
def named : List (Charset × List String) := [
  (.utf8 false, ["utf_8", "u8", "utf", "utf8", "utf8_ucs2", "utf8_ucs4", "cp65001"]),
  (.utf8 true, ["utf_8_sig"]),
  (.ascii, ["ascii", "646", "ansi_x3.4_1968", "ansi_x3_4_1968", "ansi_x3.4_1986", "cp367", "csascii", "ibm367",
    "iso646_us", "iso_646.irv_1991", "iso_ir_6", "us", "us_ascii"]),
  (.latin, ["latin_1", "8859", "cp819", "csisolatin1", "ibm819", "iso8859", "iso8859_1", "iso_8859_1",
    "iso_8859_1_1987", "iso_ir_100", "l1", "latin", "latin1", "charmap"]),
  (.utf16 none, ["utf_16", "u16", "utf16"]),
  (.utf16 (some .highFirst), ["utf_16_be", "unicodebigunmarked", "utf_16be"]),
  (.utf16 (some .lowFirst), ["utf_16_le", "unicodelittleunmarked", "utf_16le"]),
  (.utf32 none, ["utf_32", "u32", "utf32"]),
  (.utf32 (some .highFirst), ["utf_32_be", "utf_32be"]),
  (.utf32 (some .lowFirst), ["utf_32_le", "utf_32le"])]

/-- A name with one underscore in place of all that separates its words, and in lower case. Letters beyond
ASCII are left out. -/
def normalName (name : String) : String :=
  let isWordChar := fun c : Char => c.isAlphanum || c = '.' || 0x80 ≤ c.toNat
  let words := (name.toList.map Char.toLower).splitBy fun a b => isWordChar a == isWordChar b
  let words := words.filter fun word => word.any isWordChar
  "_".intercalate (words.map fun word => String.ofList (word.filter (·.toNat < 0x80)))

/-- The character set of a name. -/
def ofName? (name : String) : Option Charset :=
  let name := normalName name
  match named.find? fun (_, names) => names.contains name with
  | some (found, _) => some found
  | none => (byteTable? name).map .table

/-! ## Reading -/

/-- The unit of two bytes. -/
def unit (order : ByteOrder) (a b : Nat) : Nat :=
  match order with
  | .highFirst => 256 * a + b
  | .lowFirst => 256 * b + a

/-- Units of two bytes. A leading half and a trailing one after it make a code point; any other half, and bytes
at the end that make no unit, become one replacement. -/
def decodePairs (order : ByteOrder) : Option Nat → List Nat → List Nat
  | none, [] => []
  | none, [_] => [replacement]
  | some _, [] | some _, [_] => [replacement]
  | lead, a :: b :: rest =>
      let n := unit order a b
      match lead with
      | some high =>
          if 0xdc00 ≤ n ∧ n < 0xe000 then
            (0x10000 + (high - 0xd800) * 0x400 + (n - 0xdc00)) :: decodePairs order none rest
          else if 0xd800 ≤ n ∧ n < 0xdc00 then replacement :: decodePairs order (some n) rest
          else replacement :: n :: decodePairs order none rest
      | none =>
          if 0xd800 ≤ n ∧ n < 0xdc00 then decodePairs order (some n) rest
          else (if isHalf n then replacement else n) :: decodePairs order none rest

/-- Units of four bytes. A unit that is no character, and bytes at the end that make no unit, become one
replacement. -/
def decodeQuads (order : ByteOrder) : List Nat → List Nat
  | a :: b :: c :: d :: rest =>
      let n :=
        match order with
        | .highFirst => unit .highFirst a b * 0x10000 + unit .highFirst c d
        | .lowFirst => unit .lowFirst c d * 0x10000 + unit .lowFirst a b
      (if n < 0x110000 && !isHalf n then n else replacement) :: decodeQuads order rest
  | [] => []
  | _ => [replacement]

/-- The text that bytes stand for, unless a mark is missing. -/
def decode? (charset : Charset) (bytes : List Nat) : Option (List Nat) :=
  match charset with
  | .ascii => some (bytes.map fun b => if b < 0x80 then b else replacement)
  | .latin => some bytes
  | .utf8 false => some (decodeUtf8 bytes)
  | .utf8 true =>
      match bytes with
      | 0xef :: 0xbb :: 0xbf :: rest => some (decodeUtf8 rest)
      | bytes => some (decodeUtf8 bytes)
  | .utf16 (some order) => some (decodePairs order none bytes)
  | .utf16 none =>
      match bytes with
      | 0xff :: 0xfe :: rest => some (decodePairs .lowFirst none rest)
      | 0xfe :: 0xff :: rest => some (decodePairs .highFirst none rest)
      | [] => some []
      | [_] => some [replacement]
      | _ => none
  | .utf32 (some order) => some (decodeQuads order bytes)
  | .utf32 none =>
      match bytes with
      | 0xff :: 0xfe :: 0 :: 0 :: rest => some (decodeQuads .lowFirst rest)
      | 0 :: 0 :: 0xfe :: 0xff :: rest => some (decodeQuads .highFirst rest)
      | [] => some []
      | bytes => if bytes.length < 4 then some [replacement] else none
  | .table rows =>
      let codes := rows.codes
      some (bytes.map fun b => codes[b]?.getD replacement)

end Charset

end SearchTables.Text
