/-!
# Byte strings

The functions of the virtual machine take text as bytes ended by a zero byte, so a text can only be
passed if none of its own bytes is zero. `CString` carries that fact in its type; making one from
arbitrary bytes reports the place of the first zero byte otherwise.
-/

namespace JavaInterop.Text

/-- A string of bytes in no particular encoding. -/
abbrev Bytes := List UInt8

/-- The UTF-8 encoding of a text. -/
def utf8 (text : String) : Bytes := text.toList.flatMap String.utf8EncodeChar

/-- The text that the bytes are the UTF-8 encoding of, if there is one. -/
def ofUtf8? (bytes : Bytes) : Option String := String.fromUTF8? ⟨bytes.toArray⟩

/-- Bytes that can be handed over with a zero byte as end mark. -/
structure CString where
  bytes : Bytes
  noZero : (0 : UInt8) ∉ bytes
deriving DecidableEq

namespace CString

/-- Refuses bytes that contain a zero, naming the position of the first one. -/
def ofBytes (bytes : Bytes) : Except Nat CString :=
  match h : bytes.findIdx? (· == 0) with
  | some position => .error position
  | none => .ok ⟨bytes, fun zero => by simpa using List.findIdx?_eq_none_iff.1 h 0 zero⟩

/-- The UTF-8 bytes of a text, refused if the text contains a zero character. -/
def ofText (text : String) : Except Nat CString := ofBytes (utf8 text)

/-- The bytes up to the first zero byte: what a reader of an ended string sees. -/
def upToZero (bytes : Bytes) : CString where
  bytes := bytes.takeWhile (· != 0)
  noZero := fun zero => by simpa using List.all_eq_true.1 (List.all_takeWhile (l := bytes)) 0 zero

end CString

/-- A hexadecimal digit in lower case. -/
def hexDigit (value : Nat) : Char := "0123456789abcdef".toList.getD value '?'

/-- Two hexadecimal digits for one byte. -/
def hexByte (byte : UInt8) : List Char := [hexDigit (byte.toNat / 16), hexDigit (byte.toNat % 16)]

/-- A byte string in printable ASCII: a printable byte stands for itself, the backslash and every
other byte is written `\xhh`. -/
def escape (bytes : Bytes) : String :=
  String.ofList <| bytes.flatMap fun byte =>
    if 0x20 ≤ byte ∧ byte ≤ 0x7e ∧ byte ≠ 0x5c then [Char.ofNat byte.toNat]
    else '\\' :: 'x' :: hexByte byte

/-- The bytes written as pairs of hexadecimal digits; nothing if the text is no such sequence. -/
def ofHex? (text : String) : Option Bytes :=
  let digit (c : Char) : Option Nat :=
    if '0' ≤ c ∧ c ≤ '9' then some (c.toNat - '0'.toNat)
    else if 'a' ≤ c ∧ c ≤ 'f' then some (c.toNat - 'a'.toNat + 10)
    else if 'A' ≤ c ∧ c ≤ 'F' then some (c.toNat - 'A'.toNat + 10)
    else none
  let rec pairs : List Char → Option Bytes
    | [] => some []
    | [_] => none
    | high :: low :: rest => do
      let high ← digit high
      let low ← digit low
      return UInt8.ofNat (16 * high + low) :: (← pairs rest)
  pairs text.toList

end JavaInterop.Text
