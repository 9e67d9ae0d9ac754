/-!
# UTF-16 units

Java text is a sequence of 16-bit units. A character above `U+FFFF` takes two of them, a high and a
low surrogate; a sequence in which a surrogate stands alone is no text.
-/

namespace JavaInterop.Text.Utf16

/-- The units of one character. -/
def ofChar (c : Char) : List UInt16 :=
  let code := c.toNat
  if code < 0x10000 then [UInt16.ofNat code]
  else [UInt16.ofNat (0xd800 + (code - 0x10000) / 0x400), UInt16.ofNat (0xdc00 + code % 0x400)]

/-- The units of a text. -/
def ofText (text : String) : List UInt16 := text.toList.flatMap ofChar

/-- The first half of a character above `U+FFFF`. -/
def isHigh (unit : UInt16) : Bool := 0xd800 ≤ unit && unit ≤ 0xdbff

/-- The second half of a character above `U+FFFF`. -/
def isLow (unit : UInt16) : Bool := 0xdc00 ≤ unit && unit ≤ 0xdfff

/-- The character of a surrogate pair. -/
def pair (high low : UInt16) : Char :=
  Char.ofNat (0x10000 + (high.toNat - 0xd800) * 0x400 + (low.toNat - 0xdc00))

/-- The characters of a sequence of units; nothing if a surrogate stands alone. -/
def toChars? : List UInt16 → Option (List Char)
  | [] => some []
  | unit :: rest =>
    if isHigh unit then
      match rest with
      | low :: rest => if isLow low then (toChars? rest).map (pair unit low :: ·) else none
      | [] => none
    else if isLow unit then none
    else (toChars? rest).map (Char.ofNat unit.toNat :: ·)

/-- The text of a sequence of units. -/
def toText? (units : List UInt16) : Option String := (toChars? units).map String.ofList

end JavaInterop.Text.Utf16
