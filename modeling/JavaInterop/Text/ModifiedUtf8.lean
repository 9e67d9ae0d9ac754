import JavaInterop.Text.Bytes
import JavaInterop.Text.Utf16

/-!
# Modified UTF-8

The virtual machine reads and writes text in modified UTF-8: every UTF-16 unit is written on its own
in one to three bytes, and the unit zero in two. So no encoded text contains a zero byte, and a
character above `U+FFFF` takes six bytes.

Reading is strict (no overlong form, no lone surrogate), with one freedom: bytes that as a whole are
well-formed UTF-8 are read as that.
-/

namespace JavaInterop.Text.ModifiedUtf8

/-- The bytes of one UTF-16 unit. -/
def encodeUnit (unit : UInt16) : Bytes :=
  let code := unit.toNat
  if code ≠ 0 ∧ code < 0x80 then [UInt8.ofNat code]
  else if code < 0x800 then [UInt8.ofNat (0xc0 + code / 0x40), UInt8.ofNat (0x80 + code % 0x40)]
  else [UInt8.ofNat (0xe0 + code / 0x1000), UInt8.ofNat (0x80 + code / 0x40 % 0x40),
    UInt8.ofNat (0x80 + code % 0x40)]

/-- The bytes of a sequence of UTF-16 units. -/
def encodeUnits (units : List UInt16) : Bytes := units.flatMap encodeUnit

/-- No unit is written with a zero byte. -/
theorem zero_notMem_encodeUnit (unit : UInt16) : (0 : UInt8) ∉ encodeUnit unit := by
  have hunit := unit.toNat_lt
  have hne (n : Nat) (hpos : 0 < n) (hlt : n < 256) : (0 : UInt8) ≠ UInt8.ofNat n := by
    intro h
    have := congrArg UInt8.toNat h
    simp [UInt8.toNat_ofNat', Nat.mod_eq_of_lt hlt] at this
    omega
  unfold encodeUnit
  dsimp only
  split
  · exact fun h => hne unit.toNat (by omega) (by omega) (List.mem_singleton.1 h)
  · split <;> simp only [List.mem_cons, List.not_mem_nil, or_false, not_or]
    · exact ⟨hne _ (by omega) (by omega), hne _ (by omega) (by omega)⟩
    · exact ⟨hne _ (by omega) (by omega), hne _ (by omega) (by omega),
        hne _ (by omega) (by omega)⟩

/-- Encoded text never needs a zero byte. -/
theorem zero_notMem_encodeUnits (units : List UInt16) : (0 : UInt8) ∉ encodeUnits units := by
  simp [encodeUnits, zero_notMem_encodeUnit]

/-- The encoding of a text, which can always be passed as an ended string. -/
def encode (text : String) : CString where
  bytes := encodeUnits (Utf16.ofText text)
  noZero := zero_notMem_encodeUnits _

/-- Whether a byte continues a unit. -/
def isContinuation (byte : UInt8) : Bool := byte &&& 0xc0 == 0x80

/-- The UTF-16 units that the bytes encode, refusing every form that `encodeUnits` does not write.
-/
def decodeUnits? : Bytes → Option (List UInt16)
  | [] => some []
  | first :: rest =>
    if first == 0 then none
    else if first < 0x80 then (decodeUnits? rest).map (UInt16.ofNat first.toNat :: ·)
    else match rest with
      | [] => none
      | second :: rest =>
        if !isContinuation second then none
        else if 0xc0 ≤ first && first ≤ 0xdf then
          let code := (first.toNat - 0xc0) * 0x40 + (second.toNat - 0x80)
          if code = 0 ∨ 0x80 ≤ code then (decodeUnits? rest).map (UInt16.ofNat code :: ·) else none
        else if 0xe0 ≤ first && first ≤ 0xef then
          match rest with
          | [] => none
          | third :: rest =>
            let code := (first.toNat - 0xe0) * 0x1000 + (second.toNat - 0x80) * 0x40
              + (third.toNat - 0x80)
            if isContinuation third && 0x800 ≤ code then
              (decodeUnits? rest).map (UInt16.ofNat code :: ·)
            else none
        else none

/-- The text that the bytes stand for. Bytes that are well-formed UTF-8 throughout are read as that;
all others must be modified UTF-8 of a text. -/
def decode? (bytes : Bytes) : Option String :=
  (ofUtf8? bytes).orElse fun _ => decodeUnits? bytes >>= Utf16.toText?

end JavaInterop.Text.ModifiedUtf8
