import JavaInterop.Text.ModifiedUtf8
import Mathlib.Data.List.Basic

/-!
# Texts survive their encoding

Every text can be passed to a machine in modified UTF-8, and what the machine says of it is read as
the same text.  Nothing is lost on the way: a zero character is written in two bytes, and a
character above `U+FFFF` as the two units of its surrogate pair.

Reading prefers plain UTF-8.  That makes no difference for an encoded text, because bytes that are
well-formed in both encodings stand for the same text in both.
-/

namespace JavaInterop.Text

namespace ModifiedUtf8

/-! ## Units -/

/-- The bytes that continue a unit. -/
theorem isContinuation_of_toNat {byte : UInt8} (hlow : 0x80 ≤ byte.toNat)
    (hhigh : byte.toNat < 0xc0) : isContinuation byte = true := by
  have hall : ∀ code < 0xc0, 0x80 ≤ code → isContinuation (UInt8.ofNat code) = true := by
    decide +kernel
  have hbyte := hall byte.toNat hhigh hlow
  rwa [UInt8.ofNat_toNat] at hbyte

/-- A unit in one byte. -/
theorem decodeUnits?_one {first : UInt8} (hpos : 0 < first.toNat) (hlt : first.toNat < 0x80)
    (rest : Bytes) :
    decodeUnits? (first :: rest) = (decodeUnits? rest).map (UInt16.ofNat first.toNat :: ·) := by
  have hzero : ¬ first = 0 := by
    rintro rfl
    exact Nat.lt_irrefl 0 hpos
  have hsmall : first < 0x80 := UInt8.lt_iff_toNat_lt.2 hlt
  rw [decodeUnits?.eq_def]
  simp [hzero, hsmall]

/-- A unit in two bytes. -/
theorem decodeUnits?_two {first second : UInt8} {code : Nat} (hfirst : 0xc0 ≤ first.toNat)
    (hfirst' : first.toNat < 0xe0) (hsecond : 0x80 ≤ second.toNat) (hsecond' : second.toNat < 0xc0)
    (hcode : (first.toNat - 0xc0) * 0x40 + (second.toNat - 0x80) = code)
    (hleast : code = 0 ∨ 0x80 ≤ code) (rest : Bytes) :
    decodeUnits? (first :: second :: rest) = (decodeUnits? rest).map (UInt16.ofNat code :: ·) := by
  have hzero : ¬ first = 0 := by
    rintro rfl
    exact absurd hfirst (by decide)
  have hlarge : ¬ first < 0x80 := by
    rw [UInt8.lt_iff_toNat_lt, Nat.not_lt]
    exact Nat.le_trans (by decide) hfirst
  have hlow : 0xc0 ≤ first := UInt8.le_iff_toNat_le.2 hfirst
  have hhigh : first ≤ 0xdf := UInt8.le_iff_toNat_le.2 (Nat.le_of_lt_succ hfirst')
  have hcontinues := isContinuation_of_toNat hsecond hsecond'
  rw [decodeUnits?.eq_def]
  simp only [beq_iff_eq, hzero, hlarge, hcontinues, hlow, hhigh, hcode, hleast, decide_true,
    Bool.and_true, Bool.not_true, Bool.false_eq_true, ↓reduceIte]

/-- A unit in three bytes. -/
theorem decodeUnits?_three {first second third : UInt8} {code : Nat} (hfirst : 0xe0 ≤ first.toNat)
    (hfirst' : first.toNat < 0xf0) (hsecond : 0x80 ≤ second.toNat) (hsecond' : second.toNat < 0xc0)
    (hthird : 0x80 ≤ third.toNat) (hthird' : third.toNat < 0xc0)
    (hcode : (first.toNat - 0xe0) * 0x1000 + (second.toNat - 0x80) * 0x40 +
      (third.toNat - 0x80) = code)
    (hleast : 0x800 ≤ code) (rest : Bytes) :
    decodeUnits? (first :: second :: third :: rest) =
      (decodeUnits? rest).map (UInt16.ofNat code :: ·) := by
  have hzero : ¬ first = 0 := by
    rintro rfl
    exact absurd hfirst (by decide)
  have hlarge : ¬ first < 0x80 := by
    rw [UInt8.lt_iff_toNat_lt, Nat.not_lt]
    exact Nat.le_trans (by decide) hfirst
  have htwo : ¬ first ≤ 0xdf := by
    rw [UInt8.le_iff_toNat_le, Nat.not_le]
    exact hfirst
  have hlow : 0xe0 ≤ first := UInt8.le_iff_toNat_le.2 hfirst
  have hhigh : first ≤ 0xef := UInt8.le_iff_toNat_le.2 (Nat.le_of_lt_succ hfirst')
  have hcontinues := isContinuation_of_toNat hsecond hsecond'
  have hcontinues' := isContinuation_of_toNat hthird hthird'
  rw [decodeUnits?.eq_def]
  simp only [beq_iff_eq, hzero, hlarge, hcontinues, hcontinues', htwo, hlow, hhigh, hcode, hleast,
    decide_true, decide_false, Bool.and_true, Bool.and_false, Bool.not_true, Bool.false_eq_true,
    ↓reduceIte]

/-- A unit is read back, whatever follows it. -/
theorem decodeUnits?_encodeUnit (unit : UInt16) (rest : Bytes) :
    decodeUnits? (encodeUnit unit ++ rest) = (decodeUnits? rest).map (unit :: ·) := by
  have hunit := unit.toNat_lt
  have hbyte (code : Nat) (hcode : code < 0x100) : (UInt8.ofNat code).toNat = code :=
    UInt8.toNat_ofNat_of_lt' hcode
  suffices hread : decodeUnits? (encodeUnit unit ++ rest) =
      (decodeUnits? rest).map (UInt16.ofNat unit.toNat :: ·) by
    rwa [UInt16.ofNat_toNat] at hread
  unfold encodeUnit
  dsimp only
  split
  · have hcode := hbyte unit.toNat (by omega)
    have hread := @decodeUnits?_one (UInt8.ofNat unit.toNat) (by omega) (by omega) rest
    rwa [hcode] at hread
  · split
    · have hfirst := hbyte (0xc0 + unit.toNat / 0x40) (by omega)
      have hsecond := hbyte (0x80 + unit.toNat % 0x40) (by omega)
      have hleast : unit.toNat = 0 ∨ 0x80 ≤ unit.toNat := by omega
      refine decodeUnits?_two ?_ ?_ ?_ ?_ ?_ hleast rest <;> simp only [hfirst, hsecond] <;> omega
    · have hfirst := hbyte (0xe0 + unit.toNat / 0x1000) (by omega)
      have hsecond := hbyte (0x80 + unit.toNat / 0x40 % 0x40) (by omega)
      have hthird := hbyte (0x80 + unit.toNat % 0x40) (by omega)
      have hleast : 0x800 ≤ unit.toNat := by omega
      refine decodeUnits?_three ?_ ?_ ?_ ?_ ?_ ?_ ?_ hleast rest <;>
        simp only [hfirst, hsecond, hthird] <;> omega

theorem decodeUnits?_encodeUnits (units : List UInt16) :
    decodeUnits? (encodeUnits units) = some units := by
  induction units with
  | nil => rfl
  | cons unit units ih =>
    calc
      decodeUnits? (encodeUnits (unit :: units)) =
          decodeUnits? (encodeUnit unit ++ encodeUnits units) := rfl
      _ = (decodeUnits? (encodeUnits units)).map (unit :: ·) := decodeUnits?_encodeUnit unit _
      _ = some (unit :: units) := by rw [ih, Option.map_some]

end ModifiedUtf8

/-! ## Characters -/

namespace Utf16

theorem toNat_valid (c : Char) : c.toNat < 0xd800 ∨ 0xdfff < c.toNat ∧ c.toNat < 0x110000 :=
  c.valid

/-- A character is read back, whatever follows it. -/
theorem toChars?_ofChar (c : Char) (rest : List UInt16) :
    toChars? (ofChar c ++ rest) = (toChars? rest).map (c :: ·) := by
  have hvalid := toNat_valid c
  have hunit (code : Nat) (hcode : code < 0x10000) : (UInt16.ofNat code).toNat = code :=
    UInt16.toNat_ofNat_of_lt' hcode
  unfold ofChar
  dsimp only
  split
  · -- No surrogate is a character.
    rename_i hsmall
    have hcode := hunit c.toNat hsmall
    have hhigh : isHigh (UInt16.ofNat c.toNat) = false := by
      simp only [isHigh, UInt16.le_iff_toNat_le, hcode, Bool.and_eq_false_iff,
        decide_eq_false_iff_not]
      change ¬ 0xd800 ≤ c.toNat ∨ ¬ c.toNat ≤ 0xdbff
      omega
    have hlow : isLow (UInt16.ofNat c.toNat) = false := by
      simp only [isLow, UInt16.le_iff_toNat_le, hcode, Bool.and_eq_false_iff,
        decide_eq_false_iff_not]
      change ¬ 0xdc00 ≤ c.toNat ∨ ¬ c.toNat ≤ 0xdfff
      omega
    rw [List.singleton_append, toChars?.eq_def]
    simp only [hhigh, hlow, Bool.false_eq_true, ↓reduceIte, hcode, Char.ofNat_toNat]
  · rename_i hlarge
    have hfirst := hunit (0xd800 + (c.toNat - 0x10000) / 0x400) (by omega)
    have hsecond := hunit (0xdc00 + c.toNat % 0x400) (by omega)
    have hhigh : isHigh (UInt16.ofNat (0xd800 + (c.toNat - 0x10000) / 0x400)) = true := by
      simp only [isHigh, UInt16.le_iff_toNat_le, hfirst, Bool.and_eq_true_iff, decide_eq_true_iff]
      change 0xd800 ≤ 0xd800 + (c.toNat - 0x10000) / 0x400 ∧
        0xd800 + (c.toNat - 0x10000) / 0x400 ≤ 0xdbff
      omega
    have hlow : isLow (UInt16.ofNat (0xdc00 + c.toNat % 0x400)) = true := by
      simp only [isLow, UInt16.le_iff_toNat_le, hsecond, Bool.and_eq_true_iff, decide_eq_true_iff]
      change 0xdc00 ≤ 0xdc00 + c.toNat % 0x400 ∧ 0xdc00 + c.toNat % 0x400 ≤ 0xdfff
      omega
    have hpair : pair (UInt16.ofNat (0xd800 + (c.toNat - 0x10000) / 0x400))
        (UInt16.ofNat (0xdc00 + c.toNat % 0x400)) = c := by
      have hcode : 0x10000 + (0xd800 + (c.toNat - 0x10000) / 0x400 - 0xd800) * 0x400 +
          (0xdc00 + c.toNat % 0x400 - 0xdc00) = c.toNat := by
        omega
      rw [pair, hfirst, hsecond, hcode, Char.ofNat_toNat]
    rw [List.cons_append, List.singleton_append, toChars?.eq_def]
    simp only [hhigh, hlow, ↓reduceIte, hpair]

theorem toChars?_flatMap (chars : List Char) : toChars? (chars.flatMap ofChar) = some chars := by
  induction chars with
  | nil => rfl
  | cons c chars ih => rw [List.flatMap_cons, toChars?_ofChar, ih, Option.map_some]

theorem toText?_ofText (text : String) : toText? (ofText text) = some text := by
  rw [toText?, ofText, toChars?_flatMap, Option.map_some, String.ofList_toList]

end Utf16

namespace ModifiedUtf8

/-- What is read back from the units of an encoded text is the text. -/
theorem toText?_decodeUnits?_encode (text : String) :
    (decodeUnits? (encode text).bytes >>= Utf16.toText?) = some text := by
  change (decodeUnits? (encodeUnits (Utf16.ofText text)) >>= Utf16.toText?) = some text
  rw [decodeUnits?_encodeUnits, Option.bind_eq_bind, Option.bind_some, Utf16.toText?_ofText]

/-- Different texts are encoded differently. -/
theorem encode_injective : Function.Injective encode := by
  intro first second hsame
  have hfirst := toText?_decodeUnits?_encode first
  rw [hsame, toText?_decodeUnits?_encode] at hfirst
  exact (Option.some.inj hfirst).symm

/-! ## Bytes that are UTF-8 as well -/

/-- A unit is never written with a byte that begins four others in UTF-8. -/
theorem toNat_lt_of_mem_encodeUnit {unit : UInt16} {byte : UInt8} (hmem : byte ∈ encodeUnit unit) :
    byte.toNat < 0xf0 := by
  have hunit := unit.toNat_lt
  have hbyte {code : Nat} (hcode : code < 0x100) (hlt : code < 0xf0) :
      (UInt8.ofNat code).toNat < 0xf0 := by
    rwa [UInt8.toNat_ofNat_of_lt' hcode]
  unfold encodeUnit at hmem
  dsimp only at hmem
  split at hmem
  · rw [List.mem_singleton.1 hmem]
    exact hbyte (by omega) (by omega)
  · split at hmem <;> simp only [List.mem_cons, List.not_mem_nil, or_false] at hmem
    · rcases hmem with rfl | rfl
      · exact hbyte (by omega) (by omega)
      · exact hbyte (by omega) (by omega)
    · rcases hmem with rfl | rfl | rfl
      · exact hbyte (by omega) (by omega)
      · exact hbyte (by omega) (by omega)
      · exact hbyte (by omega) (by omega)

/-- A unit that is not written in one byte takes two or three, as in UTF-8. -/
theorem encodeUnit_two {unit : UInt16} (hlow : 0x80 ≤ unit.toNat) (hhigh : unit.toNat < 0x800) :
    encodeUnit unit =
      [UInt8.ofNat (unit.toNat / 64 % 32 + 192), UInt8.ofNat (unit.toNat % 64 + 128)] := by
  unfold encodeUnit
  dsimp only
  rw [if_neg (by omega), if_pos hhigh, Nat.add_comm 0xc0, Nat.add_comm 0x80,
    Nat.mod_eq_of_lt (by omega : unit.toNat / 64 < 32)]

theorem encodeUnit_three {unit : UInt16} (hlow : 0x800 ≤ unit.toNat) :
    encodeUnit unit = [UInt8.ofNat (unit.toNat / 4096 % 16 + 224),
      UInt8.ofNat (unit.toNat / 64 % 64 + 128), UInt8.ofNat (unit.toNat % 64 + 128)] := by
  have hunit := unit.toNat_lt
  unfold encodeUnit
  dsimp only
  rw [if_neg (by omega), if_neg (by omega), Nat.add_comm 0xe0, Nat.add_comm 0x80,
    Nat.add_comm 0x80, Nat.mod_eq_of_lt (by omega : unit.toNat / 4096 < 16)]

/-- A character up to `U+FFFF` is written as in UTF-8, unless it is zero. -/
theorem utf8EncodeChar_of_basic {c : Char} (hzero : c.toNat ≠ 0) (hbasic : c.toNat < 0x10000) :
    String.utf8EncodeChar c = encodeUnit (UInt16.ofNat c.toNat) := by
  have hvalue : c.val.toNat = c.toNat := rfl
  have hunit : (UInt16.ofNat c.toNat).toNat = c.toNat := UInt16.toNat_ofNat_of_lt' hbasic
  unfold String.utf8EncodeChar
  dsimp only
  rw [hvalue]
  split
  · rename_i hcode
    rw [encodeUnit, hunit, if_pos ⟨hzero, Nat.lt_succ_of_le hcode⟩]
  · split
    · rw [encodeUnit_two, hunit]
      all_goals rw [hunit]
      · omega
      · omega
    · rw [if_pos (by omega), encodeUnit_three, hunit]
      rw [hunit]
      omega

/-- A character above `U+FFFF` has four bytes in UTF-8, of which the first is too large here. -/
theorem utf8EncodeChar_of_supplementary {c : Char} (hlarge : 0x10000 ≤ c.toNat) :
    ∃ first rest, String.utf8EncodeChar c = first :: rest ∧ 0xf0 ≤ first.toNat := by
  have hvalue : c.val.toNat = c.toNat := rfl
  unfold String.utf8EncodeChar
  dsimp only
  rw [hvalue, if_neg (by omega), if_neg (by omega), if_neg (by omega)]
  refine ⟨_, _, rfl, ?_⟩
  rw [UInt8.toNat_ofNat_of_lt' (Nat.lt_of_lt_of_le
    (Nat.add_lt_add_right (Nat.mod_lt _ (by decide)) _) (by decide))]
  omega

theorem utf8EncodeChar_of_zero {c : Char} (hzero : c.toNat = 0) :
    String.utf8EncodeChar c = [0] := by
  have hvalue : c.val.toNat = c.toNat := rfl
  unfold String.utf8EncodeChar
  dsimp only
  rw [hvalue, if_pos (by omega), hzero]
  rfl

theorem encodeUnits_ofChar {c : Char} (hbasic : c.toNat < 0x10000) :
    encodeUnits (Utf16.ofChar c) = encodeUnit (UInt16.ofNat c.toNat) := by
  simp [encodeUnits, Utf16.ofChar, hbasic]

/-- A character whose UTF-8 form has neither a zero byte nor four bytes is written the same way. -/
theorem utf8EncodeChar_eq {c : Char}
    (hbytes : ∀ byte ∈ String.utf8EncodeChar c, byte ≠ 0 ∧ byte.toNat < 0xf0) :
    String.utf8EncodeChar c = encodeUnits (Utf16.ofChar c) := by
  have hzero : c.toNat ≠ 0 := by
    intro hzero
    rw [utf8EncodeChar_of_zero hzero] at hbytes
    exact (hbytes 0 List.mem_cons_self).1 rfl
  have hbasic : c.toNat < 0x10000 := by
    by_contra hlarge
    obtain ⟨first, rest, hform, hfirst⟩ := utf8EncodeChar_of_supplementary (Nat.not_lt.1 hlarge)
    rw [hform] at hbytes
    exact Nat.not_lt.2 hfirst (hbytes first List.mem_cons_self).2
  rw [encodeUnits_ofChar hbasic, utf8EncodeChar_of_basic hzero hbasic]

theorem utf8_of_ofUtf8? {bytes : Bytes} {text : String} (hread : ofUtf8? bytes = some text) :
    utf8 text = bytes := by
  unfold ofUtf8? String.fromUTF8? at hread
  split at hread
  · rename_i hvalid
    have htext := Option.some.inj hread
    have hbytes : text.toByteArray = ⟨bytes.toArray⟩ := by rw [← htext]; rfl
    rw [← String.utf8Encode_toList] at hbytes
    have hdata := congrArg (fun array : ByteArray ↦ array.data.toList) hbytes
    simpa [List.utf8Encode, utf8] using hdata
  · cases hread

/-- A text whose UTF-8 form has neither a zero byte nor a byte that begins four is encoded as that
form. -/
theorem utf8_eq_encode_of_bytes {text : String}
    (hbytes : ∀ byte ∈ utf8 text, byte ≠ 0 ∧ byte.toNat < 0xf0) :
    utf8 text = (encode text).bytes := by
  change text.toList.flatMap String.utf8EncodeChar =
    (text.toList.flatMap Utf16.ofChar).flatMap encodeUnit
  rw [List.flatMap_assoc]
  refine List.flatMap_congr fun c hmem ↦ ?_
  exact utf8EncodeChar_eq fun byte hbyte ↦ hbytes byte (List.mem_flatMap.2 ⟨c, hmem, hbyte⟩)

/-- What a machine says of an encoded text is read as that text. -/
theorem decode?_encode (text : String) : decode? (encode text).bytes = some text := by
  have hread := toText?_decodeUnits?_encode text
  unfold decode?
  cases hutf8 : ofUtf8? (encode text).bytes with
  | none => exact hread
  | some other =>
    -- Bytes that are UTF-8 too were written for the same text.
    have hother : utf8 other = (encode text).bytes := utf8_of_ofUtf8? hutf8
    have hsame : utf8 other = (encode other).bytes := by
      refine utf8_eq_encode_of_bytes fun byte hmem ↦ ?_
      rw [hother] at hmem
      refine ⟨?_, ?_⟩
      · rintro rfl
        exact (encode text).noZero hmem
      · obtain ⟨unit, -, hunit⟩ := List.mem_flatMap.1 hmem
        exact toNat_lt_of_mem_encodeUnit hunit
    have hencode : encode other = encode text := by
      have hequal : (encode other).bytes = (encode text).bytes := hsame.symm.trans hother
      exact (CString.mk.injEq _ _ _ _).mpr hequal
    rw [encode_injective hencode]
    rfl

end ModifiedUtf8
end JavaInterop.Text
