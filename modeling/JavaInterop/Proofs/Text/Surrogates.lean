import JavaInterop.Proofs.Text.RoundTrip

/-!
# Surrogates that stand alone

A machine's string is any sequence of units, and a unit may be one half of a surrogate pair without
the other half beside it.  Exactly the sequences in which that is so nowhere are texts, and each of
them is the text that it is written for: nothing is replaced or left out.

Encoding the units and reading the bytes comes to the same as reading the units.
-/

namespace JavaInterop.Text

namespace Utf16

/-! ## One unit -/

/-- A unit is not the first and the second half of a pair at once. -/
theorem isLow_of_isHigh {unit : UInt16} (hhigh : isHigh unit = true) : isLow unit = false := by
  simp only [isHigh, UInt16.le_iff_toNat_le, Bool.and_eq_true, decide_eq_true_eq] at hhigh
  simp only [isLow, UInt16.le_iff_toNat_le, Bool.and_eq_false_iff, decide_eq_false_iff_not]
  have hlarge : unit.toNat ≤ 0xdbff := hhigh.2
  exact .inl (Nat.not_le.2 (Nat.lt_of_le_of_lt hlarge (by decide)))

theorem toNat_ofNat {code : Nat} (hvalid : code.isValidChar) : (Char.ofNat code).toNat = code := by
  rw [Char.ofNat, dif_pos hvalid]
  exact UInt32.toNat_ofNatLT

/-- A unit that is no surrogate is the only unit of its character. -/
theorem ofChar_plain {unit : UInt16} (hhigh : isHigh unit = false) (hlow : isLow unit = false) :
    ofChar (Char.ofNat unit.toNat) = [unit] := by
  have hunit := unit.toNat_lt
  have hvalid : unit.toNat.isValidChar := by
    simp only [isHigh, isLow, UInt16.le_iff_toNat_le, Bool.and_eq_false_iff,
      decide_eq_false_iff_not] at hhigh hlow
    change unit.toNat < 0xd800 ∨ 0xdfff < unit.toNat ∧ unit.toNat < 0x110000
    have hhigh : ¬ 0xd800 ≤ unit.toNat ∨ ¬ unit.toNat ≤ 0xdbff := hhigh
    have hlow : ¬ 0xdc00 ≤ unit.toNat ∨ ¬ unit.toNat ≤ 0xdfff := hlow
    omega
  have hcode : (Char.ofNat unit.toNat).toNat = unit.toNat := toNat_ofNat hvalid
  simp only [ofChar, hcode, if_pos (show unit.toNat < 0x10000 from hunit), UInt16.ofNat_toNat]

/-- A surrogate pair is what its character is written as. -/
theorem ofChar_pair {high low : UInt16} (hhigh : isHigh high = true) (hlow : isLow low = true) :
    ofChar (pair high low) = [high, low] := by
  simp only [isHigh, isLow, UInt16.le_iff_toNat_le, Bool.and_eq_true, decide_eq_true_eq]
    at hhigh hlow
  have hhigh : 0xd800 ≤ high.toNat ∧ high.toNat ≤ 0xdbff := hhigh
  have hlow : 0xdc00 ≤ low.toNat ∧ low.toNat ≤ 0xdfff := hlow
  have hvalid : (0x10000 + (high.toNat - 0xd800) * 0x400 + (low.toNat - 0xdc00)).isValidChar := by
    right
    omega
  have hcode : (pair high low).toNat =
      0x10000 + (high.toNat - 0xd800) * 0x400 + (low.toNat - 0xdc00) :=
    toNat_ofNat hvalid
  have hfirst : 0xd800 + (0x10000 + (high.toNat - 0xd800) * 0x400 + (low.toNat - 0xdc00) -
      0x10000) / 0x400 = high.toNat := by omega
  have hsecond : 0xdc00 + (0x10000 + (high.toNat - 0xd800) * 0x400 + (low.toNat - 0xdc00)) %
      0x400 = low.toNat := by omega
  have hlarge : ¬ 0x10000 + (high.toNat - 0xd800) * 0x400 + (low.toNat - 0xdc00) < 0x10000 := by
    omega
  simp only [ofChar, hcode, if_neg hlarge, hfirst, hsecond, UInt16.ofNat_toNat]

/-! ## Sequences of units -/

/-- What is read is what was written. -/
theorem flatMap_of_toChars? {units : List UInt16} {chars : List Char}
    (hread : toChars? units = some chars) : chars.flatMap ofChar = units := by
  induction units using toChars?.induct generalizing chars with
  | case1 =>
    cases hread
    rfl
  | case2 high hhigh low rest hlow ih =>
    rw [toChars?.eq_def] at hread
    simp only [hhigh, hlow, ↓reduceIte, Option.map_eq_some_iff] at hread
    obtain ⟨others, hothers, rfl⟩ := hread
    rw [List.flatMap_cons, ofChar_pair hhigh hlow, ih hothers]
    rfl
  | case3 high hhigh low rest hlow =>
    rw [toChars?.eq_def] at hread
    simp [hhigh, hlow] at hread
  | case4 high hhigh =>
    rw [toChars?.eq_def] at hread
    simp [hhigh] at hread
  | case5 unit rest hhigh hlow =>
    rw [toChars?.eq_def] at hread
    simp [hhigh, hlow] at hread
  | case6 unit rest hhigh hlow ih =>
    have hhigh : isHigh unit = false := by simpa using hhigh
    have hlow : isLow unit = false := by simpa using hlow
    rw [toChars?.eq_def] at hread
    simp only [hhigh, hlow, Bool.false_eq_true, ↓reduceIte, Option.map_eq_some_iff] at hread
    obtain ⟨others, hothers, rfl⟩ := hread
    rw [List.flatMap_cons, ofChar_plain hhigh hlow, ih hothers]
    rfl

/-- Units are read as a text exactly if they are the units of that text. -/
theorem toText?_eq_some_iff {units : List UInt16} {text : String} :
    toText? units = some text ↔ ofText text = units := by
  constructor
  · intro hread
    obtain ⟨chars, hchars, rfl⟩ := Option.map_eq_some_iff.1 hread
    rw [ofText, String.toList_ofList]
    exact flatMap_of_toChars? hchars
  · rintro rfl
    exact toText?_ofText text

theorem ofText_injective : Function.Injective ofText := by
  intro first second hsame
  have hread := toText?_ofText first
  rw [hsame, toText?_ofText] at hread
  exact (Option.some.inj hread).symm

/-- At this position there is one half of a surrogate pair, and the other half is not beside it. -/
def Unpaired (units : List UInt16) (position : Nat) : Prop :=
  ∃ unit, units[position]? = some unit ∧
    (isHigh unit = true ∧ (∀ next, units[position + 1]? = some next → isLow next = false) ∨
      isLow unit = true ∧
        ∀ before previous, before + 1 = position → units[before]? = some previous →
          isHigh previous = false)

/-- Behind a whole character a surrogate is alone exactly if it is so without the character. -/
theorem unpaired_append_iff {chars rest : List UInt16}
    (hlast : ∀ unit, chars.getLast? = some unit → isHigh unit = false) {position : Nat} :
    Unpaired (chars ++ rest) (chars.length + position) ↔ Unpaired rest position := by
  have hget (later : Nat) : (chars ++ rest)[chars.length + later]? = rest[later]? := by
    rw [List.getElem?_append_right (Nat.le_add_right _ _), Nat.add_sub_cancel_left]
  unfold Unpaired
  rw [hget, Nat.add_assoc, hget]
  refine exists_congr fun unit ↦ and_congr_right fun _ ↦ or_congr_right (and_congr_right fun _ ↦ ?_)
  constructor
  · rintro halone before previous rfl hprevious
    exact halone (chars.length + before) previous (Nat.add_assoc _ _ _) (by rwa [hget])
  · intro halone before previous hbefore hprevious
    cases position with
    | zero =>
      obtain rfl : before = chars.length - 1 := by omega
      rw [List.getElem?_append_left (by omega), ← List.getLast?_eq_getElem?] at hprevious
      exact hlast previous hprevious
    | succ position =>
      obtain rfl : before = chars.length + position := by omega
      rw [hget] at hprevious
      exact halone position previous rfl hprevious

/-- Whether a surrogate is alone is decided behind the characters that are whole. -/
theorem exists_unpaired_append_iff {chars rest : List UInt16}
    (hlast : ∀ unit, chars.getLast? = some unit → isHigh unit = false)
    (hwhole : ∀ position < chars.length, ¬ Unpaired (chars ++ rest) position) :
    (∃ position, Unpaired (chars ++ rest) position) ↔ ∃ position, Unpaired rest position := by
  constructor
  · rintro ⟨position, hunpaired⟩
    have hbehind : chars.length ≤ position := by
      by_contra hwithin
      exact hwhole position (Nat.not_le.1 hwithin) hunpaired
    refine ⟨position - chars.length, (unpaired_append_iff hlast).1 ?_⟩
    rwa [Nat.add_sub_cancel' hbehind]
  · rintro ⟨position, hunpaired⟩
    exact ⟨chars.length + position, (unpaired_append_iff hlast).2 hunpaired⟩

theorem toChars?_eq_none_iff {units : List UInt16} :
    toChars? units = none ↔ ∃ position, Unpaired units position := by
  induction units using toChars?.induct with
  | case1 => simp [toChars?, Unpaired]
  | case2 high hhigh low rest hlow ih =>
    have hread : toChars? (high :: low :: rest) = (toChars? rest).map (pair high low :: ·) := by
      rw [toChars?.eq_def]
      simp only [hhigh, hlow, ↓reduceIte]
    have hfirst : isLow high = false := isLow_of_isHigh hhigh
    have hsecond : isHigh low = false := by
      by_contra hboth
      rw [Bool.not_eq_false] at hboth
      rw [isLow_of_isHigh hboth] at hlow
      cases hlow
    rw [hread, Option.map_eq_none_iff, ih]
    refine (@exists_unpaired_append_iff [high, low] rest ?_ ?_).symm
    · rintro unit ⟨⟩
      exact hsecond
    · rintro position hposition ⟨unit, hunit, halone⟩
      rcases position with _ | _ | position
      · obtain rfl : high = unit := by simpa using hunit
        rcases halone with ⟨-, hnext⟩ | ⟨hother, -⟩
        · exact absurd hlow (by simp [hnext low rfl])
        · exact absurd hother (by simp [hfirst])
      · obtain rfl : low = unit := by simpa using hunit
        rcases halone with ⟨hother, -⟩ | ⟨-, hprevious⟩
        · exact absurd hother (by simp [hsecond])
        · exact absurd hhigh (by simp [hprevious 0 high rfl rfl])
      · exact absurd hposition (by simp)
  | case3 high hhigh low rest hlow =>
    have hread : toChars? (high :: low :: rest) = none := by
      rw [toChars?.eq_def]
      simp [hhigh, hlow]
    have halone : ∀ next, (high :: low :: rest)[0 + 1]? = some next → isLow next = false := by
      rintro next ⟨⟩
      simpa using hlow
    exact iff_of_true hread ⟨0, high, rfl, .inl ⟨hhigh, halone⟩⟩
  | case4 high hhigh =>
    have hread : toChars? [high] = none := by
      rw [toChars?.eq_def]
      simp [hhigh]
    have halone : ∀ next, [high][0 + 1]? = some next → isLow next = false := by
      intro next hnext
      cases hnext
    exact iff_of_true hread ⟨0, high, rfl, .inl ⟨hhigh, halone⟩⟩
  | case5 low rest hhigh hlow =>
    have hread : toChars? (low :: rest) = none := by
      rw [toChars?.eq_def]
      simp [hhigh, hlow]
    exact iff_of_true hread ⟨0, low, rfl, .inr ⟨hlow, fun position _ hbefore ↦
      absurd hbefore (Nat.succ_ne_zero position)⟩⟩
  | case6 unit rest hhigh hlow ih =>
    have hhigh : isHigh unit = false := by simpa using hhigh
    have hlow : isLow unit = false := by simpa using hlow
    have hread : toChars? (unit :: rest) = (toChars? rest).map (Char.ofNat unit.toNat :: ·) := by
      rw [toChars?.eq_def]
      simp only [hhigh, hlow, Bool.false_eq_true, ↓reduceIte]
    rw [hread, Option.map_eq_none_iff, ih]
    refine (@exists_unpaired_append_iff [unit] rest ?_ ?_).symm
    · rintro _ ⟨⟩
      exact hhigh
    · rintro position hposition ⟨other, hother, halone⟩
      obtain rfl : position = 0 := by simpa using hposition
      obtain rfl : unit = other := by simpa using hother
      simp [hhigh, hlow] at halone

/-- Units are no text exactly if one of them is half a pair without the other half. -/
theorem toText?_eq_none_iff {units : List UInt16} :
    toText? units = none ↔ ∃ position, Unpaired units position := by
  rw [toText?, Option.map_eq_none_iff, toChars?_eq_none_iff]

end Utf16

/-! ## Encoded units -/

namespace ModifiedUtf8

/-- The bytes of any units are read as the units are. -/
theorem decode?_encodeUnits (units : List UInt16) :
    decode? (encodeUnits units) = Utf16.toText? units := by
  have hplain : decodeUnits? (encodeUnits units) >>= Utf16.toText? = Utf16.toText? units := by
    rw [decodeUnits?_encodeUnits, Option.bind_eq_bind, Option.bind_some]
  unfold decode?
  cases hutf8 : ofUtf8? (encodeUnits units) with
  | none => exact hplain
  | some text =>
    -- Bytes that are UTF-8 too were written for the same text.
    have hsame : (encode text).bytes = encodeUnits units := by
      rw [← utf8_of_ofUtf8? hutf8]
      refine (utf8_eq_encode_of_bytes fun byte hmem ↦ ?_).symm
      rw [utf8_of_ofUtf8? hutf8] at hmem
      obtain ⟨unit, -, hunit⟩ := List.mem_flatMap.1 hmem
      refine ⟨?_, toNat_lt_of_mem_encodeUnit hunit⟩
      rintro rfl
      exact zero_notMem_encodeUnits units hmem
    have hunits : Utf16.ofText text = units := by
      have hread := decodeUnits?_encodeUnits (Utf16.ofText text)
      rw [show encodeUnits (Utf16.ofText text) = encodeUnits units from hsame,
        decodeUnits?_encodeUnits] at hread
      exact (Option.some.inj hread).symm
    exact (Utf16.toText?_eq_some_iff.2 hunits).symm

end ModifiedUtf8

end JavaInterop.Text
