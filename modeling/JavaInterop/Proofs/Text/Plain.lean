import JavaInterop.Proofs.Text.RoundTrip

/-!
# Plain UTF-8 read as modified UTF-8

A machine reads modified UTF-8, but some texts are handed to it in plain UTF-8.  A text with a zero
character is refused before that.  Of the others the two encodings agree on those without a
character above `U+FFFF`; any other text, in plain UTF-8, is not an encoded text at all.
-/

namespace JavaInterop.Text

/-- The text that a reader of modified UTF-8 finds in an ended string, if there is one. -/
def CString.reads? (string : CString) : Option String :=
  ModifiedUtf8.decodeUnits? string.bytes >>= Utf16.toText?

/-- The text has a zero character. -/
def HasZero (text : String) : Prop := '\x00' ∈ text.toList

/-- The text has no character above `U+FFFF`. -/
def IsBasic (text : String) : Prop := ∀ c ∈ text.toList, c.toNat < 0x10000

instance : DecidablePred HasZero := fun text ↦
  inferInstanceAs (Decidable ('\x00' ∈ text.toList))

instance : DecidablePred IsBasic := fun text ↦
  List.decidableBAll (fun c : Char ↦ c.toNat < 0x10000) text.toList

/-- What a reader of modified UTF-8 finds in the plain UTF-8 form of a text. -/
def plainReading? (text : String) : Option String := if IsBasic text then some text else none

theorem reads?_encode (text : String) : (ModifiedUtf8.encode text).reads? = some text :=
  ModifiedUtf8.toText?_decodeUnits?_encode text

theorem plainReading?_eq_some {text : String} : plainReading? text = some text ↔ IsBasic text := by
  unfold plainReading?
  split
  · rename_i hbasic
    exact iff_of_true rfl hbasic
  · rename_i hbasic
    exact iff_of_false nofun hbasic

/-! ## The zero character -/

/-- Only the zero character is written with a zero byte. -/
theorem zero_mem_utf8EncodeChar_iff {c : Char} :
    (0 : UInt8) ∈ String.utf8EncodeChar c ↔ c = '\x00' := by
  constructor
  · intro hmem
    by_contra hother
    have hzero : c.toNat ≠ 0 := fun hzero ↦ hother (Char.toNat_inj.1 hzero)
    rcases Nat.lt_or_ge c.toNat 0x10000 with hbasic | hlarge
    · rw [ModifiedUtf8.utf8EncodeChar_of_basic hzero hbasic] at hmem
      exact ModifiedUtf8.zero_notMem_encodeUnit _ hmem
    · -- Every byte of a longer form has its first bit set.
      have hvalue : c.val.toNat = c.toNat := rfl
      have hbyte {code : Nat} (hset : 128 ≤ code) (hcode : code < 256) : 0 ≠ UInt8.ofNat code := by
        intro hbyte
        have hnat := congrArg UInt8.toNat hbyte
        rw [UInt8.toNat_ofNat_of_lt' hcode] at hnat
        exact Nat.ne_of_lt (Nat.lt_of_lt_of_le (by decide) hset) hnat
      unfold String.utf8EncodeChar at hmem
      dsimp only at hmem
      rw [hvalue, if_neg (by omega), if_neg (by omega), if_neg (by omega)] at hmem
      simp only [List.mem_cons, List.not_mem_nil, or_false] at hmem
      rcases hmem with hmem | hmem | hmem | hmem
      all_goals exact hbyte (by omega) (by omega) hmem
  · rintro rfl
    decide

/-- The texts that cannot be passed are the ones with a zero character. -/
theorem CString.ofText_eq_error_iff {text : String} :
    (∃ position, CString.ofText text = .error position) ↔ '\x00' ∈ text.toList := by
  have hzero : (0 : UInt8) ∈ utf8 text ↔ '\x00' ∈ text.toList := by
    simp [utf8, List.mem_flatMap, zero_mem_utf8EncodeChar_iff]
  rw [← hzero]
  unfold CString.ofText CString.ofBytes
  split
  · rename_i position hposition
    refine iff_of_true ⟨position, rfl⟩ ?_
    by_contra habsent
    have hnone : (utf8 text).findIdx? (· == 0) = none := by
      refine List.findIdx?_eq_none_iff.2 fun byte hmem ↦ beq_eq_false_iff_ne.2 ?_
      rintro rfl
      exact habsent hmem
    cases hposition.symm.trans hnone
  · rename_i hnone
    refine iff_of_false (fun herror ↦ ?_) fun hmem ↦ ?_
    · obtain ⟨position, hposition⟩ := herror
      cases hposition
    · cases List.findIdx?_eq_none_iff.1 hnone 0 hmem

theorem CString.bytes_of_ofText {text : String} {string : CString}
    (hended : CString.ofText text = .ok string) : string.bytes = utf8 text := by
  unfold CString.ofText CString.ofBytes at hended
  split at hended
  · cases hended
  · cases hended
    rfl

/-! ## The other characters -/

namespace ModifiedUtf8

/-- No unit begins with a byte that begins four in UTF-8. -/
theorem decodeUnits?_large {first : UInt8} (hfirst : 0xf0 ≤ first.toNat) (rest : Bytes) :
    decodeUnits? (first :: rest) = none := by
  have hzero : ¬ first = 0 := by
    rintro rfl
    exact absurd hfirst (by decide)
  have hone : ¬ first < 0x80 := by
    rw [UInt8.lt_iff_toNat_lt, Nat.not_lt]
    exact Nat.le_trans (by decide) hfirst
  have htwo : ¬ first ≤ 0xdf := by
    rw [UInt8.le_iff_toNat_le, Nat.not_le]
    exact Nat.lt_of_lt_of_le (by decide) hfirst
  have hthree : ¬ first ≤ 0xef := by
    rw [UInt8.le_iff_toNat_le, Nat.not_le]
    exact hfirst
  rw [decodeUnits?.eq_def]
  cases rest with
  | nil => simp [hzero, hone]
  | cons second rest => simp [hzero, hone, htwo, hthree]

/-- A text with a character above `U+FFFF` is not read in plain UTF-8. -/
theorem decodeUnits?_utf8_of_supplementary {chars : List Char}
    (hlarge : ∃ c ∈ chars, 0x10000 ≤ c.toNat) :
    decodeUnits? (chars.flatMap String.utf8EncodeChar) = none := by
  induction chars with
  | nil => simp at hlarge
  | cons c chars ih =>
    rw [List.flatMap_cons]
    by_cases hzero : c.toNat = 0
    · rw [utf8EncodeChar_of_zero hzero]
      rw [List.singleton_append, decodeUnits?.eq_def]
      rfl
    · rcases Nat.lt_or_ge c.toNat 0x10000 with hbasic | hfirst
      · have hrest : ∃ c ∈ chars, 0x10000 ≤ c.toNat := by
          obtain ⟨other, hmem, hother⟩ := hlarge
          rcases List.mem_cons.1 hmem with rfl | hmem
          · exact absurd hother (Nat.not_le.2 hbasic)
          · exact ⟨other, hmem, hother⟩
        rw [utf8EncodeChar_of_basic hzero hbasic, decodeUnits?_encodeUnit, ih hrest,
          Option.map_none]
      · obtain ⟨first, rest, hform, hbyte⟩ := utf8EncodeChar_of_supplementary hfirst
        rw [hform, List.cons_append, decodeUnits?_large hbyte]

/-- A text without such characters is written as in modified UTF-8. -/
theorem utf8_eq_encode {text : String} (hzero : ¬ HasZero text) (hbasic : IsBasic text) :
    utf8 text = (encode text).bytes := by
  change text.toList.flatMap String.utf8EncodeChar =
    (text.toList.flatMap Utf16.ofChar).flatMap encodeUnit
  rw [List.flatMap_assoc]
  refine List.flatMap_congr fun c hmem ↦ ?_
  have hnonzero : c.toNat ≠ 0 := by
    intro hcode
    rw [show c = '\x00' from Char.toNat_inj.1 hcode] at hmem
    exact hzero hmem
  rw [utf8EncodeChar_of_basic hnonzero (hbasic c hmem)]
  exact (encodeUnits_ofChar (hbasic c hmem)).symm

end ModifiedUtf8

/-- A text that was ended in plain UTF-8 is read if all its characters are basic. -/
theorem reads?_of_ofText {text : String} {string : CString}
    (hended : CString.ofText text = .ok string) : string.reads? = plainReading? text := by
  have hzero : ¬ HasZero text := by
    intro hzero
    obtain ⟨position, herror⟩ := CString.ofText_eq_error_iff.2 hzero
    cases herror.symm.trans hended
  unfold CString.reads? plainReading?
  rw [CString.bytes_of_ofText hended]
  split
  · rename_i hbasic
    rw [ModifiedUtf8.utf8_eq_encode hzero hbasic]
    exact reads?_encode text
  · rename_i hbasic
    have hlarge : ∃ c ∈ text.toList, 0x10000 ≤ c.toNat := by
      simpa [IsBasic] using hbasic
    rw [utf8, ModifiedUtf8.decodeUnits?_utf8_of_supplementary hlarge]
    rfl

/-- A text with a zero character is refused, and any other one is ended in plain UTF-8. -/
theorem ofText_cases (text : String) :
    (HasZero text ∧ ∃ position, CString.ofText text = .error position) ∨
      ¬ HasZero text ∧ ∃ string, CString.ofText text = .ok string ∧
        string.reads? = plainReading? text := by
  cases hended : CString.ofText text with
  | error position => exact .inl ⟨CString.ofText_eq_error_iff.1 ⟨position, hended⟩, position, rfl⟩
  | ok string =>
    refine .inr ⟨fun hzero ↦ ?_, string, rfl, reads?_of_ofText hended⟩
    obtain ⟨position, herror⟩ := CString.ofText_eq_error_iff.2 hzero
    cases herror.symm.trans hended

end JavaInterop.Text
