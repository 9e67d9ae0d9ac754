/-!
# Interface versions

A version of the native interface is one 32-bit word with the major number in bits 16 to 23 and the
minor number in bits 0 to 7. Versions are compared as unsigned words, and the zero word is what a
failed query reports.
-/

namespace JavaInterop

/-- A version of the native interface. -/
structure Version where
  word : UInt32
deriving DecidableEq

namespace Version

/-- The version with the given signed word. -/
def ofInt (raw : Int32) : Version := ⟨raw.toUInt32⟩

/-- The signed word of a version. -/
def toInt (version : Version) : Int32 := version.word.toInt32

/-- Bits 16 to 23. -/
def major (version : Version) : Nat := version.word.toNat / 0x10000 % 0x100

/-- Bits 0 to 7. -/
def minor (version : Version) : Nat := version.word.toNat % 0x100

/-- Every word but zero is a version that some machine may report. -/
def isValid (version : Version) : Bool := version.word != 0

instance : LT Version := ⟨fun first second => first.word < second.word⟩

instance (first second : Version) : Decidable (first < second) :=
  inferInstanceAs (Decidable (first.word < second.word))

instance : Ord Version := ⟨fun first second => compare first.word second.word⟩

/-- The two numbers with a point between. -/
def text (version : Version) : String := s!"{version.major}.{version.minor}"

/-- The version in diagnostic output. -/
def quoted (version : Version) : String := s!"JNIVersion({version.text})"

/-! ## Versions that have a name -/

/-- The first version. -/
def v1_1 : Version := ⟨0x00010001⟩
/-- The version of Java 1.2. -/
def v1_2 : Version := ⟨0x00010002⟩
/-- The version of Java 1.4. -/
def v1_4 : Version := ⟨0x00010004⟩
/-- From this version on a machine reports truthfully whether it could be destroyed. -/
def v1_6 : Version := ⟨0x00010006⟩
/-- The version of Java 8. -/
def v1_8 : Version := ⟨0x00010008⟩
/-- The version of Java 9. -/
def v9 : Version := ⟨0x00090000⟩
/-- The version of Java 10. -/
def v10 : Version := ⟨0x000a0000⟩
/-- The version of Java 19. -/
def v19 : Version := ⟨0x00130000⟩
/-- The version of Java 20. -/
def v20 : Version := ⟨0x00140000⟩
/-- The version of Java 21. -/
def v21 : Version := ⟨0x00150000⟩

/-- The version asked for when none is named. -/
instance : Inhabited Version := ⟨v1_8⟩

/-- The versions that have a name, in order of release, and the default one. -/
def named : List (String × Version) :=
  [("V1_1", v1_1), ("V1_2", v1_2), ("V1_4", v1_4), ("V1_6", v1_6), ("V1_8", v1_8), ("V9", v9),
    ("V10", v10), ("V19", v19), ("V20", v20), ("V21", v21), ("default", default)]

end Version

end JavaInterop
