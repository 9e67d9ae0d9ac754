import JavaInterop.Text.Quoted
import JavaInterop.Decimal.Shortest

/-!
# Primitive kinds and scalars

The eight primitive kinds of Java values. Each has a one-letter descriptor and a wrapper class whose
static `valueOf` boxes a scalar and whose own method, named for the kind, takes it out again; the
names follow one rule, so a kind only states its name, its letter and its wrapper.

Floating-point scalars are kept as bit patterns: a pattern passes through the bridge unchanged,
whatever number it stands for.
-/

namespace JavaInterop

/-- The primitive kinds. -/
inductive Primitive where
  | boolean
  | byte
  | char
  | short
  | int
  | long
  | float
  | double
deriving DecidableEq

namespace Primitive

/-- Every kind, in the order of the type. -/
def all : List Primitive := [boolean, byte, char, short, int, long, float, double]

theorem mem_all (kind : Primitive) : kind ∈ all := by cases kind <;> decide

/-- The Java keyword. -/
def name : Primitive → String
  | boolean => "boolean"
  | byte => "byte"
  | char => "char"
  | short => "short"
  | int => "int"
  | long => "long"
  | float => "float"
  | double => "double"

/-- The letter that stands for the kind in a signature. -/
def descriptor : Primitive → Char
  | boolean => 'Z'
  | byte => 'B'
  | char => 'C'
  | short => 'S'
  | int => 'I'
  | long => 'J'
  | float => 'F'
  | double => 'D'

/-- The wrapper class, without its package. -/
def wrapperName : Primitive → String
  | boolean => "Boolean"
  | byte => "Byte"
  | char => "Character"
  | short => "Short"
  | int => "Integer"
  | long => "Long"
  | float => "Float"
  | double => "Double"

/-- The wrapper class in internal form. -/
def wrapperClass (kind : Primitive) : String := s!"java/lang/{kind.wrapperName}"

/-- The wrapper class in dotted form. -/
def wrapperDotted (kind : Primitive) : String := s!"java.lang.{kind.wrapperName}"

/-- The signature of the static method that boxes a scalar. -/
def valueOfSignature (kind : Primitive) : String :=
  s!"({kind.descriptor})L{kind.wrapperClass};"

/-- The method that takes the scalar out of its wrapper. -/
def unboxMethod (kind : Primitive) : String := s!"{kind.name}Value"

/-- The signature of that method. -/
def unboxSignature (kind : Primitive) : String := s!"(){kind.descriptor}"

/-- The kind with the given keyword. -/
def ofName? (name : String) : Option Primitive := all.find? fun kind => kind.name == name

/-- The kind that a letter stands for. -/
def ofDescriptor? (letter : Char) : Option Primitive :=
  all.find? fun kind => kind.descriptor == letter

/-- The kind that a wrapper class boxes; the class may be given in internal or dotted form. -/
def ofWrapperClass? (className : String) : Option Primitive :=
  all.find? fun kind => kind.wrapperClass == className || kind.wrapperDotted == className

/-- What a scalar of the kind holds; floating-point numbers are held by their bits. -/
@[reducible] def Carrier : Primitive → Type
  | boolean => Bool
  | byte => Int8
  | char => UInt16
  | short => Int16
  | int => Int32
  | long => Int64
  | float => UInt32
  | double => UInt64

/-- Zero of the kind, the value of a call that had none to give. -/
def zero : (kind : Primitive) → kind.Carrier
  | boolean => false
  | byte => 0
  | char => 0
  | short => 0
  | int => 0
  | long => 0
  | float => 0
  | double => 0

end Primitive

/-- A value of some primitive kind. -/
inductive Scalar where
  | boolean (value : Bool)
  | byte (value : Int8)
  | char (value : UInt16)
  | short (value : Int16)
  | int (value : Int32)
  | long (value : Int64)
  | float (bits : UInt32)
  | double (bits : UInt64)
deriving DecidableEq

namespace Scalar

/-- The kind of a scalar. -/
def kind : Scalar → Primitive
  | boolean _ => .boolean
  | byte _ => .byte
  | char _ => .char
  | short _ => .short
  | int _ => .int
  | long _ => .long
  | float _ => .float
  | double _ => .double

/-- What a scalar holds. -/
def value : (scalar : Scalar) → scalar.kind.Carrier
  | boolean value => value
  | byte value => value
  | char value => value
  | short value => value
  | int value => value
  | long value => value
  | float bits => bits
  | double bits => bits

/-- The scalar of a kind that holds the given value. -/
def of : (kind : Primitive) → kind.Carrier → Scalar
  | .boolean, value => boolean value
  | .byte, value => byte value
  | .char, value => char value
  | .short, value => short value
  | .int, value => int value
  | .long, value => long value
  | .float, bits => float bits
  | .double, bits => double bits

theorem of_value (scalar : Scalar) : of scalar.kind scalar.value = scalar := by cases scalar <;> rfl

theorem kind_of (kind : Primitive) (value : kind.Carrier) : (of kind value).kind = kind := by
  cases kind <;> rfl

/-- What a scalar holds, read as the given kind; zero if it is of another kind. -/
def readAs (scalar : Scalar) (kind : Primitive) : kind.Carrier :=
  if h : scalar.kind = kind then h ▸ scalar.value else kind.zero

theorem readAs_of (kind : Primitive) (value : kind.Carrier) :
    (of kind value).readAs kind = value := by
  cases kind <;> rfl

/-- The scalar in diagnostic output: its kind and its value, numbers in decimal. -/
def quoted : Scalar → String
  | boolean value => s!"Bool({value})"
  | byte value => s!"Byte({value.toInt})"
  | char value => s!"Char({value.toNat})"
  | short value => s!"Short({value.toInt})"
  | int value => s!"Int({value.toInt})"
  | long value => s!"Long({value.toInt})"
  | float bits => s!"Float({Decimal.diagnostic.ofBits Decimal.single bits.toNat})"
  | double bits => s!"Double({Decimal.diagnostic.ofBits Decimal.double bits.toNat})"

/-- A bit pattern of the given number of hexadecimal digits. -/
def hexPattern (digits : Nat) (bits : Nat) : String :=
  String.ofList <| (List.range digits).map fun place =>
    Text.hexDigit (bits / Nat.pow 16 (digits - 1 - place) % 16)

/-- The scalar in a trace: numbers in decimal, floating-point numbers by their bits. -/
def shown : Scalar → String
  | boolean value => toString value
  | byte value => toString value.toInt
  | char value => toString value.toNat
  | short value => toString value.toInt
  | int value => toString value.toInt
  | long value => toString value.toInt
  | float bits => hexPattern 8 bits.toNat
  | double bits => hexPattern 16 bits.toNat

end Scalar

end JavaInterop
