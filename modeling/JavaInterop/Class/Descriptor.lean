import JavaInterop.Text.Quoted

/-!
# Class descriptors and proxy types

A class descriptor names one Java class in internal form, with slashes, and knows its signature. The
dotted form is what Java itself reports. Looked-up classes are cached under the descriptor's key.

A proxy type is a native type that stands for one Java class: its descriptor follows from the class
name, and two proxy types are the same if they have the same name.
-/

namespace JavaInterop

/-- What a cached class is filed under. Each proxy type has one descriptor; any other descriptor is
known by the number it was given when it was made. -/
inductive DescriptorKey where
  | proxy (typeName : String)
  | numbered (number : Nat)
deriving DecidableEq

/-- The native side's name for one Java class. -/
structure ClassDescriptor where
  internalName : String
  signature : String
  key : DescriptorKey
deriving DecidableEq

/-- The dotted form of a class name in internal form. -/
def dotted (internalName : String) : String :=
  internalName.map fun c => if c = '/' then '.' else c

namespace ClassDescriptor

/-- The name of the class as Java reports it. -/
def dottedName (descriptor : ClassDescriptor) : String := dotted descriptor.internalName

/-- The descriptor in diagnostic output. -/
def quoted (descriptor : ClassDescriptor) : String :=
  Text.quotedRecord "ClassDescriptor" [("internal_name", Text.quoted descriptor.internalName),
    ("signature", Text.quoted descriptor.signature)]

end ClassDescriptor

/-- A native type that stands for one Java class. -/
structure ProxyType where
  name : String
  internalName : String
deriving DecidableEq

namespace ProxyType

/-- The descriptor of the class that the type stands for. -/
def descriptor (type : ProxyType) : ClassDescriptor where
  internalName := type.internalName
  signature := s!"L{type.internalName};"
  key := .proxy type.name

/-- A type named for a class of `java.lang`. -/
def lang (name : String) : ProxyType := ⟨name, s!"java/lang/{name}"⟩

/-- The type for the root class. -/
def object : ProxyType := lang "Object"

/-- The exception classes that every program can rely on, in the order in which they are enlisted.
-/
def exceptions : List ProxyType :=
  ["Throwable", "Exception", "RuntimeException", "IllegalArgumentException",
    "IllegalStateException", "NullPointerException", "UnsupportedOperationException",
    "ClassNotFoundException"].map lang

end ProxyType

end JavaInterop
