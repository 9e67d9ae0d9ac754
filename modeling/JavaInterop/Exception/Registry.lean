import JavaInterop.Exception.Error

/-!
# Factories and their registry

A factory knows how to turn an object of one Java class into a native value. A registry keeps
factories by the dotted name of their class and only ever grows: the first factory enlisted under a
name stays. That no name occurs twice is part of the type.
-/

namespace JavaInterop

/-- Builds native values for one class. A proxy type wraps the object it is given; a refusing
factory answers every request with an error that shows its tag. -/
inductive Factory where
  | proxy (type : ProxyType)
  | refusing (descriptor : ClassDescriptor) (tag : String)
deriving DecidableEq

namespace Factory

/-- The class that the factory is for. -/
def descriptor : Factory → ClassDescriptor
  | proxy type => type.descriptor
  | refusing descriptor _ => descriptor

/-- The name that the factory is kept under. -/
def name (factory : Factory) : String := factory.descriptor.dottedName

/-- Wraps a value of the class. A proxy type takes over the reference of an object and refuses
everything else. -/
def create : Factory → Value → Except Error Proxy
  | proxy type, .object (some reference) => .ok ⟨type, reference⟩
  | proxy type, value =>
    .error (.bridge s!"Can't create a {type.descriptor.dottedName} from {value.quoted}")
  | refusing _ tag, _ => .error (.bridge s!"{tag} can't create")

/-- The error for a thrown object of the class, whose runtime class may be a subclass. Only a proxy
type keeps the reference to the object. -/
def thrown (factory : Factory) (throwable : GlobalReference) (className : String)
    (message : Option String) : Error :=
  match factory with
  | proxy type => .javaException ⟨className, message, ⟨type, throwable⟩⟩
  | refusing _ tag =>
    let shown := message.getD "no message"
    .bridge s!"{tag} threw {className}: {shown}"

/-- Whether the error for a thrown object keeps the reference. -/
def keepsReference : Factory → Bool
  | proxy _ => true
  | refusing _ _ => false

end Factory

/-- Factories in the order in which they were enlisted, no two under one name. -/
structure Registry where
  factories : List Factory := []
  distinct : (factories.map Factory.name).Nodup := by decide

namespace Registry

/-- The registry with nothing in it. -/
def empty : Registry := { }

instance : Inhabited Registry := ⟨empty⟩

/-- The factory kept under a dotted name. -/
def lookup (registry : Registry) (name : String) : Option Factory :=
  registry.factories.find? fun factory => factory.name == name

/-- A name has no factory exactly if none was enlisted under it. -/
theorem lookup_eq_none_iff {registry : Registry} {name : String} :
    registry.lookup name = none ↔ name ∉ registry.factories.map Factory.name := by
  simp [lookup, List.find?_eq_none, List.mem_map]

/-- Adds a factory under its name, unless the name is taken; the answer tells which. -/
def enlist (registry : Registry) (factory : Factory) : Registry × Bool :=
  if h : registry.lookup factory.name = none then
    (⟨registry.factories ++ [factory], by
      simpa [List.nodup_append, registry.distinct] using lookup_eq_none_iff.1 h⟩, true)
  else (registry, false)

/-- Adds factories one after the other. -/
def enlistAll (registry : Registry) (factories : List Factory) : Registry :=
  factories.foldl (fun registry factory => (registry.enlist factory).1) registry

/-- A registry with the exception classes that every program can rely on. -/
def builtins : Registry := empty.enlistAll (ProxyType.exceptions.map Factory.proxy)

/-- How many names have a factory. -/
def size (registry : Registry) : Nat := registry.factories.length

/-- The registry in diagnostic output: its names in order. -/
def quoted (registry : Registry) : String :=
  let names := (registry.factories.map Factory.name).mergeSort fun first second => first ≤ second
  Text.quotedRecord "FactoryRegistry" [("factories", Text.quotedList names)]

end Registry

end JavaInterop
