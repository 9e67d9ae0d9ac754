import JavaInterop.Interface.Primitive

/-!
# Handles

What a virtual machine hands out to native code: itself, an environment for each attachment of a
thread, references to objects and identifiers of methods. Native code can only pass them back; each
names the machine that issued it. The null reference is `none`.
-/

namespace JavaInterop

/-- A virtual machine of this process. -/
structure VmId where
  index : Nat
deriving DecidableEq

/-- The environment that a machine gave to one attachment of a thread. The number zero stands for
the null pointer, which a machine gives if it claims success without having an environment. -/
structure EnvPointer where
  vm : VmId
  number : Nat
deriving DecidableEq

/-- The null pointer in place of an environment. -/
def EnvPointer.null (vm : VmId) : EnvPointer := ⟨vm, 0⟩

/-- How the environment of a machine is shown. -/
def EnvPointer.label (pointer : EnvPointer) : String :=
  if pointer.number = 0 then "null" else s!"E{pointer.number}"

/-- A reference to an object, local or global. -/
structure Handle where
  vm : VmId
  number : Nat
deriving DecidableEq

/-- A method, valid as long as its class is loaded. -/
structure MethodId where
  vm : VmId
  number : Nat
deriving DecidableEq

/-- A function of the native program, known by its symbol. -/
structure NativeFunction where
  symbol : String
deriving DecidableEq

/-- An argument of a Java method as it is passed by native code. -/
inductive Argument where
  | scalar (scalar : Scalar)
  | reference (object : Option Handle)
deriving DecidableEq

/-- A thread of the process, with the name that the operating system knows it by. While a thread
exits it may still use the bridge, after its pending detaches have run. -/
structure NativeThread where
  id : Nat
  name : Option String
  /-- Whether the pending detaches of the thread have run, so that no more can be left with it. -/
  isExiting : Bool := false
deriving DecidableEq

end JavaInterop
