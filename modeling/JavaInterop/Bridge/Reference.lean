import JavaInterop.Interface.Handle

/-!
# Owned references

A global reference belongs to whoever holds it and remembers which registration of which lifecycle
issued it, so that it can tell whether its machine is still there. A released one holds no handle.
-/

namespace JavaInterop

/-- One lifecycle: the place where at most one machine is registered at a time. -/
structure LifecycleId where
  index : Nat
deriving DecidableEq

/-- The lifecycle that the whole process shares. -/
def LifecycleId.shared : LifecycleId := ⟨0⟩

/-- An owned global reference, issued under the given generation of its lifecycle. -/
structure GlobalReference where
  raw : Option Handle
  lifecycle : LifecycleId
  generation : Nat
deriving DecidableEq

/-- A released reference no longer names anything. -/
def GlobalReference.isReleased (reference : GlobalReference) : Bool := reference.raw.isNone

/-- A Java value in the hands of native code: an object, a scalar, or nothing at all. -/
inductive Value where
  | object (reference : Option GlobalReference)
  | scalar (scalar : Scalar)
  | void
deriving DecidableEq

namespace Value

/-- The primitive kind of a value; objects and nothing have none. -/
def primitive? : Value → Option Primitive
  | scalar content => some content.kind
  | object _ | void => none

/-- The value as an argument of a call. Nothing is passed as the null reference. -/
def argument : Value → Argument
  | object held => .reference (held.bind GlobalReference.raw)
  | scalar content => .scalar content
  | void => .reference none

/-- The value in diagnostic output. -/
def quoted : Value → String
  | object none => "Object(None)"
  | object (some _) => "Object(Some(GlobalRef))"
  | scalar content => content.quoted
  | void => "Void"

end Value

end JavaInterop
