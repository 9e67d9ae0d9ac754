import JavaInterop.Class.Lookup

/-!
# Proxy types and the class hierarchy

Testing and casting objects by the class that a proxy type stands for.
-/

namespace JavaInterop

variable [Host]

namespace ProxyType

/-- Whether an object is an instance of the type's class; the null reference is an instance of
none. -/
def isInstance (type : ProxyType) (env : Env) (object : Option Handle) : Fallible Bool := do
  if object.isNone then
    return false
  let classObject ← type.descriptor.find env
  classObject.scope (env.isInstanceOf object classObject.raw)

/-- Takes hold of an object through the type, after testing its class. -/
def cast (type : ProxyType) (env : Env) (object : Option Handle) : Fallible Proxy := do
  if ← type.isInstance env object then
    return ⟨type, ← env.newGlobal object⟩
  throw (.bridge s!"Can not cast to {type.descriptor.dottedName}")

/-- Whether a value of one type may stand where the other is expected. -/
def isAssignable (sub sup : ProxyType) (env : Env) : Fallible Bool := do
  let subClass ← sub.descriptor.find env
  subClass.scope do
    let supClass ← sup.descriptor.find env
    supClass.scope (env.isAssignableFrom subClass.raw supClass.raw)

end ProxyType

end JavaInterop
