import JavaInterop.Environment.Objects

/-!
# Boxing

Scalars become objects through the static `valueOf` of their wrapper class and are taken out again
by the method named for their kind, after a test that the object is a wrapper of that kind.
-/

namespace JavaInterop

variable [Host]

/-- Boxes a scalar. -/
def Scalar.box (scalar : Scalar) (env : Env) : Fallible (Option LocalReference) := do
  let wrapper ← env.findClass scalar.kind.wrapperClass
  wrapper.scope do
    let valueOf ← env.findMethod wrapper.raw "valueOf" scalar.kind.valueOfSignature true
    env.callStaticObject wrapper.raw valueOf [.scalar scalar]

/-- A value as an object: a new reference to an object, the box of a scalar, and no object for
nothing and for the null reference. -/
def Value.toObject (value : Value) (env : Env) : Fallible (Option LocalReference) :=
  match value with
  | .void | .object none => pure none
  | .object (some reference) => some <$> env.newLocal reference.raw
  | .scalar content => content.box env

/-- Takes a scalar of the given kind out of its box. -/
def Env.unbox (env : Env) (object : Option Handle) (kind : Primitive) : Fallible Scalar := do
  let wrapper ← env.findClass kind.wrapperClass
  wrapper.scope do
    if ← env.isInstanceOf object wrapper.raw then
      let method ← env.findMethod wrapper.raw kind.unboxMethod kind.unboxSignature false
      env.callPrimitive kind object method []
    else
      throw <| .bridge <| s!"Can not unbox a {kind.name}: " ++
        s!"the value isn't a {kind.wrapperDotted}"

end JavaInterop
