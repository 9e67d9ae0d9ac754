import JavaInterop.Exception.Catch

/-!
# Classes, methods and calls

The functions of an environment that find classes and methods, test types and call methods. Each
checks for a pending exception after a call that may raise one.
-/

namespace JavaInterop

variable [Host]

namespace Env

/-- Finds a class by its name in internal form. -/
def findClass (env : Env) (internalName : String) : Fallible LocalReference := do
  let name ← Fallible.ended internalName
  let classObject ← env.perform (.findClass name)
  env.catchPending
  let classObject ← Fallible.nonNull classObject "FindClass result"
  return env.own classObject

/-- The runtime class of an object. -/
def objectClass (env : Env) (object : Option Handle) : Fallible LocalReference := do
  let object ← Fallible.nonNull object "get_object_class obj"
  let answer ← env.perform (.getObjectClass object)
  let classObject ← Fallible.nonNull answer "GetObjectClass result"
  return env.own classObject

/-- The superclass of a class; the root class and interfaces have none. -/
def superclass (env : Env) (classObject : Option Handle) : Fallible (Option LocalReference) := do
  let classObject ← Fallible.nonNull classObject "get_superclass class"
  return env.ownNonNull (← env.perform (.getSuperclass classObject))

/-- Whether an object is an instance of a class. -/
def isInstanceOf (env : Env) (object classObject : Option Handle) : Fallible Bool := do
  let classObject ← Fallible.nonNull classObject "is_instance_of class"
  env.perform (.isInstanceOf object classObject)

/-- Whether one class may stand where the other is expected. -/
def isAssignableFrom (env : Env) (sub sup : Option Handle) : Fallible Bool := do
  let sub ← Fallible.nonNull sub "is_assignable_from sub"
  let sup ← Fallible.nonNull sup "is_assignable_from sup"
  env.perform (.isAssignableFrom sub sup)

/-- Finds a method of a class. If there is none, the error tells what the machine raised. -/
def findMethod (env : Env) (classObject : Option Handle) (name signature : String)
    (isStatic : Bool) : Fallible MethodId := do
  let classObject ← Fallible.nonNull classObject "method_id class"
  let endedName ← Fallible.ended name
  let endedSignature ← Fallible.ended signature
  match ← env.perform (.getMethodId classObject endedName endedSignature isStatic) with
  | some method => return method
  | none => throw (← env.withCause s!"Unable to find the method, {name} {signature}")

/-- Binds native functions to methods of a class. -/
def registerNatives (env : Env) (classObject : Option Handle) (methods : List NativeMethod) :
    Fallible Unit := do
  let classObject ← Fallible.nonNull classObject "register_native_methods class"
  let answer ← env.perform (.registerNatives classObject methods)
  env.catchPending
  Fallible.ofStatus answer .callFailed

/-- Calls a method that returns an object. -/
def callObject (env : Env) (receiver : Option Handle) (method : MethodId)
    (arguments : List Argument) : Fallible (Option LocalReference) := do
  let receiver ← Fallible.nonNull receiver "call_object_method obj"
  let answer ← env.perform (.callObject receiver method arguments)
  env.catchPending
  return env.ownNonNull answer

/-- Calls a method that returns nothing. -/
def callVoid (env : Env) (receiver : Option Handle) (method : MethodId)
    (arguments : List Argument) : Fallible Unit := do
  let receiver ← Fallible.nonNull receiver "call_void_method obj"
  env.perform (.callVoid receiver method arguments)
  env.catchPending

/-- Calls a method that returns a scalar. -/
def callPrimitive (env : Env) (kind : Primitive) (receiver : Option Handle) (method : MethodId)
    (arguments : List Argument) : Fallible Scalar := do
  let receiver ← Fallible.nonNull receiver "call_primitive_method obj"
  let answer ← env.perform (.callPrimitive kind receiver method arguments)
  env.catchPending
  return .of kind answer

/-- Calls a static method that returns an object. -/
def callStaticObject (env : Env) (classObject : Option Handle) (method : MethodId)
    (arguments : List Argument) : Fallible (Option LocalReference) := do
  let classObject ← Fallible.nonNull classObject "call_static_object_method class"
  let answer ← env.perform (.callStaticObject classObject method arguments)
  env.catchPending
  return env.ownNonNull answer

/-- Calls a static method that returns nothing. -/
def callStaticVoid (env : Env) (classObject : Option Handle) (method : MethodId)
    (arguments : List Argument) : Fallible Unit := do
  let classObject ← Fallible.nonNull classObject "call_static_void_method class"
  env.perform (.callStaticVoid classObject method arguments)
  env.catchPending

/-- Creates an object. -/
def newObject (env : Env) (classObject : Option Handle) (constructor : MethodId)
    (arguments : List Argument) : Fallible LocalReference := do
  let classObject ← Fallible.nonNull classObject "new_object class"
  let answer ← env.perform (.newObject classObject constructor arguments)
  env.catchPending
  let object ← Fallible.nonNull answer "NewObjectA result"
  return env.own object

end Env

/-- A native method to be bound, refused if its name or signature contains a zero character. -/
def NativeMethod.of (name signature : String) (function : NativeFunction) :
    Except Error NativeMethod := do
  let ended (text : String) := (Text.CString.ofText text).mapError Error.zeroInText
  return ⟨← ended name, ← ended signature, function⟩

end JavaInterop
