import JavaInterop.Callback.Builder
import JavaInterop.Lifecycle.Shutdown

/-!
# The operations of an environment

The operations that native code performs through an environment, as data, so that one statement can
speak about all of them.  Each stands for the program of the same name, with its own arguments and
its own type of result.
-/

namespace JavaInterop

variable [Host]

/-- An operation with its arguments. -/
inductive Operation where
  | findClass (internalName : String)
  | findMethod (classObject : Option Handle) (name signature : String) (isStatic : Bool)
  | registerNatives (classObject : Option Handle) (methods : List NativeMethod)
  | callObject (receiver : Option Handle) (method : MethodId) (arguments : List Argument)
  | callVoid (receiver : Option Handle) (method : MethodId) (arguments : List Argument)
  | callPrimitive (kind : Primitive) (receiver : Option Handle) (method : MethodId)
      (arguments : List Argument)
  | callStaticObject (classObject : Option Handle) (method : MethodId) (arguments : List Argument)
  | callStaticVoid (classObject : Option Handle) (method : MethodId) (arguments : List Argument)
  | newObject (classObject : Option Handle) (constructor : MethodId) (arguments : List Argument)
  | newString (content : String)
  | getString (string : Option Handle)
  | arrayElement (array : Option Handle) (index : Nat)
  | describe (object : Option Handle)
  | className (classObject : Option Handle)
  | raiseNew (internalName message : String)
  | toObject (value : Value)
  | unbox (object : Option Handle) (kind : Primitive)
  | classOf (descriptor : ClassDescriptor)
  | isInstance (type : ProxyType) (object : Option Handle)
  | cast (type : ProxyType) (object : Option Handle)
  | isAssignable (sub sup : ProxyType)
  | newBuilder (interface : String)
  | registerCallback (builder : Builder) (name : String) (callback : Host.Callback)
  | instantiate (builder : Builder)
  | build (builder : Builder) (type : ProxyType)
  | registerShutdownHook
  | catchWith (registry : Registry)
  | withCause (text : String)

namespace Operation

/-- What an operation gives if it succeeds.  Making an error with its cause always fails. -/
@[reducible] def Result : Operation → Type
  | findClass _ | newObject .. | newString _ | classOf _ | instantiate _ => LocalReference
  | callObject .. | callStaticObject .. | arrayElement .. | toObject _ => Option LocalReference
  | findMethod .. => MethodId
  | callPrimitive .. | unbox .. => Scalar
  | getString _ | describe _ | className _ => String
  | isInstance .. | isAssignable .. => Bool
  | cast .. | build .. => Proxy
  | newBuilder _ => Builder
  | registerNatives .. | callVoid .. | callStaticVoid .. | raiseNew .. | registerCallback ..
  | registerShutdownHook | catchWith _ => Unit
  | withCause _ => Empty

/-- The program of an operation. -/
def program : (operation : Operation) → Env → Fallible operation.Result
  | findClass internalName, env => env.findClass internalName
  | findMethod classObject name signature isStatic, env =>
    env.findMethod classObject name signature isStatic
  | registerNatives classObject methods, env => env.registerNatives classObject methods
  | callObject receiver method arguments, env => env.callObject receiver method arguments
  | callVoid receiver method arguments, env => env.callVoid receiver method arguments
  | callPrimitive kind receiver method arguments, env =>
    env.callPrimitive kind receiver method arguments
  | callStaticObject classObject method arguments, env =>
    env.callStaticObject classObject method arguments
  | callStaticVoid classObject method arguments, env =>
    env.callStaticVoid classObject method arguments
  | newObject classObject constructor arguments, env =>
    env.newObject classObject constructor arguments
  | newString content, env => env.newString content
  | getString string, env => env.getString string
  | arrayElement array index, env => env.arrayElement array index
  | describe object, env => env.describe object
  | className classObject, env => env.className classObject
  | raiseNew internalName message, env => env.raiseNew internalName message
  | toObject value, env => value.toObject env
  | unbox object kind, env => env.unbox object kind
  | classOf descriptor, env => descriptor.find env
  | isInstance type object, env => type.isInstance env object
  | cast type object, env => type.cast env object
  | isAssignable sub sup, env => sub.isAssignable sup env
  | newBuilder interface, env => Builder.new env interface
  | registerCallback builder name callback, env => builder.register env name callback
  | instantiate builder, env => builder.instantiate env
  | build builder type, env => builder.build env type
  | registerShutdownHook, env => JavaInterop.registerShutdownHook env
  | catchWith registry, env => env.catchWith registry
  | withCause text, env => do throw (← env.withCause text)

/-- The operations that take a pending exception from the machine. -/
def IsCatch : Operation → Prop
  | catchWith _ | withCause _ => True
  | _ => False

/-- The operations that look for an exception after every call that may raise one.  Raising a new
exception is not one of them, and neither is the test of two classes. -/
def IsChecked : Operation → Prop
  | raiseNew .. | isAssignable .. => False
  | _ => True

end Operation

/-! ## A situation to work in

A lifecycle with one machine, which was created here, and an environment of the thread that created
it.  Statements about particular runs start from it. -/

namespace Sample

/-- A native program without callbacks. -/
@[reducible] def host : Host := ⟨Unit, Unit⟩

def vm : VmId := ⟨0⟩

def thread : NativeThread := { id := 0, name := none }

def registration : Registration := ⟨vm, .v1_8, thread.id, true, 1⟩

def env : Env := Env.of .shared registration ⟨vm, 1⟩

def bridge : Bridge :=
  { lifecycles := ⟨[(.shared, ⟨some registration, 1⟩)]⟩, nextGeneration := 2, registry := .empty }

/-- A registry with one factory, for the class `T`. -/
def linked : Registry := ⟨[.proxy ⟨"T", "T"⟩], by simp⟩

/-- The answer of a machine that has nothing to give. -/
def nothing : (request : Call) → request.Reply
  | .create _ | .list _ => .error .unknown
  | .getEnv vm _ | .attach vm _ => .ok ⟨vm, 1⟩
  | .detach _ | .destroy _ => .ok ()
  | .env _ function =>
    match function with
    | .getVersion | .getArrayLength _ => 0
    | .findClass _ | .getSuperclass _ | .exceptionOccurred | .newLocalRef _ | .newGlobalRef _
    | .getObjectClass _ | .callObject .. | .callStaticObject .. | .newObject .. | .newString _
    | .getArrayElement .. => none
    | .isAssignableFrom .. | .isInstanceOf .. | .exceptionCheck => false
    | .throw _ | .throwNew .. | .registerNatives .. => .ok ()
    | .getMethodId .. => none
    | .callPrimitive kind .. => kind.zero
    | .getStringChars _ => none
    | .exceptionDescribe | .exceptionClear | .deleteLocalRef _ | .deleteGlobalRef _ | .callVoid ..
    | .callStaticVoid .. | .releaseStringChars _ => ()

/-- The function that finds the superclass. -/
def asksSuperclass : EnvFunction → Bool
  | .getSuperclass _ => true
  | _ => false

/-- The answer of a machine that has something for every question.  Every string is `T`. -/
def something : (request : Call) → request.Reply
  | .env pointer (.getObjectClass _) => some ⟨pointer.vm, 2⟩
  | .env pointer (.findClass _) => some ⟨pointer.vm, 3⟩
  | .env pointer (.getMethodId ..) => some ⟨pointer.vm, 1⟩
  | .env pointer (.callObject ..) => some ⟨pointer.vm, 4⟩
  | .env pointer (.getStringChars string) =>
    if string.vm = pointer.vm then some ⟨[84], by decide⟩ else none
  | .env pointer (.newGlobalRef _) => some ⟨pointer.vm, 5⟩
  | request => nothing request

end Sample

end JavaInterop
