import JavaInterop.Callback.Dispatch
import JavaInterop.Class.Cast

/-!
# Implementing Java interfaces

A builder stands for one interface. It owns an invocation object on the Java side, which forwards
calls of the interface's methods to native code, and a table of callbacks here. Registering a
callback tells the invocation object the number of the table and the index of the callback;
building asks it for an object that implements the interface.
-/

namespace JavaInterop

variable [Host]

/-- The Java class that forwards calls. -/
def invocationClass : String := "org/jnibridge/NativeInvocation"

/-- The native method that calls are forwarded to, and its signature. -/
def forwardMethod : String × String :=
  ("invokeNative", "(JILjava/lang/Object;[Ljava/lang/Object;)Ljava/lang/Object;")

/-- The function that stands behind the forwarding method. -/
def forwardFunction : NativeFunction := ⟨"invoke_native"⟩

/-- Remembers the generation that the forwarding method was bound in. -/
def rememberBinding (generation : Nat) : Program Unit :=
  Program.update fun bridge => { bridge with boundIn := some generation }

/-- Binds the forwarding method, once for each generation in a row. -/
def bindForwarding (env : Env) : Fallible Unit := do
  let bridge ← Program.state
  if bridge.boundIn = some env.generation then
    return
  let classObject ← env.findClass invocationClass
  classObject.scope do
    let method ← ExceptT.mk <| pure <|
      NativeMethod.of forwardMethod.1 forwardMethod.2 forwardFunction
    (env.registerNatives classObject.raw [method]).withReason
      "Unable to register native callback for invokeNative()"
    rememberBinding env.generation

/-- Something that builds objects implementing one interface. -/
structure Builder where
  interface : String
  invocation : GlobalReference
  registerMethod : MethodId
  createMethod : MethodId
  table : Nat
deriving DecidableEq

/-- A new, empty table of callbacks, under a number that no table had before. -/
def newTable (lifecycle : LifecycleId) : Program Nat := do
  let bridge ← Program.state
  Program.update fun bridge =>
    { bridge with
      nextTable := bridge.nextTable + 1
      tables := bridge.tables.insert bridge.nextTable ⟨lifecycle, #[]⟩ }
  return bridge.nextTable

namespace Builder

/-- Makes the invocation object and the table of a builder, once the forwarding method is bound. -/
def furnish (env : Env) (interface : String) : Fallible Builder := do
  let classObject ← env.findClass invocationClass
  classObject.scope do
    let registerMethod ←
      env.findMethod classObject.raw "registerNative" "(Ljava/lang/String;JI)V" false
    let createMethod ← env.findMethod classObject.raw "createProxy" "()Ljava/lang/Object;" false
    let constructor ← env.findMethod classObject.raw "<init>" "(Ljava/lang/String;)V" false
    let name ← env.newString interface
    name.scope do
      let object ← (env.newObject classObject.raw constructor [.reference name.raw]).withReason
        s!"Unable to create a NativeInvocation for {interface}"
      object.scope do
        let invocation ← env.newGlobal object.raw
        let table ← newTable env.lifecycle
        return ⟨interface, invocation, registerMethod, createMethod, table⟩

/-- A builder for the interface of the given dotted name. -/
def new (env : Env) (interface : String) : Fallible Builder := do
  bindForwarding env
  furnish env interface

/-- How many callbacks are registered. -/
def size (builder : Builder) : Program Nat := do
  let bridge ← Program.state
  return ((bridge.tables.find? builder.table).map (·.callbacks.size)).getD 0

/-- Adds a callback at the end of the table. -/
def push (builder : Builder) (callback : Host.Callback) : Program Unit :=
  Program.update fun bridge =>
    match bridge.tables.find? builder.table with
    | some table =>
      let grown := { table with callbacks := table.callbacks.push callback }
      { bridge with tables := bridge.tables.insert builder.table grown }
    | none => bridge

/-- Implements the method of the given name by a callback; an older one for the name is replaced. -/
def register (builder : Builder) (env : Env) (name : String) (callback : Host.Callback) :
    Fallible Unit := do
  let index ← builder.size
  let javaName ← env.newString name
  javaName.scope do
    let arguments : List Argument := [.reference javaName.raw,
      .scalar (.long (Int64.ofNat builder.table)), .scalar (.int (Int32.ofNat index))]
    (env.callVoid builder.invocation.raw builder.registerMethod arguments).withReason
      "Exception thrown invoking NativeInvocation.registerNative()"
    builder.push callback

/-- A new object that implements the interface. -/
def instantiate (builder : Builder) (env : Env) : Fallible LocalReference := do
  let object ← (env.callObject builder.invocation.raw builder.createMethod []).withReason
    "Exception thrown invoking NativeInvocation.createProxy()"
  match object with
  | some object => return object
  | none => throw (.bridge "NativeInvocation.createProxy() returned null")

/-- A new object that implements the interface, held through a proxy type. -/
def build (builder : Builder) (env : Env) (type : ProxyType) : Fallible Proxy := do
  let object ← builder.instantiate env
  object.scope do
    if ← type.isInstance env object.raw then
      return ⟨type, ← env.newGlobal object.raw⟩
    throw (.bridge s!"Proxy not instance of {type.internalName}")

/-- Drops a builder: its callbacks can no longer be reached, and the invocation object is released.
-/
def drop (builder : Builder) : Program Unit := do
  Program.update fun bridge => { bridge with tables := bridge.tables.erase builder.table }
  builder.invocation.drop

end Builder

end JavaInterop
