import JavaInterop.Class.Cast
import JavaInterop.Callback.Builder
import JavaInterop.Environment.Boxing
import JavaInterop.Lifecycle.Shutdown
import JavaInterop.Script.Session

/-!
# Steps for values, classes and proxies

The steps of a script that box and unbox values, look up the classes of descriptors, cast objects
to proxy types, set the class loader, and implement interfaces by callbacks.
-/

namespace JavaInterop.Script

/-- A step for values, classes and proxies. -/
inductive ConversionCommand where
  | boxValue (value : Value)
  | boxReference (name : String)
  | unbox (object : Option String) (kind : Primitive)
  | newDescriptor (internalName signature : String)
  | findNamed (descriptor : String)
  | findType (type : ProxyType)
  | isInstance (object : Option String) (type : ProxyType)
  | cast (object : Option String) (type : ProxyType)
  | isAssignable (sub sup : ProxyType)
  | setClassLoader (loader : Option String)
  | classLoader
  | newBuilder (interface : String)
  | builderInfo (name : String)
  | addCallback (name : String) (method : String) (actions : List Action)
  | instantiate (name : String)
  | build (name : String) (type : ProxyType)
  | registerShutdownHook

namespace ConversionCommand

/-- The descriptor in a slot. -/
def descriptor (name : String) : Act ClassDescriptor :=
  Act.held name fun
    | .descriptor descriptor => some descriptor
    | _ => none

/-- The builder in a slot. -/
def builder (name : String) : Act Builder :=
  Act.held name fun
    | .builder builder => some builder
    | _ => none

/-- Makes a descriptor that is different from all others. -/
def makeDescriptor (internalName signature : String) : Act ClassDescriptor :=
  modifyGet fun session =>
    (⟨internalName, signature, .numbered session.nextDescriptor⟩,
      { session with nextDescriptor := session.nextDescriptor + 1 })

/-- Carries out a step. -/
def perform (target : Target) : ConversionCommand → Act Datum
  | boxValue value => do
    let slot ← Act.env target
    Act.keepOptional target slot (← Act.require target (value.toObject slot.env))
  | boxReference name => do
    let slot ← Act.env target
    Act.lendGlobal target name fun reference => do
      let value : Value := .object (some reference)
      Act.keepOptional target slot (← Act.require target (value.toObject slot.env))
  | unbox object kind => do
    let env := (← Act.env target).env
    let object ← Act.reference target object
    return .ofScalar (← Act.require target (env.unbox object kind))
  | newDescriptor internalName signature => do
    let made ← makeDescriptor internalName signature
    Act.keepShared target (.descriptor made)
    return .text made.dottedName
  | findNamed name => do
    let slot ← Act.env target
    let descriptor ← descriptor name
    Act.keepLocal target slot (← Act.require target (descriptor.find slot.env))
  | findType type => do
    let slot ← Act.env target
    Act.keepLocal target slot (← Act.require target (type.descriptor.find slot.env))
  | isInstance object type => do
    let env := (← Act.env target).env
    let object ← Act.reference target object
    return .flag (← Act.require target (type.isInstance env object))
  | cast object type => do
    let env := (← Act.env target).env
    let object ← Act.reference target object
    Act.keepProxy target (← Act.require target (type.cast env object))
  | isAssignable sub sup => do
    let env := (← Act.env target).env
    return .flag (← Act.require target (sub.isAssignable sup env))
  | setClassLoader loader => do
    let env := (← Act.env target).env
    let loader ← Act.reference target loader
    Act.require target (JavaInterop.setClassLoader env loader)
    return .null
  | classLoader => do
    match ← Act.perform target currentClassLoader with
    | some loader => Act.label loader.raw
    | none => return .null
  | newBuilder interface => do
    let env := (← Act.env target).env
    let made ← Act.require target (Builder.new env interface)
    Act.keepShared target (.builder made)
    return .record [("table", .decimal made.table)]
  | builderInfo name => do
    let builder ← builder name
    let size ← Act.perform target builder.size
    return .record [("interface", .text builder.interface), ("len", .number size),
      ("empty", .flag (size == 0))]
  | addCallback name method actions => do
    let env := (← Act.env target).env
    let builder ← builder name
    Act.require target (builder.register env method actions)
    return .null
  | instantiate name => do
    let slot ← Act.env target
    let builder ← builder name
    Act.keepLocal target slot (← Act.require target (builder.instantiate slot.env))
  | build name type => do
    let env := (← Act.env target).env
    let builder ← builder name
    Act.keepProxy target (← Act.require target (builder.build env type))
  | registerShutdownHook => do
    let env := (← Act.env target).env
    Act.require target (JavaInterop.registerShutdownHook env)
    return .null

end ConversionCommand

end JavaInterop.Script
