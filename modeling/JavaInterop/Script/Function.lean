import JavaInterop.Environment.Objects
import JavaInterop.Script.Session

/-!
# Steps for the functions of an environment

The steps of a script that find classes and methods, call methods, work with strings and arrays, and
raise and look at exceptions.
-/

namespace JavaInterop.Script

/-- How a method is to be called. -/
inductive CallKind where
  | object
  | void
  | primitive (kind : Primitive)
  | staticObject
  | staticVoid
  | new

/-- An argument of a call: a scalar, or the reference in a slot. -/
inductive ArgumentSpec where
  | value (value : Value)
  | reference (name : Option String)

/-- A step for a function of an environment. References are named by their slots. -/
inductive FunctionCommand where
  | findClass (name : String)
  | objectClass (object : Option String)
  | superclass (classObject : Option String)
  | isInstanceOf (object classObject : Option String)
  | isAssignable (sub sup : Option String)
  | findMethod (classObject : Option String) (name signature : String) (isStatic : Bool)
  | call (kind : CallKind) (receiver : Option String) (method : String)
      (arguments : List ArgumentSpec)
  | newString (content : String)
  | getString (string : Option String)
  | arrayLength (array : Option String)
  | arrayElement (array : Option String) (index : Nat)
  | describe (object : Option String)
  | nameOf (classObject : Option String)
  | registerNatives (classObject : Option String) (methods : List (String × String))
  | raise (throwable : Option String)
  | raiseNew (className message : String)
  | exceptionCheck
  | exceptionClear
  | exceptionDescribe
  | exceptionOccurred

/-- The function that scripts bind to methods of their own; it does nothing. -/
def idleFunction : NativeFunction := ⟨"idle"⟩

/-- The argument that is meant. -/
def ArgumentSpec.resolve (target : Target) : ArgumentSpec → Act Argument
  | value content => return content.argument
  | reference name => do return .reference (← Act.reference target name)

namespace FunctionCommand

/-- Calls a method. -/
def callMethod (target : Target) (slot : EnvSlot) (kind : CallKind) (receiver : Option Handle)
    (method : MethodId) (arguments : List Argument) : Act Datum := do
  let env := slot.env
  match kind with
  | .object =>
    Act.keepOptional target slot
      (← Act.require target (env.callObject receiver method arguments))
  | .void =>
    Act.require target (env.callVoid receiver method arguments)
    return .text "void"
  | .primitive kind =>
    return .ofScalar (← Act.require target (env.callPrimitive kind receiver method arguments))
  | .staticObject =>
    Act.keepOptional target slot
      (← Act.require target (env.callStaticObject receiver method arguments))
  | .staticVoid =>
    Act.require target (env.callStaticVoid receiver method arguments)
    return .text "void"
  | .new =>
    Act.keepLocal target slot (← Act.require target (env.newObject receiver method arguments))

/-- The method in a slot. -/
def method (name : String) : Act MethodId :=
  Act.held name fun
    | .method id => some id
    | _ => none

/-- Carries out a step with an environment. -/
def performIn (target : Target) (slot : EnvSlot) : FunctionCommand → Act Datum
  | findClass name => do
    Act.keepLocal target slot (← Act.require target (slot.env.findClass name))
  | objectClass object => do
    let object ← Act.reference target object
    Act.keepLocal target slot (← Act.require target (slot.env.objectClass object))
  | superclass classObject => do
    let classObject ← Act.reference target classObject
    Act.keepOptional target slot (← Act.require target (slot.env.superclass classObject))
  | isInstanceOf object classObject => do
    let object ← Act.reference target object
    let classObject ← Act.reference target classObject
    return .flag (← Act.require target (slot.env.isInstanceOf object classObject))
  | isAssignable sub sup => do
    let sub ← Act.reference target sub
    let sup ← Act.reference target sup
    return .flag (← Act.require target (slot.env.isAssignableFrom sub sup))
  | findMethod classObject name signature isStatic => do
    let classObject ← Act.reference target classObject
    let id ← Act.require target (slot.env.findMethod classObject name signature isStatic)
    Act.keepShared target (.method id)
    return .flag true
  | call kind receiver name arguments => do
    let receiver ← Act.reference target receiver
    let id ← method name
    let arguments ← arguments.mapM (ArgumentSpec.resolve target)
    callMethod target slot kind receiver id arguments
  | newString content => do
    Act.keepLocal target slot (← Act.require target (slot.env.newString content))
  | getString string => do
    let string ← Act.reference target string
    return .text (← Act.require target (slot.env.getString string))
  | arrayLength array => do
    let array ← Act.reference target array
    return .number (← Act.require target (slot.env.arrayLength array))
  | arrayElement array index => do
    let array ← Act.reference target array
    Act.keepOptional target slot (← Act.require target (slot.env.arrayElement array index))
  | describe object => do
    let object ← Act.reference target object
    return .text (← Act.require target (slot.env.describe object))
  | nameOf classObject => do
    let classObject ← Act.reference target classObject
    return .text (← Act.require target (slot.env.className classObject))
  | registerNatives classObject methods => do
    let classObject ← Act.reference target classObject
    let methods ← Act.require target <| ExceptT.mk <| pure <|
      methods.mapM fun (name, signature) => NativeMethod.of name signature idleFunction
    Act.require target (slot.env.registerNatives classObject methods)
    return .null
  | raise throwable => do
    let throwable ← Act.reference target throwable
    Act.require target (slot.env.raise throwable)
    return .null
  | raiseNew className message => do
    Act.require target (slot.env.raiseNew className message)
    return .null
  | exceptionCheck => do return .flag (← Act.perform target slot.env.exceptionCheck)
  | exceptionClear => do
    Act.perform target slot.env.exceptionClear
    return .null
  | exceptionDescribe => do
    Act.perform target slot.env.exceptionDescribe
    return .null
  | exceptionOccurred => do
    Act.keepOptional target slot (← Act.perform target slot.env.exceptionOccurred)

/-- Carries out a step. -/
def perform (target : Target) (command : FunctionCommand) : Act Datum := do
  performIn target (← Act.env target) command

end FunctionCommand

end JavaInterop.Script
