import JavaInterop.Class.Cast
import JavaInterop.Environment.Objects
import JavaInterop.Script.Session

/-!
# Steps for exceptions and factories

The steps of a script that turn pending exceptions into errors, look at caught ones, and work with
registries of factories.
-/

namespace JavaInterop.Script

/-- A step for exceptions and factories. A registry that is not named is that of the process. -/
inductive ExceptionCommand where
  | catchPending (registry : Option String)
  | withCause (text : String)
  | info (name : String) (quoted : Bool)
  | matches (name : String) (type : ProxyType)
  | isInstance (name : String) (type : ProxyType)
  | rethrow (name : String)
  | newRegistry (registry : Registry)
  | enlist (registry : String) (factory : Factory)
  | create (object : Option String) (value : Value) (registry : String) (className : String)
      (type : ProxyType)

namespace ExceptionCommand

/-- The registry in a slot. -/
def registry (name : String) : Act Registry :=
  Act.held name fun
    | .registry registry => some registry
    | _ => none

/-- The registry in a slot, or that of the process if there is none. -/
def registryOrShared (name : String) : Act Registry := do
  match (← get).shared.find? name with
  | some (.registry registry) => return registry
  | _ => return (← get).process.bridge.registry

/-- Takes the global reference out of a slot as a value; without one the value is as given. -/
def takeValue (target : Target) (object : Option String) (value : Value) : Act Value := do
  match ← object.bindM (Act.takeGlobal? target) with
  | some reference => return .object (some reference)
  | none => return value

/-- Gives a value to a factory and keeps what comes out, which is shown if it is of the type that is
asked for. -/
def make (target : Target) (factory : Factory) (value : Value) (type : ProxyType) :
    Act Datum := do
  match factory.create value with
  | .error error =>
    Act.perform target value.drop
    throw (.failed error)
  | .ok proxy =>
    let shown ← if proxy.type = type then Act.label proxy.reference.raw else pure .null
    Act.keepShared target (.made proxy)
    return shown

/-- Carries out a step. -/
def perform (target : Target) : ExceptionCommand → Act Datum
  | catchPending name => do
    let env := (← Act.env target).env
    match name with
    | none => Act.require target env.catchPending
    | some name => do
      let registry ← registry name
      Act.require target (env.catchWith registry)
    return .null
  | withCause text => do
    let env := (← Act.env target).env
    let error ← Act.perform target (env.withCause text)
    return .record (errorFields (← get).process.world.label error)
  | info name quoted => do
    let thrown ← Act.thrown name
    let label := (← get).process.world.label thrown.proxy.reference.raw
    return .record [("info", .record (thrownFields label thrown)), ("display", .text thrown.text),
      ("debug", if quoted then .text thrown.quoted else .null)]
  | «matches» name type => do
    let thrown ← Act.thrown name
    let same := thrown.proxy.type == type
    let label ← Act.label thrown.proxy.reference.raw
    return .record [("is", .flag same), ("downcast", if same then label else .null)]
  | isInstance name type => do
    let env := (← Act.env target).env
    let thrown ← Act.thrown name
    return .flag (← Act.require target (type.isInstance env thrown.proxy.reference.raw))
  | rethrow name => do
    let env := (← Act.env target).env
    let thrown ← Act.thrown name
    Act.require target (thrown.rethrow env)
    return .null
  | newRegistry registry => do
    Act.keepShared target (.registry registry)
    return .text registry.quoted
  | enlist name factory => do
    let (grown, added) := (← registry name).enlist factory
    modify fun session => { session with shared := session.shared.insert name (.registry grown) }
    return .flag added
  | create object value name className type => do
    let value ← takeValue target object value
    match (← registryOrShared name).lookup className with
    | some factory => make target factory value type
    | none =>
      Act.perform target value.drop
      throw .senseless

end ExceptionCommand

end JavaInterop.Script
