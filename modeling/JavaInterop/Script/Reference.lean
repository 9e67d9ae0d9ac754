import JavaInterop.Script.Session

/-!
# Steps for references

The steps of a script that make, release and look at references. A step names a reference by its
slot; no name is the null reference.
-/

namespace JavaInterop.Script

/-- A step for references. -/
inductive ReferenceCommand where
  | newLocal (object : Option String)
  | newGlobal (object : Option String)
  | copy (name : String)
  | release (name : String)
  | drop (name : String)
  | giveUp (name : String)
  | deleteLocal (object : Option String)
  | info (object : Option String)
  | make (spec : Simulation.ObjectSpec)

namespace ReferenceCommand

/-- Empties the slots of a name, the shared one and then that of the thread. -/
def dropSlots (target : Target) (name : String) : Act Bool := do
  let shared ← Act.takeShared? name
  shared.forM fun held => Act.perform target held.drop
  let own ← Act.takeLocal? target name
  own.forM fun reference => Act.perform target reference.drop
  return own.isSome || shared.isSome

/-- Gives up the ownership of a reference; its slot then holds it raw, for all threads. -/
def giveUpOwnership (target : Target) (name : String) : Act (Option Handle) := do
  let handle ← match ← Act.takeLocal? target name with
    | some reference => pure reference.raw
    | none => GlobalReference.raw <$> Act.takeGlobal target name
  Act.putShared target name (.raw handle)
  return handle

/-- What is known about a reference, and whether the global one in the shared slot of that name can
still be used. A local reference hides the global one only as a reference. -/
def describe (target : Target) (object : Option String) : Act Datum := do
  let handle ← Act.reference target object
  let basic := [("raw", ← Act.label handle), ("null", Datum.flag handle.isNone)]
  match object >>= (← get).shared.find? >>= Held.global? with
  | none => return .record basic
  | some reference =>
    let live := (← get).process.bridge.isUsable reference
    let running ← Act.perform target (do
      return (← reference.lifecycle.registration?).isSome)
    return .record <| basic ++ [("released", .flag reference.isReleased), ("live", .flag live),
      ("running", .flag running)]

/-- A new local reference to a Java object, in the machine that the environment's lifecycle has
now. -/
def newObject (target : Target) (spec : Simulation.ObjectSpec) : Act Datum := do
  let slot ← Act.env target
  let registration ← Act.perform target slot.env.lifecycle.registration?
  let handle ← match registration with
    | some registration => Act.onMachine registration.vm do
      Simulation.Step.referTo? (← Simulation.Step.make spec)
    | none => pure none
  Act.keepLocal target slot (slot.env.own handle)

/-- Carries out a step. -/
def perform (target : Target) : ReferenceCommand → Act Datum
  | newLocal object => do
    let slot ← Act.env target
    let object ← Act.reference target object
    Act.keepLocal target slot (← Act.require target (slot.env.newLocal object))
  | newGlobal object => do
    let slot ← Act.env target
    let object ← Act.reference target object
    Act.keepGlobal target (← Act.require target (slot.env.newGlobal object))
  | copy name => do
    let slot ← Act.env target
    let reference ← Act.global name
    Act.keepGlobal target (← Act.require target (reference.copy slot.env))
  | release name => do
    let reference ← Act.global name
    let released ← Act.perform target reference.release
    modify fun session => { session with shared := session.shared.insert name (.global released) }
    return .null
  | drop name => do return .flag (← dropSlots target name)
  | giveUp name => do Act.label (← giveUpOwnership target name)
  | deleteLocal object => do
    let slot ← Act.env target
    let object ← Act.reference target object
    Act.perform target (slot.env.deleteLocal object)
    return .null
  | info object => describe target object
  | make spec => newObject target spec

end ReferenceCommand

end JavaInterop.Script
