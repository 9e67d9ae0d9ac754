import JavaInterop.Lifecycle.Registration
import JavaInterop.Lifecycle.ThreadExit
import JavaInterop.Script.Session
import JavaInterop.Startup.Library

/-!
# Steps for lifecycles and threads

The steps of a script that create, adopt and give up machines, and that attach and detach threads.
-/

namespace JavaInterop.Script

open Simulation (CreationPlan ListingPlan)

/-- Where the entry point for creating a machine comes from. -/
inductive Loader where
  | given
  | library (place : Option Startup.Library)
  | installed (place : Option Startup.Library)

/-- Loads what has to be loaded. -/
def Loader.load : Loader → Except Error Unit
  | given => .ok ()
  | library place => Startup.Library.load place
  | installed place => Startup.Library.loadInstalled place

/-- How a step asks for an attachment; the group is in a slot. -/
structure AttachSpec where
  daemon : DaemonPolicy := .auto
  name : Option String := none
  group : Option String := none
  isScoped : Bool := false

/-- Does something with the attachment that is asked for. The group is out of its slot meanwhile. -/
def AttachSpec.withConfig {α : Type} (target : Target) (spec : AttachSpec)
    (action : AttachConfig → Act α) : Act α :=
  match spec.group with
  | none => action { spec with group := none }
  | some name => Act.lendGlobal target name fun group => action { spec with group := some group }

/-- A step for lifecycles and threads. -/
inductive LifecycleCommand where
  | new
  | shared
  | copy
  | forget
  | create (options : Except Error Startup.OptionList) (loader : Loader) (version : Version)
      (plan : CreationPlan)
  | loadLibrary (loader : Loader) (version : Version)
  | listMachines (plan : ListingPlan)
  | adopt (vm : Option VmId) (version : Version)
  | teardown
  | reset
  | cleanup
  | info
  | attach (spec : AttachSpec)
  | detach
  | envOfPointer (vm : Option VmId)
  | envInfo
  | dropEnv
  | exitThread

/-- The name of a machine. -/
def Datum.ofMachine (vm : VmId) : Datum := .text s!"v{vm.index}"

namespace LifecycleCommand

/-- Gives a name to a lifecycle. -/
def nameLifecycle (target : Target) (id : LifecycleId) : Act Datum := do
  match target.result with
  | some name =>
    modify fun session => { session with lifecycles := session.lifecycles.insert name id }
  | none => pure ()
  return .null

/-- A lifecycle that was not used before. -/
def freshLifecycle : Act LifecycleId :=
  modifyGet fun session =>
    (⟨session.nextLifecycle⟩, { session with nextLifecycle := session.nextLifecycle + 1 })

/-- A machine that exists, if one is named. -/
def existing (vm : Option VmId) : Act (Option VmId) := do
  let count := (← get).process.world.machines.size
  match vm with
  | some id => if id.index < count then return vm else throw .senseless
  | none => return none

/-- What is known about a lifecycle. Only the last question is one for the machine. -/
def describe (target : Target) : Act Datum := do
  let id ← Act.lifecycle target
  let running ← Act.perform target id.isRunning
  let vm ← Act.perform target id.machine?
  let version ← Act.perform target id.version?
  let owned ← Act.perform target id.isOwned
  let attached ← Act.perform target id.threadsAttached
  let here ← Act.perform target id.isThreadAttached
  return .record [("running", .flag running), ("handle", (vm.map .ofMachine).getD .null),
    ("version", .textOrNull (version.map Version.text)), ("owned", .flag owned),
    ("attached", .number attached), ("here", .flag here)]

/-- Ends a thread: what is in its slots is dropped, and then what the bridge keeps for it. -/
def endThread (target : Target) : Act Datum := do
  Act.expect ((← get).threads.find? target.thread) *> pure ()
  Act.dropLocals target fun _ => true
  Act.updateScope target fun scope => { scope with envs := { } }
  Act.perform target (JavaInterop.exitThread (← get).holds)
  modify fun session => { session with threads := session.threads.erase target.thread }
  return .flag true

/-- Carries out a step. -/
def perform (target : Target) : LifecycleCommand → Act Datum
  | new => do nameLifecycle target (← freshLifecycle)
  | shared => nameLifecycle target .shared
  | copy => do nameLifecycle target (← Act.lifecycle target)
  | forget => do
    let known := ((← get).lifecycles.find? target.lifecycle).isSome
    modify fun session =>
      { session with lifecycles := session.lifecycles.erase target.lifecycle }
    return .flag known
  | create options loader version plan => do
    let id ← Act.lifecycle target
    let vm ← existing plan.vm
    let options ← Act.require target (ExceptT.mk (pure options))
    Act.require target (ExceptT.mk (pure loader.load))
    Act.onWorld (modify fun world => { world with creation := { plan with vm } })
    Act.require target (id.create version options)
    return .null
  | loadLibrary loader version => do
    Act.require target (ExceptT.mk (pure loader.load))
    return .record [("version", .number version.toInt.toInt), ("path", .flag true)]
  | listMachines plan => do
    for vm in plan.machines do
      discard (existing vm)
    Act.onWorld (modify fun world => { world with listing := plan })
    let machines ← Act.require target Startup.listMachines
    return .list (machines.map .ofMachine)
  | adopt vm version => do
    let id ← Act.lifecycle target
    let vm ← existing vm
    Act.require target (id.adopt vm version)
    return .null
  | teardown => do
    Act.require target (← Act.lifecycle target).teardown
    return .null
  | reset => do
    Act.perform target (← Act.lifecycle target).reset
    return .null
  | cleanup => do
    Act.perform target (← Act.lifecycle target).cleanup
    return .null
  | info => describe target
  | attach spec => do
    let id ← Act.lifecycle target
    spec.withConfig target fun config => do
      let env ← Act.require target (id.attach config)
      discard (Act.keepEnv target env)
      return .ofEnv env.pointer
  | detach => do
    Act.perform target (← Act.lifecycle target).detach
    return .null
  | envOfPointer vm => do
    let id ← Act.lifecycle target
    let thread := (← Act.scope target).native.id
    let pointer ← match ← existing vm with
      | some vm => Act.onMachine vm (Simulation.Step.environment? thread)
      | none => pure none
    let env ← Act.require target (Env.ofPointer id pointer)
    discard (Act.keepEnv target env)
    return .ofEnv env.pointer
  | envInfo => do
    let env := (← Act.env target).env
    let running ← Act.perform target env.lifecycle.isRunning
    return .record [("env", .ofEnv env.pointer), ("version", .text env.version.text),
      ("running", .flag running)]
  | dropEnv => do
    let known := ((← Act.scope target).envs.find? target.env).isSome
    Act.updateScope target fun scope => { scope with envs := scope.envs.erase target.env }
    return .flag known
  | exitThread => endThread target

end LifecycleCommand

end JavaInterop.Script
