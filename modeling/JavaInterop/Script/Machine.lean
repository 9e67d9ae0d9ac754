import JavaInterop.Lifecycle.Shutdown
import JavaInterop.Script.Session

/-!
# Steps for simulated machines

The steps of a script that act on a machine and not through the bridge: faults, attachments that
the bridge knows nothing of, the shutdown of Java, and calls of native code as Java would make
them.
-/

namespace JavaInterop.Script

open Simulation (Fault ObjectSpec Step Completion)

/-- A step for a machine. -/
inductive MachineCommand where
  | fault (fault : Fault)
  | clearFaults
  | attachOutside
  | detachOutside
  | look
  | shutdown (direct : Bool)
  | invokeNative (table : Int64) (index : Int32) (receiver array : ObjectSpec)

namespace MachineCommand

/-- Lets Java run its shutdown hooks on the thread of the step. -/
def runHooks (target : Target) (direct : Bool) : Act String := do
  let machine := (← get).process.world.machine target.vm
  if !direct && !machine.hasHook then
    return "no hook"
  match machine.native? Simulation.hookClass "signalVMShutdown" "()V" with
  | none => return "unbound"
  | some function =>
    Act.onMachine target.vm (Simulation.Step.report ("native signalVMShutdown() " ++ "\x7b"))
    if function = shutdownFunction then
      Act.perform target signalShutdown
    Act.onMachine target.vm (Simulation.Step.report "\x7d")
    return "ran"

/-- Begins a call of native code with objects made for it. -/
def beginNative (thread : Nat) (pointer : EnvPointer) (table : Int64) (index : Int32)
    (receiver array : ObjectSpec) : Step (Simulation.Invocation Completion) := do
  let receiver ← Simulation.Step.make receiver
  let array ← Simulation.Step.make array
  Simulation.Step.enterNative thread pointer table index none receiver array

/-- How a call of native code ended: by the text of what it returned or threw. -/
def showCompletion : Completion → Step Datum
  | .thrown exception => do
    let text := Text.escape ((← get).describe exception)
    return .record [("thrown", .text text)]
  | .value value => do
    let machine ← get
    let text := value.object?.map fun object => Text.escape (machine.describe object)
    return .record [("returned", .textOrNull text)]

/-- The environment that native code gets. A thread without one cannot enter native code; as long as
none is bound, it does not matter. -/
def nativeEnvironment (target : Target) (thread : Nat) : Act EnvPointer := do
  match ← Act.onMachine target.vm (Simulation.Step.environment? thread) with
  | some pointer => return pointer
  | none =>
    if ((← get).process.world.machine target.vm).forwarding?.isSome then throw .senseless
    return .null target.vm

/-- Lets Java call native code on the thread of the step. -/
def callNative (target : Target) (table : Int64) (index : Int32) (receiver array : ObjectSpec) :
    Act Datum := do
  let scope ← Act.scope target
  let pointer ← nativeEnvironment target scope.native.id
  let invocation ← Act.onMachine target.vm
    (beginNative scope.native.id pointer table index receiver array)
  match invocation with
  | .finished completion => Act.onMachine target.vm (showCompletion completion)
  | .entered native resume =>
    let object ← Act.perform target (native.program runCallback)
    Act.onMachine target.vm do showCompletion (← resume object)

/-- Whether a step needs its machine to be there. A mere look at it does not. -/
def needsMachine : MachineCommand → Bool
  | look => false
  | _ => true

/-- Carries out a step. -/
def perform (target : Target) (command : MachineCommand) : Act Datum := do
  if command.needsMachine && (← get).process.world.machines.size ≤ target.vm.index then
    throw .senseless
  let thread := (← Act.scope target).native.id
  match command with
  | fault order =>
    Act.onMachine target.vm
      (modify fun machine => { machine with faults := machine.faults ++ [order] })
    return .null
  | clearFaults =>
    Act.onMachine target.vm (modify fun machine => { machine with faults := [] })
    return .null
  | attachOutside =>
    return .ofEnv (← Act.onMachine target.vm (Simulation.Step.attachThread thread))
  | detachOutside =>
    return .flag (← Act.onMachine target.vm (Simulation.Step.detachThread thread))
  | look => return .null
  | shutdown direct => return .text (← runHooks target direct)
  | invokeNative table index receiver array => callNative target table index receiver array

end MachineCommand

end JavaInterop.Script
