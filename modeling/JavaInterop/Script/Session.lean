import JavaInterop.Reference.Global
import JavaInterop.Callback.Builder
import JavaInterop.Script.Callback
import JavaInterop.Simulation.Process

/-!
# Sessions

What a script works on: the process and the named slots that results are kept in. Local references
and environments belong to a thread, and its local references hide the shared slots of the same
names; everything else is shared by all threads. A value that is put in place of another one, or
that nobody keeps, is dropped.
-/

namespace JavaInterop.Script

open Simulation (Process World Step)

/-- A local reference in a slot, with the serial number of the environment that made it. -/
structure LocalSlot where
  reference : LocalReference
  origin : Nat

/-- An environment in a slot. Serial numbers tell apart environments that are otherwise equal. -/
structure EnvSlot where
  env : Env
  serial : Nat

/-- A thread and the slots of its own. -/
structure Scope where
  native : NativeThread
  locals : Store String LocalSlot := { }
  envs : Store String EnvSlot := { }

/-- What a shared slot holds. A raw reference is owned by nobody. -/
inductive Held where
  | raw (handle : Option Handle)
  | global (reference : GlobalReference)
  | proxy (proxy : Proxy)
  | thrown (thrown : Thrown)
  | method (method : MethodId)
  | registry (registry : Registry)
  | descriptor (descriptor : ClassDescriptor)
  | builder (builder : Builder)
  /-- What a factory made. Its type is not known here, so that it stands for no reference. -/
  | made (content : Proxy)

namespace Held

/-- The global reference that a slot stands for where one is expected. -/
def global? : Held → Option GlobalReference
  | global reference => some reference
  | proxy typed => some typed.reference
  | thrown caught => some caught.proxy.reference
  | raw _ | method _ | registry _ | descriptor _ | builder _ | made _ => none

/-- The global reference that a slot owns. -/
def owned? : Held → Option GlobalReference
  | builder maker => some maker.invocation
  | made content => some content.reference
  | held => held.global?

/-- The reference that a slot stands for where one is expected. -/
def reference? : Held → Option (Option Handle)
  | raw handle => some handle
  | held => held.global?.map GlobalReference.raw

/-- Drops what a slot holds. -/
def drop : Held → Program Unit
  | builder maker => maker.drop
  | held => held.owned?.forM GlobalReference.drop

end Held

/-- The state of a script. -/
structure Session where
  process : Process := { }
  /-- Whether calls are reported. -/
  showsCalls : Bool := true
  /-- The kind of error that is reported of a step that makes no sense. -/
  refusal : String := "Senseless"
  /-- The names that the operating system has for threads. -/
  threadNames : List (String × String) := []
  threads : Store String Scope := { }
  nextThread : Nat := 1
  lifecycles : Store String LifecycleId := { }
  nextLifecycle : Nat := 1
  /-- The lifecycles of the work that is going on. -/
  working : List LifecycleId := []
  nextEnv : Nat := 0
  nextDescriptor : Nat := 0
  shared : Store String Held := { }

/-- Whether a script holds on to a lifecycle. The shared one always exists; any other one exists as
long as a slot refers to it or work is going on in it. -/
def Session.holds (session : Session) (id : LifecycleId) : Bool :=
  id == .shared || session.lifecycles.values.contains id || session.working.contains id
    || session.shared.values.any (fun held => held.owned?.any (·.lifecycle == id))
    || session.threads.values.any fun scope =>
      scope.envs.values.any (·.env.lifecycle == id)
        || scope.locals.values.any (·.reference.env.lifecycle == id)

/-- The lifecycles that exist although nothing refers to them any more, neither a script nor the
bridge. -/
def Session.forsaken (session : Session) : List LifecycleId :=
  let bridge := session.process.bridge
  (List.range session.nextLifecycle).map LifecycleId.mk |>.filter fun id =>
    !bridge.gone.contains id && !session.holds id && !bridge.refersTo id

/-- Why a step has no result: it does not make sense in its place, or it failed. -/
inductive Stop where
  | senseless
  | failed (error : Error)

/-- Something that a step does. -/
abbrev Act := ExceptT Stop (StateM Session)

/-- Where a step runs and where its result goes. -/
structure Target where
  thread : String := "main"
  lifecycle : String := "j"
  env : String := "e"
  vm : VmId := ⟨0⟩
  result : Option String := none
  keep : Option String := none

namespace Act

variable {α : Type}

/-- The value of an option that has to be there. -/
def expect (value : Option α) : Act α :=
  match value with
  | some present => return present
  | none => throw .senseless

/-! ## Threads -/

/-- The scope of a thread, which is started when it is first named. -/
def scope (target : Target) : Act Scope := do
  let session ← get
  match session.threads.find? target.thread with
  | some scope => return scope
  | none =>
    let native : NativeThread :=
      { id := session.nextThread, name := session.threadNames.lookup target.thread }
    let scope : Scope := { native }
    set { session with
      nextThread := session.nextThread + 1
      threads := session.threads.insert target.thread scope }
    return scope

/-- Changes the scope of a thread. -/
def updateScope (target : Target) (change : Scope → Scope) : Act Unit := do
  let scope ← scope target
  modify fun session =>
    { session with threads := session.threads.insert target.thread (change scope) }

/-! ## Running programs -/

/-- Does something with the process. -/
def onProcess (action : StateM Process α) : Act α :=
  modifyGet fun session =>
    let (result, process) := action session.process
    (result, { session with process })

/-- Does something with the world outside the bridge. -/
def onWorld (action : StateM World α) : Act α := onProcess (Process.onWorld action)

/-- Lets a simulated machine take a step. -/
def onMachine (vm : VmId) (step : Step α) : Act α := onProcess (Process.onMachine vm step)

/-- Runs a program of the bridge on the thread of a step. -/
def perform (target : Target) (program : Program α) : Act α := do
  let scope ← scope target
  onProcess (Process.run runCallback scope.native program)

/-- Runs a program that may fail; its failure is that of the step. -/
def require (target : Target) (program : Fallible α) : Act α := do
  match ← perform target program.run with
  | .ok result => return result
  | .error error => throw (.failed error)

/-- The label of a reference. -/
def label (handle : Option Handle) : Act Datum := do
  return .text ((← get).process.world.label handle)

/-! ## Reading slots -/

/-- The lifecycle of a step. -/
def lifecycle (target : Target) : Act LifecycleId := do
  expect ((← get).lifecycles.find? target.lifecycle)

/-- The environment of a step. -/
def env (target : Target) : Act EnvSlot := do
  expect ((← scope target).envs.find? target.env)

/-- What a shared slot holds, if it is what is looked for. -/
def held (name : String) (select : Held → Option α) : Act α := do
  expect ((← get).shared.find? name >>= select)

/-- The global reference in a slot. -/
def global (name : String) : Act GlobalReference :=
  held name fun
    | .global reference => some reference
    | _ => none

/-- The caught exception in a slot. -/
def thrown (name : String) : Act Thrown :=
  held name fun
    | .thrown thrown => some thrown
    | _ => none

/-- The reference that a step names; no name is the null reference. -/
def reference (target : Target) : Option String → Act (Option Handle)
  | none => return none
  | some name => do
    match (← scope target).locals.find? name with
    | some slot => return slot.reference.raw
    | none => held name Held.reference?

/-! ## Filling slots -/

/-- Puts a value into a shared slot; what it takes the place of is dropped. -/
def putShared (target : Target) (name : String) (value : Held) : Act Unit := do
  let previous := (← get).shared.find? name
  modify fun session => { session with shared := session.shared.insert name value }
  previous.forM fun old => perform target old.drop

/-- Puts a value into a shared slot, or drops it if the step names none. -/
def keepShared (target : Target) (value : Held) : Act Unit := do
  match target.result with
  | none => perform target value.drop
  | some name => putShared target name value

/-- Puts a local reference into a slot of the thread, or drops it if the step names none. The
answer is its label. -/
def keepLocal (target : Target) (origin : EnvSlot) (reference : LocalReference) : Act Datum := do
  let shown ← label reference.raw
  match target.result with
  | none => perform target reference.drop
  | some name =>
    let previous := (← scope target).locals.find? name
    updateScope target fun scope =>
      { scope with locals := scope.locals.insert name ⟨reference, origin.serial⟩ }
    previous.forM fun old => perform target old.reference.drop
  return shown

/-- Keeps a local reference that may be absent. -/
def keepOptional (target : Target) (origin : EnvSlot) : Option LocalReference → Act Datum
  | some reference => keepLocal target origin reference
  | none => return .null

/-- Keeps a global reference; the answer is its label. -/
def keepGlobal (target : Target) (reference : GlobalReference) : Act Datum := do
  let shown ← label reference.raw
  keepShared target (.global reference)
  return shown

/-- Keeps a proxy; the answer is the label of its reference and the class of its type. -/
def keepProxy (target : Target) (proxy : Proxy) : Act Datum := do
  let shown ← label proxy.reference.raw
  keepShared target (.proxy proxy)
  return .record [("ref", shown), ("class", .text proxy.type.internalName)]

/-- Puts an environment into a slot of the thread. -/
def keepEnv (target : Target) (env : Env) : Act EnvSlot := do
  let session ← get
  let slot : EnvSlot := ⟨env, session.nextEnv⟩
  set { session with nextEnv := session.nextEnv + 1 }
  match target.result with
  | some name =>
    updateScope target fun scope => { scope with envs := scope.envs.insert name slot }
  | none => pure ()
  return slot

/-! ## Emptying slots -/

/-- Takes a local reference out of its slot. -/
def takeLocal? (target : Target) (name : String) : Act (Option LocalReference) := do
  let slot := (← scope target).locals.find? name
  updateScope target fun scope => { scope with locals := scope.locals.erase name }
  return slot.map LocalSlot.reference

/-- Takes a value out of a shared slot. -/
def takeShared? (name : String) : Act (Option Held) :=
  modifyGet fun session =>
    (session.shared.find? name, { session with shared := session.shared.erase name })

/-- Takes the global reference out of a shared slot. Anything else that is there is dropped. -/
def takeGlobal? (target : Target) (name : String) : Act (Option GlobalReference) := do
  match ← takeShared? name with
  | some (.global reference) => return some reference
  | other =>
    other.forM fun held => perform target held.drop
    return none

/-- Takes the global reference out of a shared slot, which has to hold one. -/
def takeGlobal (target : Target) (name : String) : Act GlobalReference := do
  expect (← takeGlobal? target name)

/-- Does something with the global reference in a shared slot. Its slot is empty meanwhile, and it
goes back there in the end, whatever came of it. -/
def lendGlobal (target : Target) (name : String) (action : GlobalReference → Act α) : Act α := do
  let reference ← takeGlobal target name
  tryFinally (action reference) (putShared target name (.global reference))

/-- Drops the local references of a thread that are selected, in the order of their names. -/
def dropLocals (target : Target) (select : LocalSlot → Bool) : Act Unit := do
  let chosen := (← scope target).locals.entries.filter fun entry => select entry.2
  for (name, slot) in chosen.mergeSort fun first second => first.1 ≤ second.1 do
    updateScope target fun scope => { scope with locals := scope.locals.erase name }
    perform target slot.reference.drop

end Act

/-- How an environment is shown. -/
def Datum.ofEnv (pointer : EnvPointer) : Datum := .text pointer.label

end JavaInterop.Script
