import JavaInterop.Lifecycle.Attach

/-!
# The life of a machine

A lifecycle has no machine at first. Creating one through a library or adopting one that runs
already registers it; tearing down, resetting or cleaning up forgets it again, and only a teardown
destroys a machine, if it was created here. While a machine is registered no other can be.
-/

namespace JavaInterop

namespace LifecycleId

variable [Host]

/-- Makes sure that the running thread is attached to a machine and asks it for its version. The
thread counts as attached here also if creating the machine attached it. -/
def register (id : LifecycleId) (vm : VmId) (version : Version) (owned : Bool) :
    Fallible Registration := do
  let running ← Program.current
  let generation ← Program.freshGeneration
  let registration : Registration := ⟨vm, version, running.id, owned, generation⟩
  let (pointer, attachedHere) ← id.attachTo registration { }
  if owned && !attachedHere then
    id.countAttached (· + 1)
  let reported ← Program.perform (.env pointer .getVersion)
  return { registration with version := .ofInt reported }

/-- Puts a registration into a lifecycle. -/
def setRegistration (id : LifecycleId) (registration : Registration) : Program Unit :=
  Program.update fun bridge =>
    bridge.setLifecycle id { bridge.lifecycle id with registration := some registration }

/-- Fails if a machine is registered. -/
def refuseSecond (id : LifecycleId) : Fallible Unit := do
  if (← id.registration?).isSome then
    throw .vmRunning

/-- Creates a machine of the given version and registers it as owned. One that cannot be registered
is destroyed at once. -/
def create (id : LifecycleId) (version : Version) (options : Startup.OptionList) :
    Fallible Unit := do
  id.refuseSecond
  let arguments ← ExceptT.mk (pure (options.arguments version))
  let vm ← Fallible.ofStatus (← Program.perform (.create arguments)) .vmCreation
  let vm ← Fallible.nonNull vm "JavaVM::from_raw ptr"
  let registration ← (id.register vm version true).mapFailure fun error => do
    match ← Program.perform (.destroy vm) with
    | .ok () => pure ()
    | .error status =>
      Program.complain <|
        s!"Failed to destroy a Java VM that couldn't be registered: {status.message}"
    return error
  id.setRegistration registration

/-- Registers a machine that was started elsewhere, under the version that the caller names. -/
def adopt (id : LifecycleId) (vm : Option VmId) (version : Version) : Fallible Unit := do
  let vm ← Fallible.nonNull vm "JavaVM::from_raw ptr"
  if !version.isValid then
    throw (.bridge "Unable to adopt the virtual machine: its JNI version is 0")
  id.refuseSecond
  let registration ← id.register vm version false
  id.setRegistration { registration with version := version }

/-- Takes the registration out of a lifecycle; no thread counts as attached after that. Both happen
in one step here, since an operation of another thread comes before it or after it. -/
def takeRegistration (id : LifecycleId) : Program (Option Registration) := do
  let registration ← id.registration?
  if registration.isSome then
    Program.update fun bridge => bridge.setLifecycle id { registration := none, attached := 0 }
  return registration

/-- Forgets the registered machine and destroys it if it is owned. The failure of a machine that is
older than version 1.6 means nothing and is ignored. -/
def teardown (id : LifecycleId) : Fallible Unit := do
  match ← id.takeRegistration with
  | none => pure ()
  | some registration =>
    if registration.owned then
      match ← Program.perform (.destroy registration.vm) with
      | .ok () => pure ()
      | .error status =>
        if registration.version < .v1_6 then pure () else throw (.vmDestroy status)

/-- Forgets the registered machine. -/
def reset (id : LifecycleId) : Program Unit := discard id.takeRegistration

/-- Tears an owned machine down and forgets an adopted one. A failure is only logged. -/
def cleanup (id : LifecycleId) : Program Unit := do
  if (← id.registration?).any Registration.owned then
    match ← id.teardown.run with
    | .ok () => pure ()
    | .error error =>
      Program.complain s!"Failed to destroy the Java VM during cleanup: {error.message}"
      id.reset
  else
    id.reset

/-- Whether a machine is registered. -/
def isRunning (id : LifecycleId) : Program Bool := do return (← id.registration?).isSome

/-- The registered machine. -/
def machine? (id : LifecycleId) : Program (Option VmId) := do
  return (← id.registration?).map Registration.vm

/-- The version of the registered machine. -/
def version? (id : LifecycleId) : Program (Option Version) := do
  return (← id.registration?).map Registration.version

/-- Whether the registered machine was created here. -/
def isOwned (id : LifecycleId) : Program Bool := do
  return (← id.registration?).any Registration.owned

end LifecycleId

end JavaInterop
