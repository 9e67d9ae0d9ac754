import JavaInterop.Environment.Env

/-!
# Environments for the running thread

Getting an environment from a lifecycle: for good, or for the duration of a piece of work. Work
under a scoped configuration ends with a detach if it began with an attach, provided that the
registration it began under is still there.
-/

namespace JavaInterop

namespace LifecycleId

variable [Host] {α : Type}

/-- The beginning of a piece of work: an environment, and whether the thread had to be attached. -/
def enter (id : LifecycleId) (config : AttachConfig) : Fallible (Env × Bool) := do
  match ← id.registration? with
  | none => throw .vmShutdown
  | some registration =>
    let (pointer, attachedHere) ← id.attachTo registration config
    return (Env.of id registration pointer, attachedHere)

/-- The end of a piece of work. -/
def leave (id : LifecycleId) (config : AttachConfig) (env : Env) (attachedHere : Bool) :
    Program Unit := do
  if attachedHere && config.isScoped then
    match ← id.registered? env.generation with
    | some registration => id.detachFrom registration
    | none => pure ()

/-- Does a piece of work with an environment for the running thread. -/
def withEnv (id : LifecycleId) (config : AttachConfig) (work : Env → Fallible α) :
    Fallible α := do
  let (env, attachedHere) ← id.enter config
  (work env).thenAlways (id.leave config env attachedHere)

/-- An environment for the running thread, which stays attached. -/
def attach (id : LifecycleId) (config : AttachConfig) : Fallible Env := do
  let (env, _) ← id.enter { config with isScoped := false }
  return env

/-- Detaches the running thread; without a registered machine there is nothing to do. -/
def detach (id : LifecycleId) : Program Unit := do
  match ← id.registration? with
  | some registration => id.detachFrom registration
  | none => pure ()

/-- Whether the running thread has an environment for the registered machine. -/
def isThreadAttached (id : LifecycleId) : Program Bool := do
  match ← id.registration? with
  | some registration =>
    let answer ← Program.perform (.getEnv registration.vm registration.version)
    return answer.isOk
  | none => return false

/-- How many threads are attached through the lifecycle. -/
def threadsAttached (id : LifecycleId) : Program Nat :=
  Program.look fun bridge => (bridge.lifecycle id).attached

end LifecycleId

end JavaInterop
