import JavaInterop.Bridge.Program
import JavaInterop.Text.ModifiedUtf8

/-!
# Attaching and detaching the running thread

A thread is attached to a registered machine at most once: if it already has an environment, that
one is used. Attaching a thread other than the creator for good leaves a pending detach with the
thread, which runs when the thread exits; a scoped attachment leaves none, since whoever asked for
it detaches the thread again. A thread that is exiting and whose pending detaches have run already
cannot be left any more.

All operations here work on a registration that the caller has just read.
-/

namespace JavaInterop

/-- Whether an attached thread keeps the machine from shutting down. By default only the creator
does. -/
inductive DaemonPolicy where
  | auto
  | daemon
  | nonDaemon
deriving DecidableEq

/-- How a thread is to be attached. -/
structure AttachConfig where
  daemon : DaemonPolicy := .auto
  name : Option String := none
  group : Option GlobalReference := none
  isScoped : Bool := false

/-- The name under which an unnamed attachment appears in Java. -/
def NativeThread.attachName (thread : NativeThread) : String :=
  thread.name.getD s!"NativeThread-{thread.id}"

namespace LifecycleId

variable [Host]

/-- Leaves a pending detach with the running thread, and clears away those of lifecycles that have
ceased to exist. -/
def deferDetach (id : LifecycleId) (generation : Nat) : Program Unit := do
  let running ← Program.current
  if running.isExiting then
    Program.warn "Thread is exiting; it will not be detached automatically"
  else
    Program.update fun bridge =>
      let thread := (bridge.thread running.id).touch .pendingDetaches
      bridge.setThread running.id
        { thread with pending := bridge.alive thread.pending ++ [⟨id, generation⟩] }

/-- Takes back the pending detach of the running thread for one registration. A thread that is
exiting has none left. -/
def cancelDetach (id : LifecycleId) (generation : Nat) : Program Unit := do
  let running ← Program.current
  Program.update fun bridge =>
    let thread := (bridge.thread running.id).touch .pendingDetaches
    bridge.setThread running.id
      { thread with pending := thread.pending.filter (· ≠ ⟨id, generation⟩) }

/-- Changes the number of threads attached through a lifecycle. -/
def countAttached (id : LifecycleId) (change : Nat → Nat) : Program Unit :=
  Program.update fun bridge =>
    let lifecycle := bridge.lifecycle id
    bridge.setLifecycle id { lifecycle with attached := change lifecycle.attached }

/-- Attaches the running thread unless it already is, and tells whether it had to. -/
def attachTo (id : LifecycleId) (registration : Registration) (config : AttachConfig) :
    Fallible (EnvPointer × Bool) := do
  match ← Program.perform (.getEnv registration.vm registration.version) with
  | .ok pointer => return (pointer, false)
  | .error .threadDetached => pure ()
  | .error status => throw (.attachFailed status)
  let running ← Program.current
  let isCreator := running.id == registration.creator
  let request : AttachRequest := {
    version := registration.version
    name := Text.ModifiedUtf8.encode (config.name.getD running.attachName)
    group := config.group.bind GlobalReference.raw
    daemon := match config.daemon with
      | .daemon => true
      | .nonDaemon => false
      | .auto => !isCreator }
  let answer ← Program.perform (.attach registration.vm request)
  let pointer ← Fallible.ofStatus answer .attachFailed
  id.countAttached (· + 1)
  if !isCreator && !config.isScoped then
    id.deferDetach registration.generation
  return (pointer, true)

/-- Detaches the running thread, which is known to be attached. A failure leaves it attached and is
only logged; the number of a thread is not shown. -/
def detachAttached (id : LifecycleId) (registration : Registration) : Program Unit := do
  match ← Program.perform (.detach registration.vm) with
  | .ok () => id.countAttached (· - 1)
  | .error status =>
    let running ← Program.current
    let name := running.name.getD ""
    Program.complain s!"Error detaching thread {name} (ThreadId(*)): {status.message}"

/-- Takes back the pending detach and detaches the running thread if it is attached. -/
def detachFrom (id : LifecycleId) (registration : Registration) : Program Unit := do
  id.cancelDetach registration.generation
  match ← Program.perform (.getEnv registration.vm registration.version) with
  | .ok _ => id.detachAttached registration
  | .error _ => pure ()

end LifecycleId

end JavaInterop
