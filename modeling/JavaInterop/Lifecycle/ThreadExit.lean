import JavaInterop.Reference.Global

/-!
# The exit of a thread

When a thread exits, what it keeps is given up, the newest slot first: its class loader is dropped,
and its pending detaches run, each for a lifecycle that still exists and a registration that is
still there. A lifecycle exists as long as something refers to it, inside the bridge or outside.
-/

namespace JavaInterop

variable [Host]

namespace PendingDetach

/-- Detaches the exiting thread if it is still attached. -/
def run (pending : PendingDetach) (heldOutside : LifecycleId → Bool) : Program Unit := do
  let bridge ← Program.state
  if heldOutside pending.lifecycle || bridge.refersTo pending.lifecycle then
    match ← pending.lifecycle.registered? pending.generation with
    | none => pure ()
    | some registration =>
      match ← Program.perform (.getEnv registration.vm registration.version) with
      | .ok _ => pending.lifecycle.detachAttached registration
      | .error _ => pure ()

end PendingDetach

/-- Gives up one slot of the running thread. -/
def ThreadSlot.vacate (slot : ThreadSlot) (heldOutside : LifecycleId → Bool) : Program Unit := do
  let running ← Program.current
  let bridge ← Program.state
  let thread := bridge.thread running.id
  match slot with
  | .classLoader =>
    Program.update fun bridge => bridge.setThread running.id { thread with loader := none }
    match thread.loader with
    | some loader => loader.drop
    | none => pure ()
  | .pendingDetaches =>
    Program.update fun bridge => bridge.setThread running.id { thread with pending := [] }
    thread.pending.forM fun pending => pending.run heldOutside

/-- Gives up everything that the running thread keeps. -/
def exitThread (heldOutside : LifecycleId → Bool) : Program Unit := do
  let running ← Program.current
  let bridge ← Program.state
  (bridge.thread running.id).slots.forM fun slot => slot.vacate heldOutside
  Program.update fun bridge => { bridge with threads := bridge.threads.erase running.id }

end JavaInterop
