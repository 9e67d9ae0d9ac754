import JavaInterop.Environment.Env

/-!
# The class loader of a thread

Each thread may have a class loader of its own, through which classes are found that the machine's
own look-up does not see. The thread owns a global reference to it, which is dropped when another
loader takes its place or the thread exits; once its machine has gone the thread has no loader.
-/

namespace JavaInterop

variable [Host]

/-- The class loader of the running thread, if it has one whose machine is still there. -/
def currentClassLoader : Program (Option GlobalReference) := do
  let running ← Program.current
  Program.update fun bridge =>
    bridge.setThread running.id ((bridge.thread running.id).touch .classLoader)
  let bridge ← Program.state
  return (bridge.thread running.id).loader.filter bridge.isUsable

/-- Puts a loader in place of the running thread's and gives back the older one. -/
def exchangeClassLoader (loader : Option GlobalReference) : Program (Option GlobalReference) := do
  let running ← Program.current
  let bridge ← Program.state
  let thread := (bridge.thread running.id).touch .classLoader
  Program.update fun bridge => bridge.setThread running.id { thread with loader := loader }
  return thread.loader

/-- Sets the class loader of the running thread; the null reference takes it away. -/
def setClassLoader (env : Env) (loader : Option Handle) : Fallible Unit := do
  let loader ← match loader with
    | some handle => some <$> env.newGlobal handle
    | none => pure none
  match ← exchangeClassLoader loader with
  | some previous => previous.drop
  | none => pure ()

end JavaInterop
