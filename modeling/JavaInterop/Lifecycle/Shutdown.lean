import JavaInterop.Environment.Objects
import JavaInterop.Lifecycle.Registration

/-!
# Forgetting a machine that shuts down

Once a machine has begun to exit, references into it and attachments to it must be left alone. A
hook on the Java side tells native code that the machine shuts down, and the lifecycle that the
hook was registered for forgets the machine, unless another one has been registered since.
-/

namespace JavaInterop

variable [Host]

/-- The Java class of the hook. -/
def shutdownHookClass : String := "org/jnibridge/ShutdownHook"

/-- The function behind the hook's native method. -/
def shutdownFunction : NativeFunction := ⟨"signal_vm_shutdown"⟩

/-- Remembers which registration to forget. -/
def rememberHook (lifecycle : LifecycleId) (generation : Nat) : Program Unit :=
  Program.update fun bridge => { bridge with hooked := some (lifecycle, generation) }

/-- Registers the shutdown hook with the machine of an environment. -/
def registerShutdownHook (env : Env) : Fallible Unit := do
  let classObject ← env.findClass shutdownHookClass
  classObject.scope do
    let method ← ExceptT.mk (pure (NativeMethod.of "signalVMShutdown" "()V" shutdownFunction))
    (env.registerNatives classObject.raw [method]).withReason
      "Unable to register native callback for signalVMShutdown()"
    let register ← env.findMethod classObject.raw "register" "()V" true
    (env.callStaticVoid classObject.raw register []).withReason
      "Exception thrown invoking ShutdownHook.register()"
    rememberHook env.lifecycle env.generation

/-- The native side of the hook. -/
def signalShutdown : Program Unit := do
  let bridge ← Program.state
  Program.update fun bridge => { bridge with hooked := none }
  match bridge.hooked with
  | none => pure ()
  | some (lifecycle, generation) =>
    if bridge.isLive lifecycle generation then
      lifecycle.reset

end JavaInterop
