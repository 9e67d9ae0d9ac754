import JavaInterop.Exception.Registry
import JavaInterop.Interface.Version
import JavaInterop.Store

/-!
# The state of the bridge

What the native side remembers between operations: for each lifecycle its registered machine and
how many threads it attached, for each thread its pending detaches and its class loader, and for
the whole process the bound native methods, the tables of callbacks, the cached classes and the
factories.

The native program that uses the bridge brings callbacks of its own; the bridge only keeps them.
-/

namespace JavaInterop

/-- The native program that uses the bridge: what its callbacks are, and the notes it may leave. -/
class Host where
  Callback : Type
  Note : Type

/-- What is known about a registered machine. The generation tells registrations apart, so that
whatever stems from an earlier one can tell that it has gone. -/
structure Registration where
  vm : VmId
  version : Version
  /-- The thread that created or adopted the machine. -/
  creator : Nat
  /-- Whether the machine was created here and is to be destroyed in the end. -/
  owned : Bool
  generation : Nat
deriving DecidableEq

/-- A lifecycle: the registered machine, if any, and the number of threads attached through it. -/
structure Lifecycle where
  registration : Option Registration := none
  attached : Nat := 0
deriving DecidableEq

/-- A detach that is due when a thread exits. -/
structure PendingDetach where
  lifecycle : LifecycleId
  generation : Nat
deriving DecidableEq

/-- The things a thread keeps for itself. -/
inductive ThreadSlot where
  | pendingDetaches
  | classLoader
deriving DecidableEq

/-- What one thread keeps. A slot comes into being when it is first used, and at the exit of the
thread the newest slot is emptied first. -/
structure ThreadState where
  slots : List ThreadSlot := []
  pending : List PendingDetach := []
  loader : Option GlobalReference := none
deriving DecidableEq

/-- Records the use of a slot; `slots` lists the newest first. -/
def ThreadState.touch (thread : ThreadState) (slot : ThreadSlot) : ThreadState :=
  if slot ∈ thread.slots then thread else { thread with slots := slot :: thread.slots }

@[simp] theorem touch_pending (state : ThreadState) (slot : ThreadSlot) :
    (state.touch slot).pending = state.pending := by
  unfold ThreadState.touch
  split
  · rfl
  · rfl

@[simp] theorem touch_loader (state : ThreadState) (slot : ThreadSlot) :
    (state.touch slot).loader = state.loader := by
  unfold ThreadState.touch
  split
  · rfl
  · rfl

/-- The callbacks of one builder, which run under the lifecycle that the builder was made in. -/
structure CallbackTable [Host] where
  lifecycle : LifecycleId
  callbacks : Array Host.Callback

/-- The state that all operations share. -/
structure Bridge [Host] where
  lifecycles : Store LifecycleId Lifecycle := { }
  nextGeneration : Nat := 1
  threads : Store Nat ThreadState := { }
  /-- The generation in which the entry point for callbacks was last bound. -/
  boundIn : Option Nat := none
  tables : Store Nat CallbackTable := { }
  nextTable : Nat := 1
  /-- The lifecycle to reset when its machine shuts down, and the generation it is meant for. -/
  hooked : Option (LifecycleId × Nat) := none
  classes : Store DescriptorKey GlobalReference := { }
  registry : Registry := Registry.builtins
  /-- The lifecycles that have ceased to exist, since nothing refers to them any more. -/
  gone : List LifecycleId := []

namespace Bridge

variable [Host]

/-- The state of a lifecycle; one that was never used is fresh. -/
def lifecycle (bridge : Bridge) (id : LifecycleId) : Lifecycle :=
  (bridge.lifecycles.find? id).getD { }

/-- Changes the state of a lifecycle. -/
def setLifecycle (bridge : Bridge) (id : LifecycleId) (lifecycle : Lifecycle) : Bridge :=
  { bridge with lifecycles := bridge.lifecycles.insert id lifecycle }

@[simp] theorem lifecycle_setLifecycle_self (bridge : Bridge) (id : LifecycleId)
    (lifecycle : Lifecycle) : (bridge.setLifecycle id lifecycle).lifecycle id = lifecycle := by
  simp [Bridge.lifecycle, setLifecycle]

theorem lifecycle_setLifecycle_of_ne (bridge : Bridge) {id other : LifecycleId}
    (lifecycle : Lifecycle) (h : other ≠ id) :
    (bridge.setLifecycle id lifecycle).lifecycle other = bridge.lifecycle other := by
  simp [Bridge.lifecycle, setLifecycle, Store.find?_insert_of_ne _ _ h]

/-- The state that a thread keeps; a thread that was never seen keeps nothing. -/
def thread (bridge : Bridge) (id : Nat) : ThreadState := (bridge.threads.find? id).getD { }

/-- Changes the state that a thread keeps. -/
def setThread (bridge : Bridge) (id : Nat) (thread : ThreadState) : Bridge :=
  { bridge with threads := bridge.threads.insert id thread }

@[simp] theorem thread_setThread_self (bridge : Bridge) (id : Nat) (thread : ThreadState) :
    (bridge.setThread id thread).thread id = thread := by
  simp [Bridge.thread, setThread]

theorem thread_setThread_of_ne (bridge : Bridge) {id other : Nat} (thread : ThreadState)
    (h : other ≠ id) : (bridge.setThread id thread).thread other = bridge.thread other := by
  simp [Bridge.thread, setThread, Store.find?_insert_of_ne _ _ h]

/-- The registration of a lifecycle, if it is still the one of the given generation. -/
def registered? (bridge : Bridge) (id : LifecycleId) (generation : Nat) : Option Registration :=
  (bridge.lifecycle id).registration.filter fun registration =>
    registration.generation == generation

/-- Whether the given generation of a lifecycle is still registered. -/
def isLive (bridge : Bridge) (id : LifecycleId) (generation : Nat) : Bool :=
  (bridge.registered? id generation).isSome

/-- Whether a global reference can still be used: not released, and its machine still registered. -/
def isUsable (bridge : Bridge) (reference : GlobalReference) : Bool :=
  !reference.isReleased && bridge.isLive reference.lifecycle reference.generation

/-- A lifecycle ceases to exist, and its registration with it. -/
def cease (bridge : Bridge) (id : LifecycleId) : Bridge :=
  { bridge.setLifecycle id { } with gone := id :: bridge.gone }

/-- The pending detaches of lifecycles that still exist. -/
def alive (bridge : Bridge) (pending : List PendingDetach) : List PendingDetach :=
  pending.filter (·.lifecycle ∉ bridge.gone)

/-- Whether the bridge itself refers to a lifecycle: a table of callbacks, the shutdown hook, a
cached class or a class loader keeps it in existence. -/
def refersTo (bridge : Bridge) (id : LifecycleId) : Bool :=
  bridge.tables.values.any (·.lifecycle == id)
    || bridge.hooked.any (·.1 == id)
    || bridge.classes.values.any (·.lifecycle == id)
    || bridge.threads.values.any fun thread => thread.loader.any (·.lifecycle == id)

end Bridge

end JavaInterop
