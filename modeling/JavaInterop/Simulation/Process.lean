import JavaInterop.Callback.Builder
import JavaInterop.Simulation.World

/-!
# Running programs of the bridge

A process is the bridge together with everything outside it. A program runs on a thread: its calls
are answered by the simulated machines, and where a machine enters native code the bridge's own
dispatch runs, on the same thread, before the call goes on. Native code that is entered may call
Java again, so the depth of such entries is limited; below the limit native code answers null.
-/

namespace JavaInterop.Simulation

/-- The state of a process. -/
structure Process [Host] where
  bridge : Bridge := { }
  world : World := { }
  /-- Messages of the bridge, the newest first. -/
  notices : List Notice := []
  /-- Remarks of callbacks, the newest first. -/
  notes : List Host.Note := []

variable [Host] {α : Type}

/-- What runs where native code is entered: the bridge's own function, if that is what is bound. -/
def NativeCall.program (native : NativeCall) (callbacks : CallbackRunner) :
    Program (Option Handle) :=
  if native.function = forwardFunction then
    invokeNative callbacks native.pointer native.table native.index native.receiver native.array
  else return none

namespace Process

/-- Does something with the world. -/
def onWorld (action : StateM World α) : StateM Process α :=
  modifyGet fun process =>
    let (result, world) := action process.world
    (result, { process with world })

/-- Lets a machine take a step. -/
def onMachine (vm : VmId) (step : Step α) : StateM Process α := onWorld (World.onMachine vm step)

/-- Runs a program on a thread; `enter` is what happens where native code is entered. -/
def runWith (enter : NativeCall → StateM Process (Option Handle)) (thread : NativeThread) :
    Program α → StateM Process α
  | .done result => return result
  | .call request next => do
    match ← onWorld (World.answer thread.id request) with
    | .replied reply => runWith enter thread (next reply)
    | .entered native resume =>
      let object ← enter native
      let reply ← onWorld (resume object)
      runWith enter thread (next reply)
  | .read next => do
    let process ← get
    runWith enter thread (next process.bridge)
  | .write bridge next => do
    modify fun process => { process with bridge }
    runWith enter thread next
  | .thread next => runWith enter thread (next thread)
  | .notify notice next => do
    modify fun process => { process with notices := notice :: process.notices }
    runWith enter thread next
  | .remark note next => do
    modify fun process => { process with notes := note :: process.notes }
    runWith enter thread next

/-- How deeply native code may be entered. -/
def maxDepth : Nat := 256

/-- Runs a program on a thread, with callbacks that mean what `callbacks` says. -/
def run (callbacks : CallbackRunner) (thread : NativeThread) : Program α → StateM Process α :=
  runWith (enterNative maxDepth) thread
where
  /-- Enters native code, at most so deep. -/
  enterNative : (depth : Nat) → NativeCall → StateM Process (Option Handle)
    | 0, _ => return none
    | depth + 1, native =>
      runWith (enterNative depth) thread (native.program callbacks)

end Process

end JavaInterop.Simulation
