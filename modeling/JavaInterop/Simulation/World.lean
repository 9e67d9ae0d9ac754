import JavaInterop.Simulation.Function

/-!
# A process with simulated machines

The machines of a process, what the next attempts to create or to list machines are to give, and the
trace of all calls. Lines of a machine other than the first one begin with its name.
-/

namespace JavaInterop.Simulation

/-- What creating a machine gives: a status, and if that is zero a machine, to which the running
thread may have been attached. -/
structure CreationPlan where
  status : Int32 := 0
  vm : Option VmId := none
  attaches : Bool := true

/-- What listing the machines gives: the machines, and a status for the call that counts them and
for the one that lists them. -/
structure ListingPlan where
  machines : List (Option VmId) := []
  counting : Int32 := 0
  filling : Int32 := 0

/-- Everything outside the bridge. -/
structure World where
  machines : Array Machine := #[]
  creation : CreationPlan := { }
  listing : ListingPlan := { }
  /-- The trace, the newest line first. -/
  trace : List String := []

/-- A call that was answered, or one that waits for native code. -/
inductive Answer (α : Type) where
  | replied (reply : α)
  | entered (native : NativeCall) (resume : Option Handle → StateM World α)

namespace World

variable {α : Type}

/-- The machine with the given name. -/
def machine (world : World) (vm : VmId) : Machine :=
  world.machines.getD vm.index { id := vm, version := 0, classes := { } }

/-- How a reference is shown. -/
def label (world : World) (handle : Option Handle) : String :=
  match handle with
  | some present => (world.machine present.vm).label handle
  | none => "null"

/-- What stands before the lines of a machine. -/
def lineMark (vm : VmId) : String := if vm.index = 0 then "" else s!"v{vm.index}:"

/-- Adds a line to the trace. -/
def log (line : String) : StateM World Unit :=
  modify fun world => { world with trace := line :: world.trace }

/-- Lets a machine take a step and puts what it reports into the trace. -/
def onMachine (vm : VmId) (step : Step α) : StateM World α :=
  modifyGet fun world =>
    let (result, machine) := step (world.machine vm)
    let lines := machine.lines.map (lineMark vm ++ ·)
    (result, { world with
      machines := world.machines.setIfInBounds vm.index { machine with lines := [] }
      trace := lines ++ world.trace })

/-- Lets a machine begin a call. -/
def beginCall (vm : VmId) (step : Step (Invocation α)) : StateM World (Answer α) := do
  match ← onMachine vm step with
  | .finished reply => return .replied reply
  | .entered native resume => return .entered native fun object => onMachine vm (resume object)

/-- Creates a machine as planned. -/
def create (thread : Nat) (arguments : Startup.Arguments) :
    StateM World (Except Status (Option VmId)) := do
  let plan := (← get).creation
  if plan.status = 0 && plan.attaches then
    if let some vm := plan.vm then
      discard (onMachine vm (Step.attachThread thread))
  log s!"JNI_CreateJavaVM({arguments.line})={plan.status.toInt}"
  return (Status.check plan.status).map fun _ => plan.vm

/-- Lists machines as planned. -/
def list (room : Option Nat) : StateM World (Except Status (Nat × List (Option VmId))) := do
  let plan := (← get).listing
  log s!"JNI_GetCreatedJavaVMs({room.getD 0})"
  let status := if room.isSome then plan.filling else plan.counting
  return (Status.check status).map fun _ =>
    (plan.machines.length, plan.machines.take (room.getD 0))

/-- Answers a call of a thread. -/
def answer (thread : Nat) : (call : Call) → StateM World (Answer call.Reply)
  | .create arguments => .replied <$> create thread arguments
  | .list room => .replied <$> list room
  | .getEnv vm version => beginCall vm (Step.getEnv thread version)
  | .attach vm request => beginCall vm (Step.attach thread request)
  | .detach vm => beginCall vm (Step.detach thread)
  | .destroy vm => beginCall vm (Step.destroy thread)
  | .env pointer function => beginCall pointer.vm (Step.perform thread pointer function)

end World

end JavaInterop.Simulation
