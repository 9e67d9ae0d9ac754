import JavaInterop.Lifecycle.Attach
import JavaInterop.Script.Conversion
import JavaInterop.Script.Exception
import JavaInterop.Script.Function
import JavaInterop.Script.Lifecycle
import JavaInterop.Script.Machine
import JavaInterop.Script.Reference

/-!
# Running scripts

A script is a list of steps for a process with some simulated machines. Every step is reported by a
record: its result or its error, the calls that were made, the messages and notes that were left,
and the state of one machine after it. A step that does work with an environment has steps of its
own, which are reported within its result.
-/

namespace JavaInterop

open Simulation (ClassTable Machine)

namespace Script

/-- What a single step does. One that cannot be read makes no sense. -/
inductive Command where
  | unreadable
  | lifecycle (command : LifecycleCommand)
  | machine (command : MachineCommand)
  | reference (command : ReferenceCommand)
  | function (command : FunctionCommand)
  | exception (command : ExceptionCommand)
  | conversion (command : ConversionCommand)

/-- Carries out a single step. -/
def Command.perform (target : Target) : Command → Act Datum
  | unreadable => throw .senseless
  | lifecycle command => command.perform target
  | machine command => command.perform target
  | reference command => command.perform target
  | function command => command.perform target
  | exception command => command.perform target
  | conversion command => command.perform target

/-- Whether a step can be the first of its thread. The end of a thread cannot. -/
def Command.startsThread : Command → Bool
  | lifecycle .exitThread => false
  | _ => true

/-- A step as a part of the body of another one. It cannot end the thread that the body runs on. -/
def Command.withinBody : Command → Command
  | lifecycle .exitThread => unreadable
  | command => command

/-- A step of a script. -/
inductive Instruction where
  | single (target : Target) (command : Command)
  /-- Does the steps of a body with an environment, and then fails if a text says so. -/
  | withEnv (target : Target) (spec : AttachSpec) (body : List Instruction)
      (failure : Option String)

/-! ## Reports -/

/-- A list that is left out if it is empty. -/
def listField (name : String) (items : List Datum) : List (String × Datum) :=
  if items.isEmpty then [] else [(name, .list items)]

/-- A message with its severity. -/
def showNotice : Notice → Datum
  | .warning text => .text s!"warn: {text}"
  | .failure text => .text s!"error: {text}"

/-- Takes the calls and messages since the last report. -/
def collect : StateM Session (List (String × Datum)) :=
  modifyGet fun session =>
    let process := session.process
    let calls := if session.showsCalls then process.world.trace.reverse.map Datum.text else []
    let notices := process.notices.reverse.map showNotice
    (listField "calls" calls ++ listField "log" notices,
      { session with
        process := { process with notices := [], world := { process.world with trace := [] } } })

/-- Takes the notes since the last report. -/
def collectNotes : StateM Session (List (String × Datum)) :=
  modifyGet fun session =>
    let notes : List Datum := session.process.notes.reverse
    (listField "cb" notes, { session with process := { session.process with notes := [] } })

/-- The state of a machine as a thread sees it: references and string buffers in use, attached
threads, and the class of the pending exception, which ends with the thread. -/
def summary (machine : Machine) (thread : Option Nat) : Datum :=
  .list [.number (machine.countLive false), .number (machine.countLive true),
    .number machine.buffers, .number machine.attached.entries.length,
    .textOrNull (thread >>= machine.pendingClass?)]

/-- The state of the machine of a step, if there is such a machine. -/
def stateField (target : Target) (scope : Option Scope) :
    StateM Session (List (String × Datum)) := do
  let world := (← get).process.world
  match world.machines[target.vm.index]? with
  | some machine => return [("st", summary machine (scope.map (·.native.id)))]
  | none => return []

/-- Keeps an exception if the step says so; any other error is dropped. -/
def settleError (target : Target) (error : Error) : Act Unit := do
  match error, target.keep with
  | .javaException thrown, some name =>
    Act.keepShared { target with result := some name } (.thrown thrown)
  | _, _ => Act.perform target error.drop

/-- The result of a step as fields of its report. An error is dropped after its fields were taken.
-/
def outcomeFields (target : Target) : Except Stop Datum → StateM Session (List (String × Datum))
  | .ok result => return [("ok", result)]
  | .error .senseless => return [("error", .text (← get).refusal)]
  | .error (.failed error) => do
    let fields := errorFields (← get).process.world.label error
    discard (settleError target error).run
    return fields

/-- Lifecycles that nothing refers to cease to exist. -/
def ceaseForsaken : StateM Session Unit :=
  modify fun session =>
    let process := session.process
    let bridge := session.forsaken.foldl Bridge.cease process.bridge
    { session with process := { process with bridge } }

/-- Does a step and reports it. No state is reported of a thread that never was. -/
def conclude (target : Target) (startsThread : Bool) (body : Act Datum) : StateM Session Datum := do
  if startsThread then
    discard (Act.scope target).run
  let before := (← get).threads.find? target.thread
  let outcome ← outcomeFields target (← body.run)
  ceaseForsaken
  let calls ← collect
  let notes ← collectNotes
  let after := (← get).threads.find? target.thread
  let state ← if (after.orElse fun _ => before).isSome then stateField target after else pure []
  return .record (outcome ++ calls ++ notes ++ state)

/-! ## Steps with a body -/

/-- Does the work of a step with an environment: its slot holds the environment while the body
runs, and local references made through it do not outlive the work. -/
def workWith (target : Target) (env : Env) (body : StateM Session (List Datum)) : Act Datum := do
  let name := target.result.getD target.env
  let previous := (← Act.scope target).envs.find? name
  let slot ← Act.keepEnv { target with result := some name } env
  let inner ← body
  Act.updateScope target fun scope =>
    let envs := match previous with
      | some old => scope.envs.insert name old
      | none => scope.envs.erase name
    { scope with envs }
  Act.dropLocals target fun entry => entry.origin == slot.serial
  return .list inner

/-- Runs a body with an environment for the thread. -/
def runWithEnv (target : Target) (spec : AttachSpec) (failure : Option String)
    (body : StateM Session (List Datum)) : Act Datum := do
  let id ← Act.lifecycle target
  let report (before inner : Datum) (result : List (String × Datum)) : Datum :=
    .record [("before", before), ("inner", inner), ("result", .record result)]
  spec.withConfig target fun config => do
    match ← Act.perform target (id.enter config).run with
    | .error error =>
      return report .null (.list []) (← outcomeFields target (.error (.failed error)))
    | .ok (env, attachedHere) =>
      let calls ← collect
      let state ← stateField target (some (← Act.scope target))
      modify fun session => { session with working := id :: session.working }
      let inner ← workWith target env body
      Act.perform target (id.leave config env attachedHere)
      modify fun session => { session with working := session.working.erase id }
      let result := match failure with
        | some text => .error (.failed (.bridge text))
        | none => .ok (.text env.version.text)
      return report (.record (calls ++ state)) inner (← outcomeFields target result)

mutual

/-- Runs a step; the steps of a body run on the thread of the body. -/
def Instruction.run (thread : Option String) : Instruction → StateM Session Datum
  | .single target command =>
    let command := if thread.isSome then command.withinBody else command
    let target := { target with thread := thread.getD target.thread }
    conclude target command.startsThread (command.perform target)
  | .withEnv target spec body failure =>
    let target := { target with thread := thread.getD target.thread }
    conclude target true (runWithEnv target spec failure (runAll (some target.thread) body))

/-- Runs steps one after the other. -/
def runAll (thread : Option String) : List Instruction → StateM Session (List Datum)
  | [] => return []
  | first :: rest => do
    let report ← first.run thread
    return report :: (← runAll thread rest)

end

end Script

/-- A script: the versions of its machines, the classes that they have besides those of the
platform, the names of threads, and the steps. -/
structure Script where
  versions : List Int32 := [65544]
  classes : List Simulation.Class := []
  threadNames : List (String × String) := []
  showsCalls : Bool := true
  /-- The kind of error that is reported of a step that makes no sense. -/
  refusal : String := "Senseless"
  instructions : List Script.Instruction := []

namespace Script

/-- The session that a script begins with: one lifecycle, without a machine. -/
def session (script : Script) : Session :=
  let classes := ClassTable.withDeclarations script.classes
  let machines := script.versions.zipIdx.map fun (version, index) =>
    ({ id := ⟨index⟩, version, classes } : Machine)
  { process := { world := { machines := machines.toArray } }
    threadNames := script.threadNames
    showsCalls := script.showsCalls
    refusal := script.refusal
    lifecycles := Store.empty.insert "j" ⟨LifecycleId.shared.index + 1⟩
    nextLifecycle := LifecycleId.shared.index + 2 }

/-- Runs a script and reports its steps. -/
def run (script : Script) : List Datum :=
  ((runAll none script.instructions).run script.session).1

end Script

end JavaInterop
