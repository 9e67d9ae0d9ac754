import JavaInterop.Callback.Dispatch
import JavaInterop.Lifecycle.Registration
import JavaInterop.Script.Datum

/-!
# Scripted callbacks

A scripted callback is a list of actions, carried out in order. An action may leave a note, end the
callback with a value, or fail; the first failure ends the callback too. A callback that runs out of
actions returns nothing.
-/

namespace JavaInterop.Script

/-- One action of a callback. -/
inductive Action where
  | size
  | isEmpty
  | get (index : Nat)
  | string (index : Nat)
  | unbox (index : Nat) (kind : Primitive)
  | receiver
  | describeReceiver
  | version
  | raiseNew (className message : String)
  | catchPending
  | findClass (name : String)
  | fail (error : Error)
  | panic
  | reset
  | giveValue (value : Value)
  | giveText (content : String)
  | giveArgument (index : Nat)
  | giveReceiver

/-- A program whose callbacks are lists of actions and whose notes are reported as they are. -/
instance host : Host where
  Callback := List Action
  Note := Datum

/-- A new global reference to an object, as the value of a callback. -/
def giveObject (env : Env) (object : Option Handle) : Fallible (Outcome Value) := do
  return .returned (.object (some (← env.newGlobal object)))

/-- Gives a new global reference in place of a local one. -/
def giveLocal (env : Env) (object : LocalReference) : Fallible (Outcome Value) :=
  object.scope (giveObject env object.raw)

/-- Carries out an action; the answer is there if the action ends the callback. -/
def Action.perform (env : Env) (receiver : Option Handle) (arguments : CallArguments) :
    Action → Fallible (Option (Outcome Value))
  | size => do note (.number (← arguments.size))
  | isEmpty => do note (.flag (← arguments.isEmpty))
  | get index => do
    match ← arguments.get index with
    | some object => object.scope (note (.ofLocal object.raw))
    | none => note .null
  | string index => do note (.textOrNull (← arguments.string index))
  | unbox index kind => do note (.ofScalar (← arguments.unbox index kind))
  | .receiver => note (.ofLocal receiver)
  | describeReceiver => do note (.text (← env.describe receiver))
  | version => note (.text env.version.text)
  | raiseNew className message => do
    env.raiseNew className message
    return none
  | catchPending => do
    env.catchPending
    return none
  | findClass name => do
    let classObject ← env.findClass name
    classObject.drop
    return none
  | fail error => throw error
  | panic => return some .panicked
  | reset => do
    env.lifecycle.reset
    return none
  | giveValue value => return some (.returned value)
  | giveText content => do giveLocal env (← env.newString content)
  | giveArgument index => do
    match ← arguments.get index with
    | some object => giveLocal env object
    | none => return some (.returned (.object none))
  | giveReceiver => do giveObject env receiver
where
  /-- Leaves a note and goes on. -/
  note (content : Datum) : Fallible (Option (Outcome Value)) := do
    Program.note content
    return none

/-- Runs a callback. -/
def runCallback : CallbackRunner := fun actions env receiver arguments =>
  go env receiver arguments actions
where
  /-- Runs the remaining actions. -/
  go (env : Env) (receiver : Option Handle) (arguments : CallArguments) :
      List Action → Program (Outcome Value)
    | [] => return .returned .void
    | action :: rest => do
      match ← (action.perform env receiver arguments).run with
      | .error error => return .failed error
      | .ok (some outcome) => return outcome
      | .ok none => go env receiver arguments rest

end JavaInterop.Script
