import JavaInterop.Callback.Arguments

/-!
# Entering native code from Java

A call of a proxied method arrives here with the number of a table of callbacks and an index into
it. Whatever the callback does, Java gets either an object or a pending exception: an error or a
panic is thrown as a `java.lang.RuntimeException` in place of whatever was pending.
-/

namespace JavaInterop

variable [Host]

/-- How native code ends. -/
inductive Outcome (α : Type) where
  | returned (result : α)
  | failed (error : Error)
  | panicked

/-- What running a callback means: it gets the environment, the receiver and the arguments. -/
abbrev CallbackRunner :=
  Host.Callback → Env → Option Handle → CallArguments → Program (Outcome Value)

/-- The table with the given number, unless its builder has been dropped. -/
def Bridge.table? (bridge : Bridge) (number : Int64) : Option CallbackTable :=
  if 0 ≤ number.toInt then bridge.tables.find? number.toInt.toNat else none

/-- The callback with the given index. -/
def CallbackTable.callback? (table : CallbackTable) (index : Int32) : Option Host.Callback :=
  if 0 ≤ index.toInt then table.callbacks[index.toInt.toNat]? else none

/-- The callback that a call is meant for and the lifecycle it runs under. -/
def findCallback (table : Int64) (index : Int32) : Fallible (LifecycleId × Host.Callback) := do
  let bridge ← Program.state
  match bridge.table? table with
  | none =>
    throw (.bridge s!"The native callbacks of proxy table {table.toInt} have been dropped")
  | some callbacks =>
    match callbacks.callback? index with
    | none => throw (.bridge s!"No native callback at index {index.toInt}")
    | some callback => return (callbacks.lifecycle, callback)

/-- Runs the callback that a call is meant for and turns its result into an object. -/
def dispatch (run : CallbackRunner) (pointer : EnvPointer) (table : Int64) (index : Int32)
    (receiver array : Option Handle) : Program (Outcome (Option Handle)) := do
  let found ← (do
    let (lifecycle, callback) ← findCallback table index
    let env ← Env.ofPointer lifecycle pointer
    return (callback, env) : Fallible (Host.Callback × Env)).run
  match found with
  | .error error => return .failed error
  | .ok (callback, env) =>
    match ← run callback env receiver ⟨env, array⟩ with
    | .failed error => return .failed error
    | .panicked => return .panicked
    | .returned value =>
      let object ← (value.toObject env).run
      value.drop
      match object with
      | .ok object => return .returned (object.bind LocalReference.raw)
      | .error error => return .failed error

/-- Throws a `java.lang.RuntimeException`, in place of a pending exception. -/
def throwRuntimeException (pointer : EnvPointer) (message : String) : Program Unit := do
  if ← Program.perform (.env pointer .exceptionCheck) then
    Program.perform (.env pointer .exceptionClear)
  let name := Text.ModifiedUtf8.encode "java/lang/RuntimeException"
  match ← Program.perform (.env pointer (.findClass name)) with
  | none => Program.complain s!"Couldn't throw a RuntimeException for: {message}"
  | some classObject =>
    let _ ← Program.perform
      (.env pointer (.throwNew classObject (Text.ModifiedUtf8.encode message)))
    Program.perform (.env pointer (.deleteLocalRef classObject))

/-- The native side of a proxied call. -/
def invokeNative (run : CallbackRunner) (pointer : EnvPointer) (table : Int64) (index : Int32)
    (receiver array : Option Handle) : Program (Option Handle) := do
  match ← dispatch run pointer table index receiver array with
  | .returned object => return object
  | .failed error =>
    throwRuntimeException pointer s!"Exception during native execution: {error.message}"
    error.drop
    return none
  | .panicked =>
    throwRuntimeException pointer "Unknown exception during native execution"
    return none

end JavaInterop
