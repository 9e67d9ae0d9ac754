import JavaInterop.Environment.Env
import JavaInterop.Exception.Resolution

/-!
# Catching Java exceptions

After a call that may raise, a pending exception is taken from the machine and turned into an
error: it is cleared, the classes of the thrown object are walked until one has a factory, and that
factory makes the error. Everything is read with plain calls, so that a failure of the inspection
cannot start another one; whatever the inspection raises itself is printed and cleared.
-/

namespace JavaInterop

variable [Host]

namespace Env

open Text.ModifiedUtf8 (encode)

/-- Reads a string without looking at exceptions; nothing if the machine gave no characters. The
buffer of the machine is released in any case. -/
def readString (env : Env) (string : Handle) : Program (Option (Except Error String)) := do
  match ← env.perform (.getStringChars string) with
  | none => return none
  | some chars =>
    let content := match Text.ModifiedUtf8.decode? chars.bytes with
      | some text => .ok text
      | none => .error (.bridge "The VM returned a string that isn't modified UTF-8")
    env.perform (.releaseStringChars string)
    return some content

/-- The error of a failed inspection, which has cleared what it raised. -/
def inspectionFailed (env : Env) (call : String) : Program Error := do
  if ← env.perform .exceptionCheck then
    env.perform .exceptionDescribe
    env.perform .exceptionClear
  return .bridge <| s!"catch_and_throw: An error occurred while trying to call {call}() " ++
    "on the thrown exception"

/-- Calls a method of the given class that takes nothing and returns a string. -/
def callStringMethod (env : Env) (object : Handle) (className method : String) :
    Fallible (Option String) := do
  match ← env.perform (.findClass (encode className)) with
  | none => throw (← env.inspectionFailed method)
  | some classObject =>
    (env.own classObject).scope do
      let signature := "()Ljava/lang/String;"
      match ← env.perform (.getMethodId classObject (encode method) (encode signature) false) with
      | none => throw (← env.inspectionFailed method)
      | some methodId =>
        let answer ← env.perform (.callObject object methodId [])
        if ← env.perform .exceptionCheck then
          throw (← env.inspectionFailed method)
        match answer with
        | none => return none
        | some string =>
          (env.own string).scope do
            match ← env.readString string with
            | some (.ok text) => return some text
            | some (.error error) => throw error
            | none => throw (← env.inspectionFailed method)

/-- The classes of a thrown object as a source of names. Its state is the class to be named next. -/
def ancestry (env : Env) : Ancestry Program (Option Handle) := ExceptT.mk fun current => do
  match current with
  | none => return (.ok none, none)
  | some classObject =>
    match ← (env.callStringMethod classObject "java/lang/Class" "getName").run with
    | .ok (some name) =>
      let next ← env.perform (.getSuperclass classObject)
      env.deleteLocal classObject
      return (.ok (some name), next)
    | .ok none =>
      let error ← env.inspectionFailed "getName"
      env.deleteLocal classObject
      return (.error error, none)
    | .error error =>
      env.deleteLocal classObject
      return (.error error, none)

/-- Finds the factory for a thrown object. -/
def resolveThrown (env : Env) (registry : Registry) (throwable : Handle) : Fallible Resolution := do
  match ← env.perform (.getObjectClass throwable) with
  | none => throw (← env.inspectionFailed "GetObjectClass")
  | some classObject => ExceptT.mk do
    let (resolution, rest) ← (resolve registry env.ancestry).run (some classObject)
    env.deleteLocal rest
    return resolution

/-- The message of a thrown object; one that cannot be read counts as absent. -/
def thrownMessage (env : Env) (throwable : Handle) : Program (Option String) := do
  match ← (env.callStringMethod throwable "java/lang/Throwable" "getMessage").run with
  | .ok message => return message
  | .error error =>
    Program.warn s!"Couldn't read the message of a thrown exception: {error.message}"
    return none

/-- Fails with the error for a thrown object that was resolved and whose message was read. -/
def throwResolved (env : Env) (throwable : Handle) (resolution : Resolution)
    (message : Option String) : Fallible Unit := do
  match resolution with
  | .matched factory className =>
    let reference ← env.newGlobal throwable
    if !factory.keepsReference then
      reference.drop
    throw (factory.thrown reference className message)
  | .unmatched className => throw (.unlinkedException className)

/-- Turns a pending exception into an error, matched against the given registry. -/
def catchWith (env : Env) (registry : Registry) : Fallible Unit := do
  match ← env.perform .exceptionOccurred with
  | none => pure ()
  | some throwable =>
    env.perform .exceptionClear
    (env.own throwable).scope do
      let resolution ← env.resolveThrown registry throwable
      let message ← env.thrownMessage throwable
      env.throwResolved throwable resolution message

/-- Turns a pending exception into an error, matched against the registry of the process. -/
def catchPending (env : Env) : Fallible Unit := do
  let bridge ← Program.state
  env.catchWith bridge.registry

/-- The error of a failed look-up, with the pending exception cleared and described as its cause. -/
def withCause (env : Env) (text : String) : Program Error := do
  match ← env.perform .exceptionOccurred with
  | none => return .bridge text
  | some throwable =>
    env.perform .exceptionClear
    let description ← (env.callStringMethod throwable "java/lang/Object" "toString").run
    let error ← match description with
      | .ok (some cause) => pure (Error.bridge (text ++ "\ncaused by:\n" ++ cause))
      | .ok none => pure (Error.bridge text)
      | .error error => do
        Program.warn ("Couldn't describe the cause of `" ++ text ++ "`: " ++ error.message)
        pure (Error.bridge text)
    env.deleteLocal throwable
    return error

end Env

end JavaInterop
