import JavaInterop.Reference.Global

/-!
# Environments and local references

An environment is what a thread works with: the pointer that the machine gave it, together with the
registration it was obtained under. A local reference belongs to the environment that made it and is
deleted at the end of its scope, unless the registration has gone by then.
-/

namespace JavaInterop

/-- The environment of a thread for one registered machine. -/
structure Env where
  pointer : EnvPointer
  vm : VmId
  lifecycle : LifecycleId
  version : Version
  generation : Nat
deriving DecidableEq

/-- An owned local reference; it may be null. -/
structure LocalReference where
  env : Env
  raw : Option Handle
deriving DecidableEq

variable [Host] {α : Type}

namespace Env

/-- The environment with the given pointer under a registration of a lifecycle. -/
def of (lifecycle : LifecycleId) (registration : Registration) (pointer : EnvPointer) : Env where
  pointer := pointer
  vm := registration.vm
  lifecycle := lifecycle
  version := registration.version
  generation := registration.generation

/-- Wraps the environment pointer that a native method was entered with. -/
def ofPointer (lifecycle : LifecycleId) (pointer : Option EnvPointer) : Fallible Env := do
  let pointer ← Fallible.nonNull pointer "Env::from_raw"
  match ← lifecycle.registration? with
  | some registration => return of lifecycle registration pointer
  | none => throw .vmShutdown

/-- Calls a function of the environment. -/
def perform (env : Env) (function : EnvFunction) : Program function.Reply :=
  Program.perform (.env env.pointer function)

/-- Takes ownership of a local reference. -/
def own (env : Env) (raw : Option Handle) : LocalReference := ⟨env, raw⟩

/-- Takes ownership of a local reference unless it is null. -/
def ownNonNull (env : Env) (raw : Option Handle) : Option LocalReference :=
  raw.map fun handle => ⟨env, some handle⟩

/-- Deletes a local reference, unless the registration of the environment has gone. -/
def deleteLocal (env : Env) (reference : Option Handle) : Program Unit :=
  match reference with
  | none => pure ()
  | some handle => do
    match ← env.lifecycle.registered? env.generation with
    | some _ => env.perform (.deleteLocalRef handle)
    | none => pure ()

/-- A new local reference to an object. -/
def newLocal (env : Env) (object : Option Handle) : Fallible LocalReference := do
  let object ← Fallible.nonNull object "new_local obj"
  match ← env.perform (.newLocalRef object) with
  | some handle => return env.own (some handle)
  | none => throw .localReferencesExhausted

/-- A new global reference to an object. -/
def newGlobal (env : Env) (object : Option Handle) : Fallible GlobalReference := do
  let object ← Fallible.nonNull object "new_global obj"
  match ← env.perform (.newGlobalRef object) with
  | some handle => return ⟨some handle, env.lifecycle, env.generation⟩
  | none => throw .globalReferencesExhausted

end Env

/-- Another global reference to the same object, issued under the environment's registration. -/
def GlobalReference.copy (reference : GlobalReference) (env : Env) : Fallible GlobalReference :=
  env.newGlobal reference.raw

namespace LocalReference

/-- Deletes a local reference that is not used any more. -/
def drop (reference : LocalReference) : Program Unit := reference.env.deleteLocal reference.raw

/-- Runs the rest of a scope and deletes the reference at its end. -/
def scope (reference : LocalReference) (body : Fallible α) : Fallible α :=
  body.thenAlways reference.drop

end LocalReference

end JavaInterop
