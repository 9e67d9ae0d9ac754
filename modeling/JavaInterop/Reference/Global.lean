import JavaInterop.Lifecycle.Attachment

/-!
# Releasing global references

A global reference may be released on any thread, more than once, and after its machine has gone.
Only the first release does anything, and only while the registration that issued the reference
lasts; a thread that is not attached is attached for the moment that takes.
-/

namespace JavaInterop

variable [Host]

/-- Deletes a global reference that was issued under the given generation of a lifecycle. -/
def LifecycleId.deleteGlobal (id : LifecycleId) (generation : Nat) (reference : Handle) :
    Program Unit := do
  match ← id.registered? generation with
  | none => pure ()
  | some registration =>
    match ← (id.attachTo registration { isScoped := true }).run with
    | .error error =>
      Program.warn s!"Leaking a global reference: couldn't attach to delete it: {error.message}"
    | .ok (pointer, attachedHere) =>
      if attachedHere then
        Program.warn <| "A global reference was dropped on a thread that isn't attached to " ++
          "the VM; attached it temporarily"
      Program.perform (.env pointer (.deleteGlobalRef reference))
      if attachedHere then
        id.detachFrom registration

/-- Gives up a global reference; a released one is left alone. What remains is released. -/
def GlobalReference.release (reference : GlobalReference) : Program GlobalReference := do
  match reference.raw with
  | none => pure ()
  | some handle => reference.lifecycle.deleteGlobal reference.generation handle
  return { reference with raw := none }

/-- Gives up a global reference that is not used any more. -/
def GlobalReference.drop (reference : GlobalReference) : Program Unit :=
  discard reference.release

/-- Drops a value, which may own a global reference. -/
def Value.drop : Value → Program Unit
  | .object (some reference) => reference.drop
  | _ => pure ()

/-- Drops an error, which may own a global reference. -/
def Error.drop (error : Error) : Program Unit :=
  match error.owned? with
  | some reference => reference.drop
  | none => pure ()

/-- Makes a failure the cause of an error that says what failed; the failure itself is dropped. -/
def Fallible.withReason {α : Type} (body : Fallible α) (text : String) : Fallible α :=
  body.mapFailure fun error => do
    error.drop
    return .causedBy text error

end JavaInterop
