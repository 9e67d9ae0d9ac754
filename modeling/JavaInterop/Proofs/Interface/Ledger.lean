import JavaInterop.Proofs.Interface.Pending
import Mathlib.Data.Multiset.AddSub

/-!
# What a machine has lent out

The references and the buffers that a machine has handed out and not got back.  Most functions hand
out at most one thing, namely what they answer, and three of them take one back.  A function that
raises an exception hands out nothing.

A thing that was handed out twice counts twice, and giving it back once leaves one of the two.
-/

namespace JavaInterop

/-- Something that native code has to give back. -/
inductive Resource where
  | localReference (handle : Handle)
  | globalReference (handle : Handle)
  | characters (string : Handle)
deriving DecidableEq

/-- The machine that a resource belongs to. -/
def Resource.vm : Resource → VmId
  | localReference handle | globalReference handle | characters handle => handle.vm

/-- The local reference that a possibly null handle stands for. -/
def localShare (handle : Option Handle) : Multiset Resource :=
  handle.elim 0 fun handle ↦ {.localReference handle}

/-- The global reference that a possibly null handle stands for. -/
def globalShare (handle : Option Handle) : Multiset Resource :=
  handle.elim 0 fun handle ↦ {.globalReference handle}

@[simp]
theorem localShare_none : localShare none = 0 := rfl

@[simp]
theorem localShare_some (handle : Handle) : localShare (some handle) = {.localReference handle} :=
  rfl

theorem localShare_eq_zero {handle : Option Handle} : localShare handle = 0 ↔ handle = none := by
  cases handle with
  | none => simp
  | some handle => simp

@[simp]
theorem globalShare_none : globalShare none = 0 := rfl

@[simp]
theorem globalShare_some (handle : Handle) :
    globalShare (some handle) = {.globalReference handle} :=
  rfl

namespace EnvFunction

/-- What a function hands out with its answer. -/
def brought : (function : EnvFunction) → function.Reply → Multiset Resource
  | findClass _, reply | getSuperclass _, reply | exceptionOccurred, reply | newLocalRef _, reply
  | getObjectClass _, reply | callObject .., reply | callStaticObject .., reply
  | newObject .., reply | newString _, reply | getArrayElement .., reply => localShare reply
  | newGlobalRef _, reply => globalShare reply
  | getStringChars string, reply => reply.elim 0 fun _ ↦ {.characters string}
  | _, _ => 0

/-- What a function takes back. -/
def returned : EnvFunction → Option Resource
  | deleteLocalRef reference => some (.localReference reference)
  | deleteGlobalRef reference => some (.globalReference reference)
  | releaseStringChars string => some (.characters string)
  | _ => none

end EnvFunction

/-- What is lent out by the machine of an environment, and whether an exception is pending on the
running thread. -/
structure Account where
  pending : Bool
  live : Multiset Resource

/-- What remains lent out when a machine gets something back.  It takes no notice of what is not
its own. -/
def takeBack (vm : VmId) (returned : Option Resource) (live : Multiset Resource) :
    Multiset Resource :=
  match returned with
  | none => live
  | some resource => if resource.vm = vm then live.erase resource else live

/-- What happens to the things lent out in a call. -/
def LedgerLaw (before after : Account) : (request : Call) → request.Reply → Prop
  | .env pointer function, reply =>
    (∀ resource ∈ function.brought reply, resource.vm = pointer.vm) ∧
    (before.pending = false → after.pending = true → function.brought reply = 0) ∧
    after.live = function.brought reply + takeBack pointer.vm function.returned before.live
  | _, _ => after.live = before.live

end JavaInterop
