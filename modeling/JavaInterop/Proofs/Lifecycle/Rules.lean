import JavaInterop.Lifecycle.Registration
import JavaInterop.Proofs.Program.Fallible

/-!
# Rules for the operations of a lifecycle

One rule for each operation by which a thread comes and goes, a reference is given up, or a machine
is registered or forgotten.  It says what all runs of the operation are, in terms of the calls that
are made and of what is written to the bridge between them.  Nothing is assumed about the machines,
so every statement about such an operation can be told from its rule, and the operation is not
opened again.
-/

namespace JavaInterop

open Program (Ensures)

/-! ## What is written to the bridge -/

namespace Bridge

variable [Host]

/-- The number of attached threads of one lifecycle is changed. -/
def recount (bridge : Bridge) (id : LifecycleId) (change : Nat → Nat) : Bridge :=
  bridge.setLifecycle id
    { bridge.lifecycle id with attached := change (bridge.lifecycle id).attached }

/-- The detaches that one thread owes are changed. -/
def rehook (bridge : Bridge) (thread : Nat)
    (change : List PendingDetach → List PendingDetach) : Bridge :=
  let touched := (bridge.thread thread).touch .pendingDetaches
  bridge.setThread thread { touched with pending := change touched.pending }

/-- The thread owes one more detach, and none to lifecycles that have ceased to exist.  Nothing can
be left with a thread that is exiting. -/
def defer (bridge : Bridge) (thread : NativeThread) (hook : PendingDetach) : Bridge :=
  if thread.isExiting then bridge else bridge.rehook thread.id (bridge.alive · ++ [hook])

/-- The thread was attached under the registration.  It counts, and it owes a detach unless it is
the creator or stays only for a piece of work. -/
def receive (bridge : Bridge) (id : LifecycleId) (registration : Registration)
    (thread : NativeThread) (isScoped : Bool) : Bridge :=
  let counted := bridge.recount id (· + 1)
  if thread.id = registration.creator ∨ isScoped then counted
  else counted.defer thread ⟨id, registration.generation⟩

/-- The thread does not owe a detach under the registration any more. -/
def excuse (bridge : Bridge) (id : LifecycleId) (registration : Registration) (thread : Nat) :
    Bridge :=
  bridge.rehook thread (·.filter (· ≠ ⟨id, registration.generation⟩))

/-- The creator of a machine counts, also if creating the machine has attached it. -/
def enroll (bridge : Bridge) (id : LifecycleId) (owned attachedHere : Bool) : Bridge :=
  if owned && !attachedHere then bridge.recount id (· + 1) else bridge

/-- A lifecycle that is forgotten, with its machine and the number of its threads. -/
def forget (bridge : Bridge) (id : LifecycleId) : Bridge :=
  bridge.setLifecycle id { registration := none, attached := 0 }

/-- The registration is put into the lifecycle. -/
def install (bridge : Bridge) (id : LifecycleId) (registration : Registration) : Bridge :=
  bridge.setLifecycle id { bridge.lifecycle id with registration := some registration }

end Bridge

section

variable [Host]

@[simp]
theorem registration_recount (bridge : Bridge) (id other : LifecycleId) (change : Nat → Nat) :
    ((bridge.recount id change).lifecycle other).registration =
      (bridge.lifecycle other).registration := by
  unfold Bridge.recount
  by_cases hother : other = id
  · rw [hother, Bridge.lifecycle_setLifecycle_self]
  · rw [Bridge.lifecycle_setLifecycle_of_ne _ _ hother]

@[simp]
theorem registered?_recount (bridge : Bridge) (id other : LifecycleId) (change : Nat → Nat)
    (generation : Nat) :
    (bridge.recount id change).registered? other generation =
      bridge.registered? other generation := by
  unfold Bridge.registered? Bridge.recount
  by_cases hother : other = id
  · rw [hother, Bridge.lifecycle_setLifecycle_self]
  · rw [Bridge.lifecycle_setLifecycle_of_ne _ _ hother]

theorem attached_recount (bridge : Bridge) (id other : LifecycleId) (change : Nat → Nat) :
    ((bridge.recount id change).lifecycle other).attached =
      if other = id then change (bridge.lifecycle id).attached
      else (bridge.lifecycle other).attached := by
  unfold Bridge.recount
  by_cases hother : other = id
  · simp [hother]
  · simp [hother, Bridge.lifecycle_setLifecycle_of_ne]

theorem attached_recount_self (bridge : Bridge) (id : LifecycleId) (change : Nat → Nat) :
    ((bridge.recount id change).lifecycle id).attached =
      change (bridge.lifecycle id).attached := by
  rw [attached_recount, if_pos rfl]

/-- Attaching and detaching a thread leaves the numbers of threads as they were. -/
theorem attached_recount_back (bridge : Bridge) (id other : LifecycleId) :
    (((bridge.recount id (· + 1)).recount id (· - 1)).lifecycle other).attached =
      (bridge.lifecycle other).attached := by
  rw [attached_recount, attached_recount, attached_recount]
  by_cases hother : other = id
  · simp [hother]
  · simp [hother]

theorem lifecycle_recount_of_ne (bridge : Bridge) {id other : LifecycleId} (change : Nat → Nat)
    (hother : other ≠ id) : (bridge.recount id change).lifecycle other = bridge.lifecycle other :=
  Bridge.lifecycle_setLifecycle_of_ne _ _ hother

@[simp]
theorem lifecycle_rehook (bridge : Bridge) (thread : Nat)
    (change : List PendingDetach → List PendingDetach) (other : LifecycleId) :
    (bridge.rehook thread change).lifecycle other = bridge.lifecycle other := rfl

@[simp]
theorem lifecycle_defer (bridge : Bridge) (thread : NativeThread) (hook : PendingDetach)
    (other : LifecycleId) :
    (bridge.defer thread hook).lifecycle other = bridge.lifecycle other := by
  unfold Bridge.defer
  split
  · rfl
  · exact lifecycle_rehook ..

theorem lifecycle_receive (bridge : Bridge) (id other : LifecycleId) (registration : Registration)
    (thread : NativeThread) (isScoped : Bool) :
    (bridge.receive id registration thread isScoped).lifecycle other =
      (bridge.recount id (· + 1)).lifecycle other := by
  unfold Bridge.receive
  split
  · rfl
  · exact lifecycle_defer ..

/-- Whoever is attached, what is registered stays registered. -/
@[simp]
theorem registration_receive (bridge : Bridge) (id other : LifecycleId)
    (registration : Registration)
    (thread : NativeThread) (isScoped : Bool) :
    ((bridge.receive id registration thread isScoped).lifecycle other).registration =
      (bridge.lifecycle other).registration := by
  rw [lifecycle_receive, registration_recount]

@[simp]
theorem registration_enroll (bridge : Bridge) (id other : LifecycleId) (owned attachedHere : Bool) :
    ((bridge.enroll id owned attachedHere).lifecycle other).registration =
      (bridge.lifecycle other).registration := by
  unfold Bridge.enroll
  split
  · exact registration_recount ..
  · rfl

end

/-- What a machine is asked when the thread is to be attached to it. -/
def AttachConfig.request (config : AttachConfig) [Host] (registration : Registration)
    (thread : NativeThread) : AttachRequest where
  version := registration.version
  name := Text.ModifiedUtf8.encode (config.name.getD thread.attachName)
  group := config.group.bind GlobalReference.raw
  daemon := match config.daemon with
    | .daemon => true
    | .nonDaemon => false
    | .auto => !(thread.id == registration.creator)

/-- How a machine that is shut down is answered for.  The failure of an old one means nothing. -/
def Registration.farewell (registration : Registration) [Host] :
    Except Status Unit → Except Error Unit
  | .ok _ => .ok ()
  | .error status =>
    if registration.version < .v1_6 then .ok () else .error (.vmDestroy status)

variable [Host] {ω : Type} {law : Exchange ω → Prop} {id : LifecycleId}
  {registration : Registration} {thread : NativeThread} {first : Moment ω}

namespace LifecycleId

/-! ## Attaching -/

theorem ensures_countAttached_iff {change : Nat → Nat}
    {post : List (Exchange ω) → Unit → Moment ω → Prop} :
    Ensures law thread (id.countAttached change) first post ↔
      post [] () ⟨first.bridge.recount id change, first.outside⟩ := by
  rw [countAttached, Program.ensures_update]
  rfl

theorem ensures_deferDetach_iff {generation : Nat}
    {post : List (Exchange ω) → Unit → Moment ω → Prop} :
    Ensures law thread (id.deferDetach generation) first post ↔
      post [] () ⟨first.bridge.defer thread ⟨id, generation⟩, first.outside⟩ := by
  rw [deferDetach, Program.ensures_bind, Program.ensures_current]
  unfold Bridge.defer
  split
  · exact Program.ensures_warn
  · rw [Program.ensures_update]
    rfl

theorem ensures_cancelDetach_iff {post : List (Exchange ω) → Unit → Moment ω → Prop} :
    Ensures law thread (id.cancelDetach registration.generation) first post ↔
      post [] () ⟨first.bridge.excuse id registration thread.id, first.outside⟩ := by
  rw [cancelDetach, Program.ensures_bind, Program.ensures_current, Program.ensures_update]
  rfl

end LifecycleId

/-- The ways in which an attempt to attach the thread goes, with all its calls.  A thread that has
an environment gets it; the machine may not say whether there is one; and if there is none, it
refuses or attaches the thread. -/
inductive Approach (law : Exchange ω → Prop) (id : LifecycleId) (registration : Registration)
    (config : AttachConfig) (thread : NativeThread) (first : Moment ω) :
    List (Exchange ω) → Except Error (EnvPointer × Bool) → Moment ω → Prop
  | present {pointer : EnvPointer} {last : Moment ω}
      (hasked : law
        ⟨thread, .getEnv registration.vm registration.version, .ok pointer, first, last⟩) :
      Approach law id registration config thread first
        [⟨thread, .getEnv registration.vm registration.version, .ok pointer, first, last⟩]
        (.ok (pointer, false)) last
  | unclear {status : Status} {last : Moment ω} (hstatus : status ≠ .threadDetached)
      (hasked : law
        ⟨thread, .getEnv registration.vm registration.version, .error status, first, last⟩) :
      Approach law id registration config thread first
        [⟨thread, .getEnv registration.vm registration.version, .error status, first, last⟩]
        (.error (.attachFailed status)) last
  | refused {status : Status} {asked last : Moment ω}
      (hasked : law ⟨thread, .getEnv registration.vm registration.version, .error .threadDetached,
        first, asked⟩)
      (hattached : law ⟨thread, .attach registration.vm (config.request registration thread),
        .error status, asked, last⟩) :
      Approach law id registration config thread first
        [⟨thread, .getEnv registration.vm registration.version, .error .threadDetached, first,
            asked⟩,
          ⟨thread, .attach registration.vm (config.request registration thread), .error status,
            asked, last⟩]
        (.error (.attachFailed status)) last
  | admitted {pointer : EnvPointer} {asked attached : Moment ω}
      (hasked : law ⟨thread, .getEnv registration.vm registration.version, .error .threadDetached,
        first, asked⟩)
      (hattached : law ⟨thread, .attach registration.vm (config.request registration thread),
        .ok pointer, asked, attached⟩) :
      Approach law id registration config thread first
        [⟨thread, .getEnv registration.vm registration.version, .error .threadDetached, first,
            asked⟩,
          ⟨thread, .attach registration.vm (config.request registration thread), .ok pointer,
            asked, attached⟩]
        (.ok (pointer, true))
        ⟨attached.bridge.receive id registration thread config.isScoped, attached.outside⟩

/-- What the bridge does when the machine has attached the thread. -/
theorem ensures_receive {isScoped : Bool} {pointer : EnvPointer}
    {post : List (Exchange ω) → Except Error (EnvPointer × Bool) → Moment ω → Prop} :
    Ensures law thread (do
      id.countAttached (· + 1)
      if !(thread.id == registration.creator) && !isScoped then
        id.deferDetach registration.generation
      return (pointer, true) : Fallible (EnvPointer × Bool)).run first post ↔
      post [] (.ok (pointer, true))
        ⟨first.bridge.receive id registration thread isScoped, first.outside⟩ := by
  rw [Fallible.ensures_liftThen, LifecycleId.ensures_countAttached_iff]
  unfold Bridge.receive
  split
  · rename_i hdefers
    have hother : ¬ (thread.id = registration.creator ∨ isScoped = true) := by
      simpa [not_or] using hdefers
    rw [Fallible.ensures_liftThen, LifecycleId.ensures_deferDetach_iff, Fallible.ensures_pure,
      if_neg hother]
    rfl
  · rename_i hstays
    have hguest : thread.id = registration.creator ∨ isScoped = true := by
      simpa [not_or, or_iff_not_imp_left] using hstays
    rw [Fallible.ensures_pure, if_pos hguest]
    rfl

theorem LifecycleId.ensures_attachTo_approach (config : AttachConfig) :
    Ensures law thread (id.attachTo registration config).run first
      (Approach law id registration config thread first) := by
  unfold attachTo
  rw [Fallible.ensures_liftThen, Program.ensures_perform]
  intro answer asked hasked
  cases answer with
  | ok pointer => exact Fallible.ensures_pure.2 (.present hasked)
  | error status =>
    cases status with
    | threadDetached =>
      dsimp only
      rw [Fallible.ensures_liftThen, Program.ensures_current, Fallible.ensures_liftThen,
        Program.ensures_perform]
      intro answer attached hattached
      cases answer with
      | error status =>
        rw [Fallible.ofStatus, Fallible.run_throw_bind, Program.ensures_pure]
        exact .refused hasked hattached
      | ok pointer =>
        rw [Fallible.ofStatus, pure_bind]
        exact ensures_receive.2 (.admitted hasked hattached)
    | _ =>
      dsimp only
      rw [Fallible.run_throw_bind, Program.ensures_pure]
      exact .unclear (by rintro ⟨⟩) hasked

/-! ## Detaching -/

/-- The ways in which an attempt to detach the thread goes.  It may not be attached, and the machine
may not let it go. -/
inductive Parting (law : Exchange ω → Prop) (id : LifecycleId) (registration : Registration)
    (thread : NativeThread) (first : Moment ω) : List (Exchange ω) → Moment ω → Prop
  | absent {status : Status} {last : Moment ω}
      (hasked : law
        ⟨thread, .getEnv registration.vm registration.version, .error status, first, last⟩) :
      Parting law id registration thread first
        [⟨thread, .getEnv registration.vm registration.version, .error status, first, last⟩] last
  | refused {pointer : EnvPointer} {status : Status} {asked last : Moment ω}
      (hasked : law
        ⟨thread, .getEnv registration.vm registration.version, .ok pointer, first, asked⟩)
      (hdetached : law ⟨thread, .detach registration.vm, .error status, asked, last⟩) :
      Parting law id registration thread first
        [⟨thread, .getEnv registration.vm registration.version, .ok pointer, first, asked⟩,
          ⟨thread, .detach registration.vm, .error status, asked, last⟩] last
  | left {pointer : EnvPointer} {asked detached : Moment ω}
      (hasked : law
        ⟨thread, .getEnv registration.vm registration.version, .ok pointer, first, asked⟩)
      (hdetached : law ⟨thread, .detach registration.vm, .ok (), asked, detached⟩) :
      Parting law id registration thread first
        [⟨thread, .getEnv registration.vm registration.version, .ok pointer, first, asked⟩,
          ⟨thread, .detach registration.vm, .ok (), asked, detached⟩]
        ⟨detached.bridge.recount id (· - 1), detached.outside⟩

/-- A thread that is asked to leave does so if it is attached. -/
theorem ensures_parting :
    Ensures law thread (do
        match ← Program.perform (.getEnv registration.vm registration.version) with
        | .ok _ => id.detachAttached registration
        | .error _ => pure ()) first
      fun exchanges _ last ↦ Parting law id registration thread first exchanges last := by
  rw [Program.ensures_bind, Program.ensures_perform]
  intro answer asked hasked
  cases answer with
  | error status => exact Program.ensures_pure.2 (.absent hasked)
  | ok pointer =>
    dsimp only
    unfold LifecycleId.detachAttached
    rw [Program.ensures_bind, Program.ensures_perform]
    intro answer detached hdetached
    cases answer with
    | ok _ => exact LifecycleId.ensures_countAttached_iff.2 (.left hasked hdetached)
    | error status =>
      dsimp only
      rw [Program.ensures_bind, Program.ensures_current, Program.ensures_complain]
      exact .refused hasked hdetached

namespace LifecycleId

theorem ensures_detachFrom_iff {post : List (Exchange ω) → Unit → Moment ω → Prop} :
    Ensures law thread (id.detachFrom registration) first post ↔
      Ensures law thread (do
        match ← Program.perform (.getEnv registration.vm registration.version) with
        | .ok _ => id.detachAttached registration
        | .error _ => pure ())
        ⟨first.bridge.excuse id registration thread.id, first.outside⟩ post := by
  rw [detachFrom, Program.ensures_bind, ensures_cancelDetach_iff]
  rfl

/-- The thread is not owed for any more before the machine is asked anything. -/
theorem ensures_detachFrom_parting :
    Ensures law thread (id.detachFrom registration) first fun exchanges _ last ↦
      Parting law id registration thread
        ⟨first.bridge.excuse id registration thread.id, first.outside⟩ exchanges last :=
  ensures_detachFrom_iff.2 ensures_parting

theorem ensures_detach_iff {post : List (Exchange ω) → Unit → Moment ω → Prop} :
    Ensures law thread id.detach first post ↔
      match (first.bridge.lifecycle id).registration with
      | none => post [] () first
      | some registration => Ensures law thread (id.detachFrom registration) first post := by
  unfold detach registration?
  rw [Program.ensures_bind, Program.ensures_look]
  cases (first.bridge.lifecycle id).registration with
  | none => exact Program.ensures_pure
  | some registration => rfl

/-! ## Pieces of work -/

/-- A piece of work begins by attaching the thread to the machine that is registered. -/
theorem ensures_enter_iff {config : AttachConfig}
    {post : List (Exchange ω) → Except Error (Env × Bool) → Moment ω → Prop} :
    Ensures law thread (id.enter config).run first post ↔
      match (first.bridge.lifecycle id).registration with
      | none => post [] (.error .vmShutdown) first
      | some registration =>
        Ensures law thread (id.attachTo registration config).run first fun exchanges result ↦
          post exchanges
            ((fun answer ↦ (.of id registration answer.1, answer.2)) <$> result) := by
  unfold enter registration?
  rw [Fallible.ensures_liftThen, Program.ensures_look]
  cases (first.bridge.lifecycle id).registration with
  | none => exact Fallible.ensures_throw
  | some registration =>
    dsimp only
    rw [Fallible.ensures_bind]
    refine iff_of_eq (congrArg _ ?_)
    funext exchanges result last
    cases result with
    | error error => rfl
    | ok answer =>
      rw [Fallible.continues_ok, Fallible.ensures_pure, List.append_nil]
      rfl

theorem ensures_enter_iff_of_registered {config : AttachConfig}
    {post : List (Exchange ω) → Except Error (Env × Bool) → Moment ω → Prop}
    (hregistration : (first.bridge.lifecycle id).registration = some registration) :
    Ensures law thread (id.enter config).run first post ↔
      Ensures law thread (id.attachTo registration config).run first fun exchanges result ↦
        post exchanges ((fun answer ↦ (.of id registration answer.1, answer.2)) <$> result) := by
  rw [ensures_enter_iff, hregistration]

/-- A thread that is attached for good does not learn whether it was attached before. -/
theorem ensures_attach_iff {config : AttachConfig}
    {post : List (Exchange ω) → Except Error Env → Moment ω → Prop} :
    Ensures law thread (id.attach config).run first post ↔
      Ensures law thread (id.enter { config with isScoped := false }).run first
        fun exchanges result ↦ post exchanges (Prod.fst <$> result) := by
  unfold attach
  rw [Fallible.ensures_bind]
  refine iff_of_eq (congrArg _ ?_)
  funext exchanges result last
  rcases result with error | ⟨env, attachedHere⟩
  · rfl
  · rw [Fallible.continues_ok, Fallible.ensures_pure, List.append_nil]
    rfl

/-- A piece of work ends with a detach if it began with an attach, provided that the registration is
still there. -/
theorem ensures_leave_iff {config : AttachConfig} {env : Env} {attachedHere : Bool}
    {post : List (Exchange ω) → Unit → Moment ω → Prop} :
    Ensures law thread (id.leave config env attachedHere) first post ↔
      match if attachedHere && config.isScoped then first.bridge.registered? id env.generation
        else none with
      | none => post [] () first
      | some registration => Ensures law thread (id.detachFrom registration) first post := by
  unfold leave registered?
  split
  · rw [Program.ensures_bind, Program.ensures_look]
    cases first.bridge.registered? id env.generation with
    | none => exact Program.ensures_pure
    | some registration => rfl
  · exact Program.ensures_pure

/-! ## Giving up references -/

/-- A thread that is not attached is attached for as long as it takes to delete the reference. -/
theorem ensures_deleteGlobal_iff {generation : Nat} {handle : Handle}
    {post : List (Exchange ω) → Unit → Moment ω → Prop} :
    Ensures law thread (id.deleteGlobal generation handle) first post ↔
      match first.bridge.registered? id generation with
      | none => post [] () first
      | some registration =>
        Ensures law thread (id.attachTo registration { isScoped := true }).run first
          fun begun result middle ↦ match result with
          | .error _ => post begun () middle
          | .ok (pointer, attachedHere) =>
            Ensures law thread (Program.perform (.env pointer (.deleteGlobalRef handle))) middle
              fun deletion _ deleted ↦
              if attachedHere then
                Ensures law thread (id.detachFrom registration) deleted fun rest _ last ↦
                  post (begun ++ (deletion ++ rest)) () last
              else post (begun ++ deletion) () deleted := by
  unfold deleteGlobal registered?
  rw [Program.ensures_bind, Program.ensures_look]
  cases first.bridge.registered? id generation with
  | none => exact Program.ensures_pure
  | some registration =>
    dsimp only
    rw [Program.ensures_bind]
    refine iff_of_eq (congrArg _ ?_)
    funext begun result middle
    rcases result with error | ⟨pointer, _ | _⟩
    · rw [Program.ensures_warn, List.append_nil]
      rfl
    · simp only [Bool.false_eq_true, ↓reduceIte]
      rw [Program.ensures_bind]
      refine congrArg _ ?_
      funext deletion _ deleted
      rw [Program.ensures_pure, List.append_nil]
      rfl
    · simp only [↓reduceIte]
      rw [Program.ensures_bind, Program.ensures_warn, Program.ensures_bind]
      rfl

end LifecycleId

/-- A reference that was released is left alone. -/
theorem GlobalReference.ensures_release_iff {reference : GlobalReference}
    {post : List (Exchange ω) → GlobalReference → Moment ω → Prop} :
    Ensures law thread reference.release first post ↔
      match reference.raw with
      | none => post [] { reference with raw := none } first
      | some handle =>
        Ensures law thread (reference.lifecycle.deleteGlobal reference.generation handle) first
          fun exchanges _ ↦ post exchanges { reference with raw := none } := by
  unfold release
  cases reference.raw with
  | none => exact Program.ensures_pure
  | some handle =>
    dsimp only
    rw [Program.ensures_bind]
    refine iff_of_eq (congrArg _ ?_)
    funext exchanges _ last
    rw [Program.ensures_pure, List.append_nil]

theorem GlobalReference.ensures_drop_iff {reference : GlobalReference}
    {post : List (Exchange ω) → Unit → Moment ω → Prop} :
    Ensures law thread reference.drop first post ↔
      match reference.raw with
      | none => post [] () first
      | some handle =>
        Ensures law thread (reference.lifecycle.deleteGlobal reference.generation handle) first
          post := by
  have hdrop : reference.drop = (fun _ ↦ ()) <$> reference.release := rfl
  rw [hdrop, Program.ensures_map, ensures_release_iff]

namespace LifecycleId

/-! ## Forgetting machines -/

theorem ensures_takeRegistration_iff
    {post : List (Exchange ω) → Option Registration → Moment ω → Prop} :
    Ensures law thread id.takeRegistration first post ↔
      match (first.bridge.lifecycle id).registration with
      | none => post [] none first
      | some registration =>
        post [] (some registration) ⟨first.bridge.forget id, first.outside⟩ := by
  unfold takeRegistration registration?
  rw [Program.ensures_bind, Program.ensures_look]
  cases (first.bridge.lifecycle id).registration with
  | none => exact Program.ensures_pure
  | some registration =>
    dsimp only [Option.isSome_some]
    rw [if_pos rfl, Program.ensures_bind, Program.ensures_update, Program.ensures_pure]
    rfl

theorem ensures_reset_iff {post : List (Exchange ω) → Unit → Moment ω → Prop} :
    Ensures law thread id.reset first post ↔
      match (first.bridge.lifecycle id).registration with
      | none => post [] () first
      | some _ => post [] () ⟨first.bridge.forget id, first.outside⟩ := by
  have hreset : id.reset = (fun _ ↦ ()) <$> id.takeRegistration := rfl
  rw [hreset, Program.ensures_map, ensures_takeRegistration_iff]

/-- A machine is forgotten before it is shut down. -/
theorem ensures_teardown_iff {post : List (Exchange ω) → Except Error Unit → Moment ω → Prop} :
    Ensures law thread id.teardown.run first post ↔
      match (first.bridge.lifecycle id).registration with
      | none => post [] (.ok ()) first
      | some registration =>
        if registration.owned then
          Ensures law thread (Program.perform (.destroy registration.vm))
            ⟨first.bridge.forget id, first.outside⟩ fun exchanges answer ↦
              post exchanges (registration.farewell answer)
        else post [] (.ok ()) ⟨first.bridge.forget id, first.outside⟩ := by
  unfold teardown
  rw [Fallible.ensures_liftThen, ensures_takeRegistration_iff]
  cases (first.bridge.lifecycle id).registration with
  | none => exact Fallible.ensures_pure
  | some registration =>
    dsimp only
    split
    · rw [Fallible.ensures_liftThen]
      refine iff_of_eq (congrArg _ ?_)
      funext exchanges answer last
      cases answer with
      | ok _ =>
        rw [Fallible.ensures_pure, List.append_nil]
        rfl
      | error status =>
        dsimp only [Registration.farewell]
        split
        · rw [Fallible.ensures_pure, List.append_nil]
          rfl
        · rw [Fallible.ensures_throw, List.append_nil]
          rfl
    · exact Fallible.ensures_pure

/-- Only a machine that was created here is shut down.  What a failed attempt has left is
forgotten. -/
theorem ensures_cleanup_iff {post : List (Exchange ω) → Unit → Moment ω → Prop} :
    Ensures law thread id.cleanup first post ↔
      if (first.bridge.lifecycle id).registration.any Registration.owned then
        Ensures law thread id.teardown.run first fun begun result middle ↦ match result with
          | .ok _ => post begun () middle
          | .error _ => Ensures law thread id.reset middle fun rest ↦ post (begun ++ rest)
      else Ensures law thread id.reset first post := by
  unfold cleanup registration?
  rw [Program.ensures_bind, Program.ensures_look]
  split
  · rw [Program.ensures_bind]
    refine iff_of_eq (congrArg _ ?_)
    funext begun result middle
    cases result with
    | ok _ =>
      rw [Program.ensures_pure, List.append_nil]
      rfl
    | error error =>
      rw [Program.ensures_bind, Program.ensures_complain]
      rfl
  · rfl

/-! ## Registering machines -/

theorem ensures_refuseSecond_iff {post : List (Exchange ω) → Except Error Unit → Moment ω → Prop} :
    Ensures law thread id.refuseSecond.run first post ↔
      post [] (if (first.bridge.lifecycle id).registration.isSome then .error .vmRunning
        else .ok ()) first := by
  unfold refuseSecond registration?
  rw [Fallible.ensures_liftThen, Program.ensures_look]
  split
  · exact Fallible.ensures_throw
  · exact Fallible.ensures_pure

/-- A registration is prepared by drawing a generation, attaching the thread and asking for the
version. -/
theorem ensures_register_iff {vm : VmId} {version : Version} {owned : Bool}
    {post : List (Exchange ω) → Except Error Registration → Moment ω → Prop} :
    Ensures law thread (id.register vm version owned).run first post ↔
      Ensures law thread
        (id.attachTo ⟨vm, version, thread.id, owned, first.bridge.nextGeneration⟩ { }).run
        ⟨{ first.bridge with nextGeneration := first.bridge.nextGeneration + 1 }, first.outside⟩
        fun begun result middle ↦ match result with
        | .error error => post begun (.error error) middle
        | .ok (pointer, attachedHere) =>
          Ensures law thread (Program.perform (.env pointer .getVersion))
            ⟨middle.bridge.enroll id owned attachedHere, middle.outside⟩
            fun rest reported ↦ post (begun ++ rest)
              (.ok ⟨vm, .ofInt reported, thread.id, owned, first.bridge.nextGeneration⟩) := by
  unfold register
  rw [Fallible.ensures_liftThen, Program.ensures_current, Fallible.ensures_liftThen,
    Program.ensures_freshGeneration]
  dsimp only
  rw [Fallible.ensures_bind]
  refine iff_of_eq (congrArg _ ?_)
  funext begun result middle
  rcases result with error | ⟨pointer, attachedHere⟩
  · rfl
  · have hreported : ∀ counted, Ensures law thread (do
          let reported ← liftM (Program.perform (.env pointer .getVersion))
          return ⟨vm, .ofInt reported, thread.id, owned, first.bridge.nextGeneration⟩ :
            Fallible Registration).run counted (fun rest ↦ post (begun ++ rest)) ↔
        Ensures law thread (Program.perform (.env pointer .getVersion)) counted
          fun rest reported ↦ post (begun ++ rest)
            (.ok ⟨vm, .ofInt reported, thread.id, owned, first.bridge.nextGeneration⟩) := by
      intro counted
      rw [Fallible.ensures_liftThen]
      refine iff_of_eq (congrArg _ ?_)
      funext rest reported last
      rw [Fallible.ensures_pure, List.append_nil]
    rw [Fallible.continues_ok]
    unfold Bridge.enroll
    dsimp only
    split
    · rw [Fallible.ensures_liftThen, ensures_countAttached_iff]
      exact propext (hreported _)
    · exact propext (hreported _)

/-- What was prepared is put into the lifecycle. -/
theorem ensures_setRegistration_iff {post : List (Exchange ω) → Unit → Moment ω → Prop} :
    Ensures law thread (id.setRegistration registration) first post ↔
      post [] () ⟨first.bridge.install id registration, first.outside⟩ :=
  Program.ensures_update

/-- A machine is created unless one is registered, and shut down again if it cannot be
registered. -/
theorem ensures_create_of {version : Version} {options : Startup.OptionList}
    {post : List (Exchange ω) → Except Error Unit → Moment ω → Prop}
    (hrunning : (first.bridge.lifecycle id).registration ≠ none → post [] (.error .vmRunning) first)
    (hunwritable : ∀ error, (first.bridge.lifecycle id).registration = none →
      options.arguments version = .error error → post [] (.error error) first)
    (huncreated : ∀ arguments status created, (first.bridge.lifecycle id).registration = none →
      options.arguments version = .ok arguments →
      law ⟨thread, .create arguments, .error status, first, created⟩ →
      post [⟨thread, .create arguments, .error status, first, created⟩]
        (.error (.vmCreation status)) created)
    (hundelivered : ∀ arguments created, (first.bridge.lifecycle id).registration = none →
      options.arguments version = .ok arguments →
      law ⟨thread, .create arguments, .ok none, first, created⟩ →
      post [⟨thread, .create arguments, .ok none, first, created⟩]
        (.error (.nullPointer "JavaVM::from_raw ptr")) created)
    (hcreated : ∀ arguments vm created, (first.bridge.lifecycle id).registration = none →
      options.arguments version = .ok arguments →
      law ⟨thread, .create arguments, .ok (some vm), first, created⟩ →
      Ensures law thread (id.register vm version true).run created fun begun result middle ↦
        match result with
        | .ok registration =>
          post (⟨thread, .create arguments, .ok (some vm), first, created⟩ :: begun) (.ok ())
            ⟨middle.bridge.install id registration, middle.outside⟩
        | .error error => Ensures law thread (Program.perform (.destroy vm)) middle
          fun rest _ ↦ post
            (⟨thread, .create arguments, .ok (some vm), first, created⟩ :: (begun ++ rest))
            (.error error)) :
    Ensures law thread (id.create version options).run first post := by
  unfold create
  rw [Fallible.ensures_bind, ensures_refuseSecond_iff]
  cases hregistration : (first.bridge.lifecycle id).registration with
  | some registration => exact hrunning (by simp [hregistration])
  | none =>
    rw [Option.isSome_none, if_neg Bool.false_ne_true, Fallible.continues_ok,
      Fallible.ensures_bind, ExceptT.run_mk, Program.ensures_pure]
    cases harguments : options.arguments version with
    | error error => exact hunwritable error hregistration harguments
    | ok arguments =>
      rw [Fallible.continues_ok, Fallible.ensures_liftThen, Program.ensures_perform]
      intro answer created hasked
      rcases answer with status | (_ | vm)
      · rw [Fallible.ofStatus, Fallible.run_throw_bind, Program.ensures_pure]
        exact huncreated arguments status created hregistration harguments hasked
      · rw [Fallible.ofStatus, pure_bind, Fallible.nonNull, Fallible.run_throw_bind,
          Program.ensures_pure]
        exact hundelivered arguments created hregistration harguments hasked
      · rw [Fallible.ofStatus, pure_bind, Fallible.nonNull, pure_bind, Fallible.ensures_bind,
          Fallible.ensures_mapFailure]
        refine (hcreated arguments vm created hregistration harguments hasked).weaken ?_
        rintro begun (error | registration) middle hmiddle
        · dsimp only
          rw [Program.ensures_bind]
          refine hmiddle.weaken fun rest answer last hlast ↦ ?_
          cases answer with
          | ok _ =>
            refine Program.ensures_pure.2 ?_
            simpa using hlast
          | error status =>
            rw [Program.ensures_bind, Program.ensures_complain, Program.ensures_pure]
            simpa using hlast
        · dsimp only
          rw [Fallible.continues_ok, Fallible.ensures_lift, ensures_setRegistration_iff]
          simpa using hmiddle

/-- A machine is adopted under a valid version unless one is registered. -/
theorem ensures_adopt_of {vm : Option VmId} {version : Version}
    {post : List (Exchange ω) → Except Error Unit → Moment ω → Prop}
    (hnull : vm = none → post [] (.error (.nullPointer "JavaVM::from_raw ptr")) first)
    (hinvalid : vm ≠ none → version.isValid = false → post []
      (.error (.bridge "Unable to adopt the virtual machine: its JNI version is 0")) first)
    (hrunning : vm ≠ none → version.isValid = true →
      (first.bridge.lifecycle id).registration ≠ none → post [] (.error .vmRunning) first)
    (hadopted : ∀ adopted, vm = some adopted → version.isValid = true →
      (first.bridge.lifecycle id).registration = none →
      Ensures law thread (id.register adopted version false).run first fun begun result middle ↦
        match result with
        | .ok registration => post begun (.ok ())
          ⟨middle.bridge.install id { registration with version := version }, middle.outside⟩
        | .error error => post begun (.error error) middle) :
    Ensures law thread (id.adopt vm version).run first post := by
  unfold adopt
  cases vm with
  | none =>
    rw [Fallible.nonNull, Fallible.run_throw_bind, Program.ensures_pure]
    exact hnull rfl
  | some vm =>
    rw [Fallible.nonNull, pure_bind]
    cases hvalid : version.isValid with
    | false =>
      rw [Bool.not_false, if_pos rfl, Fallible.run_throw_bind, Program.ensures_pure]
      exact hinvalid (Option.some_ne_none vm) hvalid
    | true =>
      rw [Bool.not_true, if_neg Bool.false_ne_true, Fallible.ensures_bind, ensures_refuseSecond_iff]
      cases hregistration : (first.bridge.lifecycle id).registration with
      | some registration =>
        exact hrunning (Option.some_ne_none vm) hvalid (by simp [hregistration])
      | none =>
        rw [Option.isSome_none, if_neg Bool.false_ne_true, Fallible.continues_ok,
          Fallible.ensures_bind]
        refine (hadopted vm rfl hvalid hregistration).weaken ?_
        rintro begun (error | registration) middle hmiddle
        · exact hmiddle
        · rw [Fallible.continues_ok, Fallible.ensures_lift, ensures_setRegistration_iff,
            List.append_nil]
          exact hmiddle

end LifecycleId

end JavaInterop
