import JavaInterop.Lifecycle.Shutdown
import JavaInterop.Lifecycle.ThreadExit
import JavaInterop.Proofs.Environment.Writes

/-!
# What the operations of a lifecycle write

Registering a machine and forgetting it change lifecycles, draw generations and may leave a pending
detach with the running thread.  None of these operations takes a detach back, and none of them
changes anything else that a thread keeps.

What is allowed is a parameter here as well, so each fact about such changes is stated once for all
of these operations.
-/

namespace JavaInterop

open Program

variable [Host] {allowed : Bridge → Bridge → Prop}

/-- Machines may be registered and forgotten, and threads may be attached for good. -/
class Bridge.Enrolling (allowed : Bridge → Bridge → Prop) : Prop where
  lifecycle : ∀ (bridge : Bridge) (id : LifecycleId) (lifecycle : Lifecycle),
    allowed bridge (bridge.setLifecycle id lifecycle)
  deferred : ∀ (bridge : Bridge) (thread : Nat) (hook : PendingDetach),
    allowed bridge (bridge.setThread thread { (bridge.thread thread).touch .pendingDetaches with
      pending := bridge.alive ((bridge.thread thread).touch .pendingDetaches).pending ++ [hook] })
  drawn : ∀ bridge : Bridge,
    allowed bridge { bridge with nextGeneration := bridge.nextGeneration + 1 }
  unhooked : ∀ bridge : Bridge, allowed bridge { bridge with hooked := none }

variable [Bridge.Enrolling allowed]

namespace LifecycleId

variable (id : LifecycleId)

theorem writes_count (change : Nat → Nat) : (id.countAttached change).Writes allowed :=
  .update fun bridge ↦ Bridge.Enrolling.lifecycle bridge id _

theorem writes_defer (generation : Nat) : (id.deferDetach generation).Writes allowed := by
  refine Writes.current.bind fun running ↦ ?_
  split
  · exact .warn _
  · exact .update fun bridge ↦ Bridge.Enrolling.deferred bridge _ _

theorem writes_admission (registration : Registration) (config : AttachConfig) :
    (id.attachTo registration config).Writes allowed :=
  writes_attachTo_of config (writes_count id _) (writes_defer id _)

theorem writes_enter (config : AttachConfig) : (id.enter config).Writes allowed := by
  refine .liftThen (.look _) ?_
  rintro (_ | registration)
  · exact .throw
  · exact .andThen (writes_admission id registration config) fun _ ↦ .succeed

theorem writes_attach (config : AttachConfig) : (id.attach config).Writes allowed :=
  .andThen (writes_enter id _) fun _ ↦ .succeed

omit [Bridge.Enrolling allowed] in
theorem writes_refuseSecond : id.refuseSecond.Writes allowed := by
  refine .liftThen (.look _) fun registration ↦ ?_
  split
  · exact .throw
  · exact .succeed

theorem writes_register (vm : VmId) (version : Version) (owned : Bool) :
    (id.register vm version owned).Writes allowed := by
  refine .liftThen .current fun running ↦
    .liftThen (.freshGeneration Bridge.Enrolling.drawn) fun generation ↦ ?_
  refine .andThen (writes_admission id _ _) fun ⟨pointer, attachedHere⟩ ↦ ?_
  have hversion : Fallible.Writes allowed (do
      let reported ← liftM (Program.perform (.env pointer .getVersion))
      return ⟨vm, .ofInt reported, running.id, owned, generation⟩ : Fallible Registration) :=
    .liftThen (.perform _) fun _ ↦ .succeed
  dsimp only
  split
  · exact .liftThen (writes_count id _) fun _ ↦ hversion
  · exact hversion

theorem writes_setRegistration (registration : Registration) :
    (id.setRegistration registration).Writes allowed :=
  .update fun bridge ↦ Bridge.Enrolling.lifecycle bridge id _

theorem writes_create (version : Version) (options : Startup.OptionList) :
    (id.create version options).Writes allowed := by
  refine .andThen (writes_refuseSecond id) fun _ ↦ .andThen .done fun arguments ↦ ?_
  refine .liftThen (.perform _) fun answer ↦ .andThen (.ofStatus _ _) fun vm ↦ ?_
  refine .andThen (.nonNull _ _) fun vm ↦ .andThen ?_ fun registration ↦
    .lift (writes_setRegistration id _)
  refine .mapFailure (writes_register id vm version true) fun error ↦ ?_
  refine (Writes.perform _).bind ?_
  rintro (status | _)
  · exact (Writes.complain _).bind fun _ ↦ .done
  · exact .done

theorem writes_adopt (vm : Option VmId) (version : Version) :
    (id.adopt vm version).Writes allowed := by
  refine .andThen (.nonNull _ _) fun vm ↦ ?_
  have hadopt : Fallible.Writes allowed (do
      id.refuseSecond
      let registration ← id.register vm version false
      id.setRegistration { registration with version := version } : Fallible Unit) :=
    .andThen (writes_refuseSecond id) fun _ ↦
      .andThen (writes_register id vm version false) fun _ ↦
        .lift (writes_setRegistration id _)
  dsimp only
  split
  · exact .throwThen
  · exact hadopt

theorem writes_takeRegistration : id.takeRegistration.Writes allowed := by
  refine (Writes.look _).bind fun registration ↦ ?_
  dsimp only
  split
  · exact Writes.bind (.update fun bridge ↦ Bridge.Enrolling.lifecycle bridge id _) fun _ ↦ .done
  · exact .done

theorem writes_teardown : id.teardown.Writes allowed := by
  refine .liftThen (writes_takeRegistration id) ?_
  rintro (_ | registration)
  · exact .succeed
  · dsimp only
    split
    · refine .liftThen (.perform _) ?_
      rintro (status | _)
      · dsimp only
        split
        · exact .succeed
        · exact .throw
      · exact .succeed
    · exact .succeed

theorem writes_reset : id.reset.Writes allowed := (writes_takeRegistration id).map

theorem writes_cleanup : id.cleanup.Writes allowed := by
  refine (Writes.look _).bind fun registration ↦ ?_
  split
  · refine Writes.bind (writes_teardown id) ?_
    rintro (error | _)
    · exact (Writes.complain _).bind fun _ ↦ writes_reset id
    · exact .done
  · exact writes_reset id

/-- Whoever leaves may take a detach back. -/
theorem writes_detach {allowed : Bridge → Bridge → Prop} [Bridge.Bookkeeping allowed] :
    id.detach.Writes allowed := by
  refine (Writes.look _).bind ?_
  rintro (_ | registration)
  · exact .done
  · exact writes_detachFrom id registration

theorem writes_leave {allowed : Bridge → Bridge → Prop} [Bridge.Bookkeeping allowed]
    (config : AttachConfig) (env : Env) (attachedHere : Bool) :
    (id.leave config env attachedHere).Writes allowed := by
  unfold leave
  split
  · refine (Writes.look _).bind ?_
    rintro (_ | registration)
    · exact .done
    · exact writes_detachFrom id registration
  · exact .done

end LifecycleId

theorem Program.Writes.forM {α : Type} {allowed : Bridge → Bridge → Prop} {items : List α}
    {each : α → Program Unit} (heach : ∀ item, (each item).Writes allowed) :
    (items.forM each).Writes allowed := by
  induction items with
  | nil => exact .done
  | cons item items ih => exact (heach item).bind fun _ ↦ ih

/-- A hook changes the number of attached threads at most. -/
theorem PendingDetach.writes_run {allowed : Bridge → Bridge → Prop} [Bridge.Bookkeeping allowed]
    (hook : PendingDetach) (heldOutside : LifecycleId → Bool) :
    (hook.run heldOutside).Writes allowed := by
  refine Program.Writes.state.bind fun bridge ↦ ?_
  split
  · refine (Writes.look _).bind ?_
    rintro (_ | registration)
    · exact .done
    · refine (Writes.perform _).bind ?_
      rintro (status | pointer)
      · exact .done
      · exact LifecycleId.writes_detachAttached _ registration
  · exact .done

theorem writes_signalShutdown : signalShutdown.Writes allowed := by
  refine Program.Writes.state.bind fun bridge ↦ .bind (.update Bridge.Enrolling.unhooked) fun _ ↦ ?_
  cases bridge.hooked with
  | none => exact .done
  | some hook =>
    dsimp only
    split
    · exact LifecycleId.writes_reset _
    · exact .done

end JavaInterop
