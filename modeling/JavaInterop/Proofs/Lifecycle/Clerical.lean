import JavaInterop.Lifecycle.Shutdown
import JavaInterop.Lifecycle.ThreadExit
import JavaInterop.Proofs.Program.Fallible

/-!
# Which calls an operation makes

A program is a tree of calls, so what calls it can make at all, whatever is answered, is a property
of the program itself.  The operations of a lifecycle make official calls only: calls that start and
end machines and attachments or ask for a version.  Giving up a global reference and the exit of a
thread make clerical calls, which may also delete a global reference.
-/

namespace JavaInterop

variable [Host] {ω α β : Type}

namespace Program

/-- Every call that the program can make is one of these. -/
def Calls (allowed : Call → Prop) : Program α → Prop
  | .done _ => True
  | .call request next => allowed request ∧ ∀ reply, (next reply).Calls allowed
  | .read next => ∀ bridge, (next bridge).Calls allowed
  | .write _ next => next.Calls allowed
  | .thread next => ∀ running, (next running).Calls allowed
  | .notify _ next => next.Calls allowed
  | .remark _ next => next.Calls allowed

variable {allowed : Call → Prop}

/-- Whatever is called in a run was foreseen. -/
theorem Run.calls {thread : NativeThread} {program : Program α} {first last : Moment ω}
    {exchanges : List (Exchange ω)} {result : α}
    (hrun : program.Run thread first exchanges result last) (hcalls : program.Calls allowed)
    {exchange : Exchange ω} (hmem : exchange ∈ exchanges) : allowed exchange.request := by
  induction hrun with
  | done => cases hmem
  | call reply _ _ ih =>
    rcases List.mem_cons.1 hmem with rfl | hmem
    · exact hcalls.1
    · exact ih (hcalls.2 reply) hmem
  | read _ ih => exact ih (hcalls _) hmem
  | thread _ ih => exact ih (hcalls _) hmem
  | write _ ih | notify _ ih | remark _ ih => exact ih hcalls hmem

namespace Calls

theorem weaken {program : Program α} {more : Call → Prop} (hcalls : program.Calls allowed)
    (hmore : ∀ request, allowed request → more request) : program.Calls more := by
  induction program with
  | done => trivial
  | call request rest ih => exact ⟨hmore _ hcalls.1, fun reply ↦ ih reply (hcalls.2 reply)⟩
  | read rest ih => exact fun bridge ↦ ih bridge (hcalls bridge)
  | thread rest ih => exact fun running ↦ ih running (hcalls running)
  | write bridge rest ih | notify notice rest ih | remark note rest ih => exact ih hcalls

theorem done {result : α} : (pure result : Program α).Calls allowed := trivial

theorem bind {program : Program α} {next : α → Program β} (hprogram : program.Calls allowed)
    (hnext : ∀ value, (next value).Calls allowed) : (program >>= next).Calls allowed := by
  rw [bind_eq_bind]
  induction program with
  | done result => exact hnext result
  | call request rest ih => exact ⟨hprogram.1, fun reply ↦ ih reply (hprogram.2 reply)⟩
  | read rest ih => exact fun bridge ↦ ih bridge (hprogram bridge)
  | thread rest ih => exact fun running ↦ ih running (hprogram running)
  | write bridge rest ih | notify notice rest ih | remark note rest ih => exact ih hprogram

theorem map {program : Program α} {change : α → β} (hprogram : program.Calls allowed) :
    (change <$> program).Calls allowed := by
  rw [← bind_pure_comp]
  exact hprogram.bind fun _ ↦ done

theorem perform {request : Call} (hrequest : allowed request) :
    (Program.perform request).Calls allowed :=
  ⟨hrequest, fun _ ↦ trivial⟩

theorem state : Program.state.Calls allowed := fun _ ↦ trivial

theorem look {view : Bridge → α} : (Program.look view).Calls allowed := fun _ ↦ trivial

theorem current : Program.current.Calls allowed := fun _ ↦ trivial

theorem update {change : Bridge → Bridge} : (Program.update change).Calls allowed :=
  fun _ ↦ trivial

theorem warn {text : String} : (Program.warn text).Calls allowed := trivial

theorem complain {text : String} : (Program.complain text).Calls allowed := trivial

theorem freshGeneration : Program.freshGeneration.Calls allowed := fun _ ↦ trivial

theorem forM {items : List α} {each : α → Program Unit}
    (heach : ∀ item, (each item).Calls allowed) : (items.forM each).Calls allowed := by
  induction items with
  | nil => exact done
  | cons item items ih => exact (heach item).bind fun _ ↦ ih

/-! Programs that may fail. -/

theorem throw {error : Error} : (MonadExcept.throw error : Fallible α).run.Calls allowed := trivial

theorem succeed {value : α} : (pure value : Fallible α).run.Calls allowed := trivial

theorem throwThen {error : Error} {next : α → Fallible β} :
    (MonadExcept.throw error >>= next : Fallible β).run.Calls allowed := by
  rw [Fallible.run_throw_bind]
  exact done

theorem andThen {body : Fallible α} {next : α → Fallible β} (hbody : body.run.Calls allowed)
    (hnext : ∀ value, (next value).run.Calls allowed) : (body >>= next).run.Calls allowed := by
  rw [ExceptT.run_bind]
  refine hbody.bind ?_
  rintro (error | value)
  · exact done
  · exact hnext value

theorem lift {program : Program α} (hprogram : program.Calls allowed) :
    (liftM program : Fallible α).run.Calls allowed :=
  hprogram.map

theorem liftThen {program : Program α} {next : α → Fallible β} (hprogram : program.Calls allowed)
    (hnext : ∀ value, (next value).run.Calls allowed) :
    (liftM program >>= next : Fallible β).run.Calls allowed := by
  rw [Fallible.run_lift_bind]
  exact hprogram.bind hnext

theorem mapFailure {body : Fallible α} {change : Error → Program Error}
    (hbody : body.run.Calls allowed) (hchange : ∀ error, (change error).Calls allowed) :
    (body.mapFailure change).run.Calls allowed := by
  refine hbody.bind ?_
  rintro (error | value)
  · exact (hchange error).map
  · exact done

theorem ofStatus {answer : Except Status α} {error : Status → Error} :
    (Fallible.ofStatus answer error).run.Calls allowed := by
  cases answer with
  | ok value => exact succeed
  | error status => exact throw

theorem nonNull {reference : Option α} {place : String} :
    (Fallible.nonNull reference place).run.Calls allowed := by
  cases reference with
  | none => exact throw
  | some present => exact succeed

end Calls

end Program

/-! ## Official calls -/

/-- The call has to do with machines and attachments only. -/
def Call.IsOfficial : Call → Prop
  | .env _ .getVersion => True
  | .env .. => False
  | _ => True

/-- The program makes official calls only. -/
abbrev Program.Official (program : Program α) : Prop := program.Calls Call.IsOfficial

namespace LifecycleId

open Program

variable (id : LifecycleId)

theorem official_deferDetach (generation : Nat) : (id.deferDetach generation).Official := by
  refine Calls.current.bind fun running ↦ ?_
  split
  · exact .warn
  · exact .update

theorem official_attachTo (registration : Registration) (config : AttachConfig) :
    (id.attachTo registration config).run.Official := by
  refine .liftThen (.perform trivial) fun answer ↦ ?_
  cases answer with
  | ok pointer => exact .succeed
  | error status =>
    cases status with
    | threadDetached =>
      refine .liftThen .current fun running ↦ .liftThen (.perform trivial) fun answer ↦ ?_
      refine .andThen .ofStatus fun pointer ↦ .liftThen .update fun _ ↦ ?_
      split
      · exact .liftThen (official_deferDetach id _) fun _ ↦ .succeed
      · exact .succeed
    | _ => exact .throwThen

theorem official_detachAttached (registration : Registration) :
    (id.detachAttached registration).Official := by
  refine (Calls.perform trivial).bind ?_
  rintro (status | _)
  · exact Calls.current.bind fun _ ↦ .complain
  · exact Calls.update

theorem official_detachFrom (registration : Registration) :
    (id.detachFrom registration).Official := by
  refine (Calls.current.bind fun _ ↦ .update).bind fun _ ↦ (Calls.perform trivial).bind ?_
  rintro (status | pointer)
  · exact .done
  · exact official_detachAttached id registration

theorem official_enter (config : AttachConfig) : (id.enter config).run.Official := by
  refine .liftThen .look ?_
  rintro (_ | registration)
  · exact .throw
  · exact .andThen (official_attachTo id registration config) fun _ ↦ .succeed

theorem official_attach (config : AttachConfig) : (id.attach config).run.Official :=
  .andThen (official_enter id _) fun _ ↦ .succeed

theorem official_leave (config : AttachConfig) (env : Env) (attachedHere : Bool) :
    (id.leave config env attachedHere).Official := by
  unfold leave
  split
  · refine Calls.look.bind ?_
    rintro (_ | registration)
    · exact .done
    · exact official_detachFrom id registration
  · exact .done

theorem official_detach : id.detach.Official := by
  refine Calls.look.bind ?_
  rintro (_ | registration)
  · exact .done
  · exact official_detachFrom id registration

theorem official_refuseSecond : id.refuseSecond.run.Official := by
  refine .liftThen .look fun registration ↦ ?_
  split
  · exact .throw
  · exact .succeed

theorem official_register (vm : VmId) (version : Version) (owned : Bool) :
    (id.register vm version owned).run.Official := by
  refine .liftThen .current fun running ↦ .liftThen .freshGeneration fun generation ↦ ?_
  refine .andThen (official_attachTo id _ _) fun ⟨pointer, attachedHere⟩ ↦ ?_
  have hversion : (do
      let reported ← liftM (Program.perform (.env pointer .getVersion))
      return ⟨vm, .ofInt reported, running.id, owned, generation⟩ :
        Fallible Registration).run.Official :=
    .liftThen (.perform trivial) fun _ ↦ .succeed
  dsimp only
  split
  · exact .liftThen .update fun _ ↦ hversion
  · exact hversion

theorem official_create (version : Version) (options : Startup.OptionList) :
    (id.create version options).run.Official := by
  refine .andThen (official_refuseSecond id) fun _ ↦ .andThen .done fun arguments ↦ ?_
  refine .liftThen (.perform trivial) fun answer ↦ .andThen .ofStatus fun vm ↦ ?_
  refine .andThen .nonNull fun vm ↦ .andThen ?_ fun registration ↦ .lift .update
  refine .mapFailure (official_register id vm version true) fun error ↦ ?_
  refine (Calls.perform trivial).bind ?_
  rintro (status | _)
  · exact Calls.complain.bind fun _ ↦ .done
  · exact .done

theorem official_adopt (vm : Option VmId) (version : Version) :
    (id.adopt vm version).run.Official := by
  refine .andThen .nonNull fun vm ↦ ?_
  have hadopt : (do
      id.refuseSecond
      let registration ← id.register vm version false
      id.setRegistration { registration with version := version } : Fallible Unit).run.Official :=
    .andThen (official_refuseSecond id) fun _ ↦
      .andThen (official_register id vm version false) fun _ ↦ .lift .update
  dsimp only
  split
  · exact .throwThen
  · exact hadopt

theorem official_takeRegistration : id.takeRegistration.Official := by
  refine Calls.look.bind fun registration ↦ ?_
  dsimp only
  split
  · exact Calls.update.bind fun _ ↦ .done
  · exact .done

theorem official_teardown : id.teardown.run.Official := by
  refine .liftThen (official_takeRegistration id) ?_
  rintro (_ | registration)
  · exact .succeed
  · dsimp only
    split
    · refine .liftThen (.perform trivial) ?_
      rintro (status | _)
      · dsimp only
        split
        · exact .succeed
        · exact .throw
      · exact .succeed
    · exact .succeed

theorem official_reset : id.reset.Official := (official_takeRegistration id).map

theorem official_cleanup : id.cleanup.Official := by
  refine Calls.look.bind fun registration ↦ ?_
  split
  · refine (official_teardown id).bind ?_
    rintro (error | _)
    · exact Calls.complain.bind fun _ ↦ official_reset id
    · exact .done
  · exact official_reset id

end LifecycleId

open Program

theorem PendingDetach.official_run (pending : PendingDetach) (heldOutside : LifecycleId → Bool) :
    (pending.run heldOutside).Official := by
  refine Calls.state.bind fun bridge ↦ ?_
  split
  · refine Calls.look.bind ?_
    rintro (_ | registration)
    · exact .done
    · refine (Calls.perform trivial).bind ?_
      rintro (status | pointer)
      · exact .done
      · exact LifecycleId.official_detachAttached _ registration
  · exact .done

/-- A thread that runs its hooks deletes nothing. -/
theorem ThreadSlot.official_vacate (heldOutside : LifecycleId → Bool) :
    (ThreadSlot.pendingDetaches.vacate heldOutside).Official := by
  refine Calls.current.bind fun running ↦ Calls.state.bind fun bridge ↦ ?_
  exact Calls.update.bind fun _ ↦ Calls.forM fun pending ↦ pending.official_run heldOutside

theorem official_signalShutdown : signalShutdown.Official := by
  refine Calls.state.bind fun bridge ↦ Calls.update.bind fun _ ↦ ?_
  cases bridge.hooked with
  | none => exact .done
  | some hook =>
    dsimp only
    split
    · exact LifecycleId.official_reset _
    · exact .done

/-! ## Clerical calls -/

/-- The call has to do with machines, attachments and global references only. -/
def Call.IsClerical : Call → Prop
  | .env _ .getVersion | .env _ (.deleteGlobalRef _) => True
  | .env .. => False
  | _ => True

/-- The program makes clerical calls only. -/
abbrev Program.Clerical (program : Program α) : Prop := program.Calls Call.IsClerical

omit [Host] in
theorem Call.IsOfficial.clerical {request : Call} (hofficial : request.IsOfficial) :
    request.IsClerical := by
  cases request with
  | env pointer function =>
    cases function with
    | getVersion => trivial
    | _ => exact hofficial.elim
  | _ => trivial

theorem Program.Calls.clerical {program : Program α} (hofficial : program.Official) :
    program.Clerical :=
  hofficial.weaken fun _ ↦ Call.IsOfficial.clerical

theorem LifecycleId.clerical_deleteGlobal (id : LifecycleId) (generation : Nat)
    (reference : Handle) : (id.deleteGlobal generation reference).Clerical := by
  refine Calls.look.bind ?_
  rintro (_ | registration)
  · exact .done
  · refine (official_attachTo id registration _).clerical.bind ?_
    rintro (error | ⟨pointer, attachedHere⟩)
    · exact .warn
    · cases attachedHere with
      | false => exact (Calls.perform trivial).bind fun _ ↦ .done
      | true =>
        exact Calls.warn.bind fun _ ↦ (Calls.perform trivial).bind fun _ ↦
          (official_detachFrom id registration).clerical

theorem GlobalReference.clerical_drop (reference : GlobalReference) : reference.drop.Clerical := by
  unfold drop release
  refine Calls.map ?_
  cases reference.raw with
  | none => exact .done
  | some handle => exact (LifecycleId.clerical_deleteGlobal _ _ handle).bind fun _ ↦ .done

theorem ThreadSlot.clerical_vacate (slot : ThreadSlot) (heldOutside : LifecycleId → Bool) :
    (slot.vacate heldOutside).Clerical := by
  cases slot with
  | classLoader =>
    refine Calls.current.bind fun running ↦ Calls.state.bind fun bridge ↦ ?_
    refine Calls.update.bind fun _ ↦ ?_
    split
    · exact GlobalReference.clerical_drop _
    · exact .done
  | pendingDetaches => exact (ThreadSlot.official_vacate heldOutside).clerical

theorem clerical_exitThread (heldOutside : LifecycleId → Bool) :
    (exitThread heldOutside).Clerical := by
  refine Calls.current.bind fun running ↦ Calls.state.bind fun bridge ↦ ?_
  exact (Calls.forM fun slot ↦ slot.clerical_vacate heldOutside).bind fun _ ↦ .update

end JavaInterop
