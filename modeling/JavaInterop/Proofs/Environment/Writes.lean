import JavaInterop.Callback.Builder
import JavaInterop.Environment.Boxing
import JavaInterop.Proofs.Program.Fallible

/-!
# What the operations of an environment write

Most operations change very little of what the bridge remembers: attaching and detaching keep their
books, which are the number of attached threads and the pending detaches, and finding classes,
calling methods, catching exceptions, boxing scalars and releasing references do nothing else.

`Program.Writes` says of a program which changes it makes itself, without any assumption about the
machines or about other threads: during each of its calls the bridge may become any other one.
What is allowed is a parameter, so whatever part of the bridge the books do not touch is left alone
by all of these operations.
-/

namespace JavaInterop

variable [Host] {ω α β : Type} {allowed : Bridge → Bridge → Prop}

/-- The books of attaching and detaching may be kept. -/
class Bridge.Bookkeeping (allowed : Bridge → Bridge → Prop) : Prop where
  attached : ∀ (bridge : Bridge) (id : LifecycleId) (change : Nat → Nat),
    allowed bridge (bridge.setLifecycle id
      { bridge.lifecycle id with attached := change (bridge.lifecycle id).attached })
  pending : ∀ (bridge : Bridge) (thread : Nat) (pending : List PendingDetach),
    allowed bridge (bridge.setThread thread
      { (bridge.thread thread).touch .pendingDetaches with pending := pending })

namespace Program

/-- Every change that the program makes itself is allowed, if it starts with the given bridge. -/
def WritesFrom (allowed : Bridge → Bridge → Prop) : Program α → Bridge → Prop
  | .done _, _ => True
  | .call _ next, _ => ∀ reply bridge, (next reply).WritesFrom allowed bridge
  | .read next, bridge => (next bridge).WritesFrom allowed bridge
  | .write changed next, bridge => allowed bridge changed ∧ next.WritesFrom allowed changed
  | .thread next, bridge => ∀ running, (next running).WritesFrom allowed bridge
  | .notify _ next, bridge => next.WritesFrom allowed bridge
  | .remark _ next, bridge => next.WritesFrom allowed bridge

/-- Every change that the program makes itself is allowed. -/
def Writes (allowed : Bridge → Bridge → Prop) (program : Program α) : Prop :=
  ∀ bridge, program.WritesFrom allowed bridge

/-- If allowed changes and calls bring things forward, then so does a whole run, up to each of its
calls and to its end. -/
theorem Run.reaches {thread : NativeThread} {program : Program α} {first last : Moment ω}
    {exchanges : List (Exchange ω)} {result : α} {later : Moment ω → Moment ω → Prop}
    (hrefl : ∀ moment, later moment moment)
    (htrans : ∀ before middle after, later before middle → later middle after →
      later before after)
    (hwrite : ∀ (moment : Moment ω) bridge, allowed moment.bridge bridge →
      later moment ⟨bridge, moment.outside⟩)
    (hrun : program.Run thread first exchanges result last)
    (hwrites : program.WritesFrom allowed first.bridge)
    (hcalls : ∀ exchange ∈ exchanges, later exchange.before exchange.after) :
    later first last ∧ ∀ exchange ∈ exchanges, later first exchange.before := by
  induction hrun with
  | done result moment => exact ⟨hrefl moment, fun _ hmem ↦ absurd hmem List.not_mem_nil⟩
  | @call _ _ first _ _ _ reply after _ ih =>
    have hcall : later first after := hcalls _ List.mem_cons_self
    obtain ⟨hlast, hbefore⟩ := ih (hwrites reply after.bridge) fun exchange hmem ↦
      hcalls exchange (List.mem_cons_of_mem _ hmem)
    refine ⟨htrans _ _ _ hcall hlast, fun exchange hmem ↦ ?_⟩
    rcases List.mem_cons.1 hmem with rfl | hmem
    · exact hrefl first
    · exact htrans _ _ _ hcall (hbefore exchange hmem)
  | read _ ih | notify _ ih | remark _ ih => exact ih hwrites hcalls
  | write _ ih =>
    obtain ⟨hlast, hbefore⟩ := ih hwrites.2 hcalls
    have hwritten := hwrite _ _ hwrites.1
    exact ⟨htrans _ _ _ hwritten hlast, fun exchange hmem ↦
      htrans _ _ _ hwritten (hbefore exchange hmem)⟩
  | thread _ ih => exact ih (hwrites _) hcalls

/-- If other code makes allowed changes only, a whole run does so. -/
theorem Run.writes {thread : NativeThread} {program : Program α} {first last : Moment ω}
    {exchanges : List (Exchange ω)} {result : α} (hrefl : ∀ bridge, allowed bridge bridge)
    (htrans : ∀ before middle after, allowed before middle → allowed middle after →
      allowed before after)
    (hrun : program.Run thread first exchanges result last)
    (hwrites : program.WritesFrom allowed first.bridge)
    (hcalls : ∀ exchange ∈ exchanges, allowed exchange.before.bridge exchange.after.bridge) :
    allowed first.bridge last.bridge := by
  let later (before after : Moment ω) : Prop := allowed before.bridge after.bridge
  have hreaches : later first last ∧ ∀ exchange ∈ exchanges, later first exchange.before :=
    hrun.reaches (fun moment ↦ hrefl moment.bridge) (fun _ _ _ ↦ htrans _ _ _) (fun _ _ ↦ id)
      hwrites hcalls
  exact hreaches.1

namespace Writes

theorem done {result : α} : (pure result : Program α).Writes allowed := fun _ ↦ trivial

theorem bind {program : Program α} {next : α → Program β} (hprogram : program.Writes allowed)
    (hnext : ∀ value, (next value).Writes allowed) : (program >>= next).Writes allowed := by
  intro bridge
  have hfrom := hprogram bridge
  rw [bind_eq_bind]
  clear hprogram
  induction program generalizing bridge with
  | done result => exact hnext result bridge
  | call request rest ih => exact fun reply after ↦ ih reply after (hfrom reply after)
  | read rest ih => exact ih bridge bridge hfrom
  | write changed rest ih => exact ⟨hfrom.1, ih changed hfrom.2⟩
  | thread rest ih => exact fun running ↦ ih running bridge (hfrom running)
  | notify notice rest ih => exact ih bridge hfrom
  | remark note rest ih => exact ih bridge hfrom

theorem perform (request : Call) : (Program.perform request).Writes allowed :=
  fun _ _ _ ↦ trivial

theorem state : Program.state.Writes allowed := fun _ ↦ trivial

theorem look (view : Bridge → α) : (Program.look view).Writes allowed := fun _ ↦ trivial

theorem current : Program.current.Writes allowed := fun _ _ ↦ trivial

theorem warn (text : String) : (Program.warn text).Writes allowed := fun _ ↦ trivial

theorem complain (text : String) : (Program.complain text).Writes allowed := fun _ ↦ trivial

theorem update {change : Bridge → Bridge}
    (hchange : ∀ bridge : Bridge, allowed bridge (change bridge)) :
    (Program.update change).Writes allowed :=
  fun bridge ↦ ⟨hchange bridge, trivial⟩

theorem freshGeneration (hallowed : ∀ bridge : Bridge,
    allowed bridge { bridge with nextGeneration := bridge.nextGeneration + 1 }) :
    Program.freshGeneration.Writes allowed :=
  fun bridge ↦ ⟨hallowed bridge, trivial⟩

theorem map {program : Program α} {change : α → β} (hprogram : program.Writes allowed) :
    (change <$> program).Writes allowed := by
  rw [← bind_pure_comp]
  exact hprogram.bind fun _ ↦ done

end Writes

end Program

/-! ## Programs that may fail -/

/-- Every change that the operation makes itself is allowed. -/
abbrev Fallible.Writes (allowed : Bridge → Bridge → Prop) (operation : Fallible α) : Prop :=
  Program.Writes allowed operation.run

namespace Fallible.Writes

open Program

theorem succeed {value : α} : Fallible.Writes allowed (pure value) := Writes.done

theorem throw {error : Error} : Fallible.Writes allowed (throw error : Fallible α) :=
  Writes.done

theorem throwThen {error : Error} {next : α → Fallible β} :
    Fallible.Writes allowed (MonadExcept.throw error >>= next : Fallible β) := by
  unfold Fallible.Writes
  rw [run_throw_bind]
  exact Writes.done

theorem andThen {operation : Fallible α} {next : α → Fallible β}
    (hoperation : operation.Writes allowed) (hnext : ∀ value, (next value).Writes allowed) :
    Fallible.Writes allowed (operation >>= next) := by
  unfold Fallible.Writes
  rw [ExceptT.run_bind]
  refine hoperation.bind ?_
  rintro (error | value)
  · exact Writes.done
  · exact hnext value

theorem lift {program : Program α} (hprogram : program.Writes allowed) :
    Fallible.Writes allowed (liftM program) :=
  Program.Writes.map hprogram

theorem liftThen {program : Program α} {next : α → Fallible β} (hprogram : program.Writes allowed)
    (hnext : ∀ value, (next value).Writes allowed) :
    Fallible.Writes allowed (liftM program >>= next) := by
  unfold Fallible.Writes
  rw [run_lift_bind]
  exact hprogram.bind hnext

theorem thenAlways {operation : Fallible α} {release : Program Unit}
    (hoperation : operation.Writes allowed) (hrelease : release.Writes allowed) :
    (operation.thenAlways release).Writes allowed :=
  Program.Writes.bind hoperation fun _ ↦ hrelease.bind fun _ ↦ Writes.done

theorem mapFailure {operation : Fallible α} {change : Error → Program Error}
    (hoperation : operation.Writes allowed) (hchange : ∀ error, (change error).Writes allowed) :
    (operation.mapFailure change).Writes allowed := by
  refine Program.Writes.bind hoperation ?_
  rintro (error | value)
  · exact Program.Writes.map (hchange error)
  · exact Writes.done

theorem ofStatus (status : Except Status α) (error : Status → Error) :
    (Fallible.ofStatus status error).Writes allowed := by
  cases status with
  | ok value => exact succeed
  | error code => exact throw

theorem nonNull (reference : Option α) (place : String) :
    (Fallible.nonNull reference place).Writes allowed := by
  cases reference with
  | none => exact throw
  | some present => exact succeed

theorem ended (text : String) : (Fallible.ended text).Writes allowed := by
  unfold Fallible.ended
  cases Text.CString.ofText text with
  | ok bytes => exact succeed
  | error position => exact throw

end Fallible.Writes

/-! ## Attaching, detaching and releasing -/

/-- Attaching counts the thread and may defer its detach. -/
theorem LifecycleId.writes_attachTo_of {id : LifecycleId} {registration : Registration}
    (config : AttachConfig) (hcount : (id.countAttached (· + 1)).Writes allowed)
    (hdefer : (id.deferDetach registration.generation).Writes allowed) :
    (id.attachTo registration config).Writes allowed := by
  refine Fallible.Writes.liftThen (.perform _) fun answer ↦ ?_
  cases answer with
  | ok pointer => exact .succeed
  | error status =>
    cases status with
    | threadDetached =>
      refine Fallible.Writes.liftThen .current fun running ↦ .liftThen (.perform _) ?_
      intro answer
      refine .andThen (.ofStatus _ _) fun pointer ↦ .liftThen hcount fun _ ↦ ?_
      split
      · exact .liftThen hdefer fun _ ↦ .succeed
      · exact .succeed
    | _ => exact .throwThen

section

variable [Bridge.Bookkeeping allowed]

namespace LifecycleId

open Program

theorem writes_countAttached (id : LifecycleId) (change : Nat → Nat) :
    (id.countAttached change).Writes allowed :=
  Writes.update fun bridge ↦ Bridge.Bookkeeping.attached bridge id change

theorem writes_deferDetach (id : LifecycleId) (generation : Nat) :
    (id.deferDetach generation).Writes allowed := by
  refine Writes.current.bind fun running ↦ ?_
  split
  · exact .warn _
  · exact Writes.update fun _ ↦ Bridge.Bookkeeping.pending _ _ _

theorem writes_cancelDetach (id : LifecycleId) (generation : Nat) :
    (id.cancelDetach generation).Writes allowed :=
  Writes.current.bind fun _ ↦ Writes.update fun _ ↦ Bridge.Bookkeeping.pending _ _ _

theorem writes_attachTo (id : LifecycleId) (registration : Registration)
    (config : AttachConfig) : (id.attachTo registration config).Writes allowed :=
  writes_attachTo_of config (writes_countAttached id _) (writes_deferDetach id _)

theorem writes_detachAttached (id : LifecycleId) (registration : Registration) :
    (id.detachAttached registration).Writes allowed := by
  refine (Writes.perform _).bind ?_
  rintro (status | _)
  · exact Writes.current.bind fun _ ↦ .complain _
  · exact writes_countAttached id _

theorem writes_detachFrom (id : LifecycleId) (registration : Registration) :
    (id.detachFrom registration).Writes allowed := by
  refine (writes_cancelDetach id _).bind fun _ ↦ (Writes.perform _).bind ?_
  rintro (status | pointer)
  · exact .done
  · exact writes_detachAttached id registration

theorem writes_deleteGlobal (id : LifecycleId) (generation : Nat) (handle : Handle) :
    (id.deleteGlobal generation handle).Writes allowed := by
  refine (Writes.look _).bind ?_
  rintro (_ | registration)
  · exact .done
  · refine Writes.bind (writes_attachTo id registration _) ?_
    rintro (error | ⟨pointer, attachedHere⟩)
    · exact .warn _
    · cases attachedHere with
      | false => exact (Writes.perform _).bind fun _ ↦ .done
      | true =>
        refine (Writes.warn _).bind fun _ ↦ (Writes.perform _).bind fun _ ↦ ?_
        exact writes_detachFrom id registration

end LifecycleId

theorem GlobalReference.writes_drop (reference : GlobalReference) :
    reference.drop.Writes allowed := by
  unfold GlobalReference.drop GlobalReference.release
  refine Program.Writes.map ?_
  cases reference.raw with
  | none => exact .done
  | some handle =>
    exact (reference.lifecycle.writes_deleteGlobal _ handle).bind fun _ ↦ .done

theorem Value.writes_drop (value : Value) : value.drop.Writes allowed := by
  unfold Value.drop
  split
  · exact GlobalReference.writes_drop _
  · exact .done

theorem Error.writes_drop (error : Error) : error.drop.Writes allowed := by
  unfold Error.drop
  split
  · exact GlobalReference.writes_drop _
  · exact .done

theorem Fallible.Writes.withReason {operation : Fallible α}
    (hoperation : operation.Writes allowed) (text : String) :
    (operation.withReason text).Writes allowed :=
  hoperation.mapFailure fun error ↦ error.writes_drop.bind fun _ ↦ .done

end

theorem LocalReference.writes_drop (reference : LocalReference) :
    reference.drop.Writes allowed := by
  unfold LocalReference.drop Env.deleteLocal
  cases reference.raw with
  | none => exact .done
  | some handle =>
    refine (Program.Writes.look _).bind ?_
    rintro (_ | registration)
    · exact .done
    · exact .perform _

theorem Fallible.Writes.scope {operation : Fallible α} (hoperation : operation.Writes allowed)
    (reference : LocalReference) : (reference.scope operation).Writes allowed :=
  hoperation.thenAlways reference.writes_drop

/-! ## The functions of an environment -/

namespace Env

open Fallible

theorem writes_perform (env : Env) (function : EnvFunction) :
    (env.perform function).Writes allowed :=
  .perform _

theorem writes_newLocal (env : Env) (object : Option Handle) :
    (env.newLocal object).Writes allowed := by
  refine .andThen (.nonNull _ _) fun object ↦ .liftThen (.perform _) ?_
  rintro (_ | handle)
  · exact .throw
  · exact .succeed

theorem writes_newGlobal (env : Env) (object : Option Handle) :
    (env.newGlobal object).Writes allowed := by
  refine .andThen (.nonNull _ _) fun object ↦ .liftThen (.perform _) ?_
  rintro (_ | handle)
  · exact .throw
  · exact .succeed

theorem writes_readString (env : Env) (string : Handle) :
    (env.readString string).Writes allowed := by
  refine (writes_perform env _).bind ?_
  rintro (_ | chars)
  · exact .done
  · exact (writes_perform env _).bind fun _ ↦ .done

theorem writes_inspectionFailed (env : Env) (call : String) :
    (env.inspectionFailed call).Writes allowed := by
  refine (writes_perform env _).bind ?_
  rintro (_ | _)
  · exact .done
  · exact (writes_perform env _).bind fun _ ↦ (writes_perform env _).bind fun _ ↦ .done

/-- A failed inspection may be what an operation ends with. -/
theorem writes_throwInspectionFailed (env : Env) (call : String) :
    Fallible.Writes allowed (do throw (← env.inspectionFailed call) : Fallible α) :=
  .liftThen (writes_inspectionFailed env call) fun _ ↦ .throw

theorem writes_callStringMethod (env : Env) (object : Handle) (className method : String) :
    (env.callStringMethod object className method).Writes allowed := by
  refine .liftThen (.perform _) ?_
  rintro (_ | classObject)
  · exact writes_throwInspectionFailed env method
  · refine .scope (.liftThen (.perform _) ?_) _
    rintro (_ | methodId)
    · exact writes_throwInspectionFailed env method
    · refine .liftThen (.perform _) fun answer ↦ .liftThen (.perform _) ?_
      rintro (_ | _)
      · cases answer with
        | none => exact .succeed
        | some string =>
          refine .scope (.liftThen (writes_readString env string) ?_) _
          rintro (_ | error | text)
          · exact writes_throwInspectionFailed env method
          · exact .throw
          · exact .succeed
      · refine .liftThen (writes_inspectionFailed env method) fun _ ↦ .throwThen

theorem writes_deleteLocal (env : Env) (reference : Option Handle) :
    (env.deleteLocal reference).Writes allowed :=
  (env.own reference).writes_drop

theorem writes_ancestry (env : Env) (current : Option Handle) :
    (env.ancestry.run.run current).Writes allowed := by
  cases current with
  | none => exact .done
  | some classObject =>
    refine Program.Writes.bind (writes_callStringMethod env _ _ _) ?_
    rintro (error | _ | name)
    · exact (writes_deleteLocal env _).bind fun _ ↦ .done
    · refine (writes_inspectionFailed env _).bind fun error ↦ ?_
      exact (writes_deleteLocal env _).bind fun _ ↦ .done
    · refine (writes_perform env _).bind fun next ↦ ?_
      exact (writes_deleteLocal env _).bind fun _ ↦ .done

/-- The walk along the classes of a thrown object, by induction on the names still to be looked at.
-/
theorem writes_walk (env : Env) (registry : Registry) (className : String) :
    ∀ (remaining : Nat) (name : String) (current : Option Handle),
      ((walk registry env.ancestry className remaining name).run.run current).Writes allowed := by
  intro remaining
  induction remaining with
  | zero =>
    intro name current
    unfold walk
    split
    · exact .done
    · split
      · exact .done
      · exact .done
  | succ remaining ih =>
    intro name current
    unfold walk
    split
    · exact .done
    · split
      · exact .done
      · rw [run_stateful_bind]
        refine (writes_ancestry env current).bind ?_
        rintro ⟨error | _ | name, rest⟩
        · exact .done
        · exact .done
        · exact ih name rest

theorem writes_resolve (env : Env) (registry : Registry) (current : Option Handle) :
    ((resolve registry env.ancestry).run.run current).Writes allowed := by
  unfold resolve
  rw [run_stateful_bind]
  refine (writes_ancestry env current).bind ?_
  rintro ⟨error | _ | name, rest⟩
  · exact .done
  · exact .done
  · exact writes_walk env registry _ _ _ _

theorem writes_resolveThrown (env : Env) (registry : Registry) (throwable : Handle) :
    (env.resolveThrown registry throwable).Writes allowed := by
  refine .liftThen (.perform _) ?_
  rintro (_ | classObject)
  · exact writes_throwInspectionFailed env _
  · refine Program.Writes.bind (writes_resolve env registry _) fun answer ↦ ?_
    exact (writes_deleteLocal env _).bind fun _ ↦ .done

theorem writes_thrownMessage (env : Env) (throwable : Handle) :
    (env.thrownMessage throwable).Writes allowed := by
  refine Program.Writes.bind (writes_callStringMethod env _ _ _) ?_
  rintro (error | message)
  · exact (Program.Writes.warn _).bind fun _ ↦ .done
  · exact .done

theorem writes_withCause (env : Env) (text : String) :
    (env.withCause text).Writes allowed := by
  refine (writes_perform env _).bind ?_
  rintro (_ | throwable)
  · exact .done
  · refine (writes_perform env _).bind fun _ ↦ ?_
    refine Program.Writes.bind (writes_callStringMethod env _ _ _) fun answer ↦ ?_
    have hrest : ∀ error : Error,
        (do env.deleteLocal throwable; return error : Program Error).Writes allowed :=
      fun _ ↦ (writes_deleteLocal env _).bind fun _ ↦ .done
    rcases answer with error | _ | cause
    · exact (Program.Writes.warn _).bind fun _ ↦ hrest _
    · exact hrest _
    · exact hrest _

theorem writes_findMethod (env : Env) (classObject : Option Handle) (name signature : String)
    (isStatic : Bool) : (env.findMethod classObject name signature isStatic).Writes allowed := by
  refine .andThen (.nonNull _ _) fun classObject ↦ .andThen (.ended _) fun _ ↦ ?_
  refine .andThen (.ended _) fun _ ↦ .liftThen (.perform _) ?_
  rintro (_ | method)
  · exact .liftThen (writes_withCause env _) fun _ ↦ .throw
  · exact .succeed

variable [Bridge.Bookkeeping allowed]

theorem writes_throwResolved (env : Env) (throwable : Handle) (resolution : Resolution)
    (message : Option String) :
    (env.throwResolved throwable resolution message).Writes allowed := by
  cases resolution with
  | unmatched className => exact .throw
  | matched factory className =>
    refine .andThen (writes_newGlobal env _) fun reference ↦ ?_
    dsimp only
    split
    · exact .liftThen reference.writes_drop fun _ ↦ .throw
    · exact .throw

theorem writes_catchPending (env : Env) : env.catchPending.Writes allowed := by
  refine .liftThen .state fun bridge ↦ .liftThen (.perform _) ?_
  rintro (_ | throwable)
  · exact .succeed
  · refine .liftThen (.perform _) fun _ ↦ .scope ?_ _
    refine .andThen (writes_resolveThrown env _ _) fun resolution ↦ ?_
    refine .liftThen (writes_thrownMessage env _) fun message ↦ ?_
    exact writes_throwResolved env _ _ _

/-- What an answer is followed by, once a pending exception has been looked for. -/
theorem writes_checked (env : Env) (request : Call) {next : request.Reply → Fallible α}
    (hnext : ∀ reply, (next reply).Writes allowed) :
    Fallible.Writes allowed (do
      let reply ← (liftM (Program.perform request) : Fallible request.Reply)
      env.catchPending
      next reply) :=
  .liftThen (.perform _) fun reply ↦ .andThen (writes_catchPending env) fun _ ↦ hnext reply

theorem writes_findClass (env : Env) (internalName : String) :
    (env.findClass internalName).Writes allowed :=
  .andThen (.ended _) fun _ ↦ writes_checked env _ fun _ ↦
    .andThen (.nonNull _ _) fun _ ↦ .succeed

theorem writes_registerNatives (env : Env) (classObject : Option Handle)
    (methods : List NativeMethod) : (env.registerNatives classObject methods).Writes allowed :=
  .andThen (.nonNull _ _) fun _ ↦ writes_checked env _ fun _ ↦ .ofStatus _ _

theorem writes_callObject (env : Env) (receiver : Option Handle) (method : MethodId)
    (arguments : List Argument) : (env.callObject receiver method arguments).Writes allowed :=
  .andThen (.nonNull _ _) fun _ ↦ writes_checked env _ fun _ ↦ .succeed

theorem writes_callStaticObject (env : Env) (classObject : Option Handle) (method : MethodId)
    (arguments : List Argument) :
    (env.callStaticObject classObject method arguments).Writes allowed :=
  .andThen (.nonNull _ _) fun _ ↦ writes_checked env _ fun _ ↦ .succeed

theorem writes_newObject (env : Env) (classObject : Option Handle) (constructor : MethodId)
    (arguments : List Argument) :
    (env.newObject classObject constructor arguments).Writes allowed :=
  .andThen (.nonNull _ _) fun _ ↦ writes_checked env _ fun _ ↦
    .andThen (.nonNull _ _) fun _ ↦ .succeed

theorem writes_newString (env : Env) (content : String) :
    (env.newString content).Writes allowed :=
  writes_checked env _ fun _ ↦ .andThen (.nonNull _ _) fun _ ↦ .succeed

end Env

variable [Bridge.Bookkeeping allowed]

theorem Scalar.writes_box (scalar : Scalar) (env : Env) : (scalar.box env).Writes allowed :=
  .andThen (env.writes_findClass _) fun wrapper ↦ .scope
    (.andThen (env.writes_findMethod _ _ _ _) fun _ ↦ env.writes_callStaticObject _ _ _)
    wrapper

theorem Value.writes_toObject (value : Value) (env : Env) :
    (value.toObject env).Writes allowed := by
  rcases value with (_ | reference) | scalar | _
  · exact .succeed
  · unfold Fallible.Writes Value.toObject
    rw [ExceptT.run_map]
    exact Program.Writes.map (env.writes_newLocal _)
  · exact scalar.writes_box env
  · exact .succeed

end JavaInterop
