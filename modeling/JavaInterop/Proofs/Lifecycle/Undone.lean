import JavaInterop.Proofs.Environment.Operation
import JavaInterop.Proofs.Lifecycle.Bid
import JavaInterop.Proofs.Program.Mirror
import JavaInterop.Proofs.Startup.Translation

/-!
# Bids that come to nothing

A bid that fails leaves a lifecycle and the running thread as it found them.  It made no call if it
could not have succeeded, a machine that was created on the way has been asked to shut down once,
and the error is the one that the machine was refused with.

What comes after such a bid is the same as without it, except that registrations are numbered
differently.  Nothing that a bid does depends on these numbers, so two bids that start from the same
things, differently numbered, cannot be told apart.

A lifecycle is locked during a bid, and what a thread keeps is its own.  So it is relied on that
nobody else changes these while a call of the bid is under way; about the answers nothing is
assumed.
-/

namespace JavaInterop

/-! ## Options that cannot be written -/

namespace Startup

/-- A machine cannot be started with a list of options if one of them has a zero character. -/
theorem OptionList.arguments_eq_error_iff {list : OptionList} (version : Version) :
    (∃ error, list.arguments version = .error error) ↔
      ∃ option ∈ list.options, '\x00' ∈ option.text.toList := by
  have hall : (∃ arguments, list.arguments version = .ok arguments) ↔
      ∀ option ∈ list.options, '\x00' ∉ option.text.toList := exists_arguments_iff
  rw [← not_iff_not]
  push Not
  rw [← hall]
  cases list.arguments version <;> simp

end Startup

/-! ## What a bid depends on -/

/-- A registration without its number. -/
def Registration.unnumbered (registration : Registration) : Registration :=
  { registration with generation := 0 }

/-- A lifecycle without the number of its registration. -/
def Lifecycle.unnumbered (lifecycle : Lifecycle) : Lifecycle :=
  { lifecycle with registration := lifecycle.registration.map Registration.unnumbered }

/-- What a thread keeps, without the numbers of the registrations that it is to be detached from. -/
def ThreadState.unnumbered (thread : ThreadState) : ThreadState :=
  { thread with pending := thread.pending.map fun detach ↦ { detach with generation := 0 } }

variable [Host] {ω : Type} {id : LifecycleId} {thread : NativeThread}
  {first start : Moment ω}

/-- A lifecycle and what a thread keeps are the same at two moments but for the numbers of
registrations. -/
structure Alike (id : LifecycleId) (thread : NativeThread) (moment other : Moment ω) : Prop where
  lifecycle : (moment.bridge.lifecycle id).unnumbered = (other.bridge.lifecycle id).unnumbered
  thread : (moment.bridge.thread thread.id).unnumbered =
    (other.bridge.thread thread.id).unnumbered

/-- During the call nobody else changes a lifecycle or what the caller keeps. -/
structure Exchange.Secluded (id : LifecycleId) (exchange : Exchange ω) : Prop where
  lifecycle : exchange.after.bridge.lifecycle id = exchange.before.bridge.lifecycle id
  thread : exchange.after.bridge.thread exchange.caller.id =
    exchange.before.bridge.thread exchange.caller.id

namespace Alike

theorem of_eq (hlifecycle : first.bridge.lifecycle id = start.bridge.lifecycle id)
    (hthread : first.bridge.thread thread.id = start.bridge.thread thread.id) :
    Alike id thread first start :=
  ⟨congrArg _ hlifecycle, congrArg _ hthread⟩

theorem symm (halike : Alike id thread first start) : Alike id thread start first :=
  ⟨halike.lifecycle.symm, halike.thread.symm⟩

theorem registered (halike : Alike id thread first start) :
    (first.bridge.lifecycle id).registration.isSome =
      (start.bridge.lifecycle id).registration.isSome := by
  have hregistration := congrArg (fun lifecycle ↦ lifecycle.registration.isSome) halike.lifecycle
  simpa [Lifecycle.unnumbered] using hregistration

/-- A call in which nobody else interferes can be made on one side only. -/
theorem call (halike : Alike id thread first start) {request : Call} {reply : request.Reply}
    {after : Moment ω}
    (hsecluded : (⟨thread, request, reply, first, after⟩ : Exchange ω).Secluded id) :
    Alike id thread after start :=
  ⟨(congrArg _ hsecluded.lifecycle).trans halike.lifecycle,
    (congrArg _ hsecluded.thread).trans halike.thread⟩

theorem recount (halike : Alike id thread first start) (change : Nat → Nat) :
    Alike id thread (⟨first.bridge.recount id change, first.outside⟩ : Moment ω)
      ⟨start.bridge.recount id change, start.outside⟩ where
  lifecycle := by
    have hattached := congrArg (fun lifecycle ↦ change lifecycle.attached) halike.lifecycle
    have hregistration := congrArg (fun lifecycle ↦ lifecycle.registration) halike.lifecycle
    unfold Bridge.recount
    rw [Bridge.lifecycle_setLifecycle_self, Bridge.lifecycle_setLifecycle_self]
    exact congrArg₂ Lifecycle.mk hregistration hattached
  thread := halike.thread

theorem renumber (halike : Alike id thread first start) (number other : Nat) :
    Alike id thread (⟨{ first.bridge with nextGeneration := number }, first.outside⟩ : Moment ω)
      ⟨{ start.bridge with nextGeneration := other }, start.outside⟩ :=
  ⟨halike.lifecycle, halike.thread⟩

theorem register (halike : Alike id thread first start) {registration other : Registration}
    (hsame : registration.unnumbered = other.unnumbered) :
    Alike id thread (⟨first.bridge.install id registration, first.outside⟩ : Moment ω)
      ⟨start.bridge.install id other, start.outside⟩ where
  lifecycle := by
    have hattached := congrArg (fun lifecycle ↦ lifecycle.attached) halike.lifecycle
    unfold Bridge.install
    rw [Bridge.lifecycle_setLifecycle_self, Bridge.lifecycle_setLifecycle_self]
    exact congrArg₂ Lifecycle.mk (congrArg some hsame) hattached
  thread := halike.thread

end Alike

open Program (Mirrors)

/-- A call in which nobody else interferes can be repeated. -/
theorem Exchange.Secluded.idle {request : Call} (reply : request.Reply) :
    (⟨thread, request, reply, start, start⟩ : Exchange ω).Secluded id :=
  ⟨rfl, rfl⟩

/-- Two programs give the same value and leave the same behind. -/
def Repeats (id : LifecycleId) (thread : NativeThread) {α : Type} (value : α) (last : Moment ω)
    (answer : α) (finish : Moment ω) : Prop :=
  value = answer ∧ Alike id thread last finish

theorem mirrors_call (halike : Alike id thread first start) (request : Call) :
    Mirrors (Exchange.Secluded id) thread (Program.perform request) first
      (Program.perform request) start (Repeats id thread) :=
  Program.mirrors_perform fun reply _ hsecluded ↦
    ⟨start, .idle reply, rfl, halike.call hsecluded⟩

theorem mirrors_running (halike : Alike id thread first start) :
    Mirrors (Exchange.Secluded id) thread Program.current first Program.current start
      fun running last answer finish ↦
        thread = running ∧ thread = answer ∧ Alike id thread last finish :=
  Program.mirrors_current ⟨rfl, rfl, halike⟩

theorem mirrors_number (halike : Alike id thread first start) :
    Mirrors (Exchange.Secluded id) thread Program.freshGeneration first Program.freshGeneration
      start fun _ last _ finish ↦ Alike id thread last finish :=
  Program.mirrors_freshGeneration (halike.renumber _ _)

theorem mirrors_remark (halike : Alike id thread first start) (text : String) :
    Mirrors (Exchange.Secluded id) thread (Program.complain text) first (Program.complain text)
      start (Repeats id thread) :=
  Program.mirrors_complain ⟨rfl, halike⟩

theorem mirrors_registered (halike : Alike id thread first start) :
    Mirrors (Exchange.Secluded id) thread id.registration? first id.registration? start
      fun registration last other finish ↦
        registration.isSome = other.isSome ∧ Alike id thread last finish :=
  Program.mirrors_look ⟨halike.registered, halike⟩

theorem mirrors_countAttached (halike : Alike id thread first start) (change : Nat → Nat) :
    Mirrors (Exchange.Secluded id) thread (id.countAttached change) first
      (id.countAttached change) start (Repeats id thread) :=
  Program.mirrors_update ⟨rfl, halike.recount change⟩

/-- The creator of a registration owes no detach, whatever its number. -/
theorem mirrors_attachTo (halike : Alike id thread first start) (registration : Registration)
    (config : AttachConfig) (number : Nat) (hcreator : thread.id = registration.creator) :
    Mirrors (Exchange.Secluded id) thread (id.attachTo registration config).run first
      (id.attachTo { registration with generation := number } config).run start
      (Agrees (Alike id thread) Eq) := by
  unfold LifecycleId.attachTo
  refine Fallible.mirrors_liftThen (mirrors_call halike _) ?_
  rintro answer asked _ halted ⟨rfl, hasked⟩
  cases answer with
  | ok pointer => exact Fallible.mirrors_pure rfl hasked
  | error status =>
    cases status with
    | threadDetached =>
      dsimp only
      refine Fallible.mirrors_liftThen (mirrors_running hasked) ?_
      rintro _ asked _ halted ⟨rfl, rfl, hasked⟩
      refine Fallible.mirrors_liftThen (mirrors_call hasked _) ?_
      rintro answer attached _ halted ⟨rfl, hattached⟩
      cases answer with
      | error status =>
        rw [Fallible.ofStatus, Fallible.run_throw_bind, Fallible.run_throw_bind]
        exact Program.mirrors_pure (.error hattached)
      | ok pointer =>
        rw [Fallible.ofStatus, pure_bind, pure_bind]
        refine Fallible.mirrors_liftThen (mirrors_countAttached hattached _) ?_
        rintro _ counted _ halted ⟨-, hcounted⟩
        simp only [hcreator, beq_self_eq_true, Bool.not_true, Bool.false_and, Bool.false_eq_true,
          ↓reduceIte]
        exact Fallible.mirrors_pure rfl hcounted
    | _ =>
      dsimp only
      rw [Fallible.run_throw_bind, Fallible.run_throw_bind]
      exact Program.mirrors_pure (.error hasked)

theorem mirrors_register (halike : Alike id thread first start) (vm : VmId) (version : Version)
    (owned : Bool) :
    Mirrors (Exchange.Secluded id) thread (id.register vm version owned).run first
      (id.register vm version owned).run start
      (Agrees (Alike id thread) fun registration other ↦
        other.unnumbered = registration.unnumbered) := by
  unfold LifecycleId.register
  refine Fallible.mirrors_liftThen (mirrors_running halike) ?_
  rintro _ reached _ halted ⟨rfl, rfl, halike⟩
  refine Fallible.mirrors_liftThen (mirrors_number halike) ?_
  intro number numbered other halted hnumbered
  refine Fallible.mirrors_fallible (mirrors_attachTo hnumbered _ _ other rfl) ?_
  rintro ⟨pointer, attachedHere⟩ attached _ halted rfl hattached
  have hversion : ∀ counted halted : Moment ω, Alike id thread counted halted →
      Mirrors (Exchange.Secluded id) thread (do
        let reported ← liftM (Program.perform (.env pointer .getVersion))
          return ⟨vm, .ofInt reported, thread.id, owned, number⟩ : Fallible Registration).run
        counted (do
        let reported ← liftM (Program.perform (.env pointer .getVersion))
        return ⟨vm, .ofInt reported, thread.id, owned, other⟩ : Fallible Registration).run halted
        (Agrees (Alike id thread) fun registration other ↦
          other.unnumbered = registration.unnumbered) := by
    intro counted halted hcounted
    refine Fallible.mirrors_liftThen (mirrors_call hcounted _) ?_
    rintro word reached _ halted ⟨rfl, hreached⟩
    exact Fallible.mirrors_pure rfl hreached
  dsimp only
  split
  · refine Fallible.mirrors_liftThen (mirrors_countAttached hattached _) ?_
    rintro _ counted _ halted ⟨-, hcounted⟩
    exact hversion counted halted hcounted
  · exact hversion attached halted hattached

theorem mirrors_setRegistration (halike : Alike id thread first start)
    {registration other : Registration} (hsame : other.unnumbered = registration.unnumbered) :
    Mirrors (Exchange.Secluded id) thread (id.setRegistration registration) first
      (id.setRegistration other) start (Repeats id thread) :=
  Program.mirrors_update ⟨rfl, halike.register hsame.symm⟩

theorem mirrors_refuseSecond (halike : Alike id thread first start) :
    Mirrors (Exchange.Secluded id) thread id.refuseSecond.run first id.refuseSecond.run start
      (Agrees (Alike id thread) Eq) := by
  unfold LifecycleId.refuseSecond
  refine Fallible.mirrors_liftThen (mirrors_registered halike) ?_
  rintro registration reached other halted ⟨hsame, hreached⟩
  rw [hsame]
  split
  · exact Fallible.mirrors_throw hreached
  · exact Fallible.mirrors_pure rfl hreached

theorem mirrors_destroy (halike : Alike id thread first start) (vm : VmId) (error : Error) :
    Mirrors (Exchange.Secluded id) thread (do
        match ← Program.perform (.destroy vm) with
        | .ok () => pure ()
        | .error status =>
          Program.complain <|
            s!"Failed to destroy a Java VM that couldn't be registered: {status.message}"
        return error) first (do
        match ← Program.perform (.destroy vm) with
        | .ok () => pure ()
        | .error status =>
          Program.complain <|
            s!"Failed to destroy a Java VM that couldn't be registered: {status.message}"
        return error) start (Repeats id thread) := by
  refine Program.mirrors_bind (mirrors_call halike _) ?_
  rintro answer reached _ halted ⟨rfl, hreached⟩
  cases answer with
  | ok _ => exact Program.mirrors_pure ⟨rfl, hreached⟩
  | error status =>
    refine Program.mirrors_bind (mirrors_remark hreached _) ?_
    rintro _ complained _ halted ⟨-, hcomplained⟩
    exact Program.mirrors_pure ⟨rfl, hcomplained⟩

theorem mirrors_create (halike : Alike id thread first start) (version : Version)
    (options : Startup.OptionList) :
    Mirrors (Exchange.Secluded id) thread (id.create version options).run first
      (id.create version options).run start (Agrees (Alike id thread) Eq) := by
  unfold LifecycleId.create
  refine Fallible.mirrors_fallible (mirrors_refuseSecond halike) ?_
  rintro _ reached _ halted - hreached
  cases harguments : options.arguments version with
  | error error => exact Program.mirrors_pure (.error hreached)
  | ok arguments =>
    refine Fallible.mirrors_fallible (Fallible.mirrors_pure rfl hreached) ?_
    rintro _ reached _ halted rfl hreached
    refine Fallible.mirrors_liftThen (mirrors_call hreached _) ?_
    rintro answer created _ halted ⟨rfl, hcreated⟩
    cases answer with
    | error status =>
      rw [Fallible.ofStatus, Fallible.run_throw_bind]
      exact Program.mirrors_pure (.error hcreated)
    | ok vm =>
      rw [Fallible.ofStatus, pure_bind]
      cases vm with
      | none =>
        rw [Fallible.nonNull, Fallible.run_throw_bind]
        exact Program.mirrors_pure (.error hcreated)
      | some vm =>
        rw [Fallible.nonNull, pure_bind]
        refine Fallible.mirrors_fallible
          (Fallible.mirrors_mapFailure (mirrors_register hcreated vm version true) ?_) ?_
        · intro error reached halted hreached
          exact mirrors_destroy hreached vm error
        · intro registration reached other halted hsame hreached
          exact Fallible.mirrors_lift (mirrors_setRegistration hreached hsame)

theorem mirrors_adopt (halike : Alike id thread first start) (vm : Option VmId)
    (version : Version) :
    Mirrors (Exchange.Secluded id) thread (id.adopt vm version).run first
      (id.adopt vm version).run start (Agrees (Alike id thread) Eq) := by
  unfold LifecycleId.adopt
  cases vm with
  | none =>
    rw [Fallible.nonNull, Fallible.run_throw_bind]
    exact Program.mirrors_pure (.error halike)
  | some vm =>
    rw [Fallible.nonNull, pure_bind]
    dsimp only
    split
    · rw [Fallible.run_throw_bind]
      exact Program.mirrors_pure (.error halike)
    · refine Fallible.mirrors_fallible (mirrors_refuseSecond halike) ?_
      rintro _ reached _ halted - hreached
      refine Fallible.mirrors_fallible (mirrors_register hreached vm version false) ?_
      intro registration reached other halted hsame hreached
      have hversion : ({ other with version := version } : Registration).unnumbered =
          ({ registration with version := version } : Registration).unnumbered :=
        congrArg (fun registration : Registration ↦ { registration with version := version }) hsame
      exact Fallible.mirrors_lift (mirrors_setRegistration hreached hversion)

theorem Bid.mirrors (halike : Alike id thread first start) (bid : Bid) :
    Mirrors (Exchange.Secluded id) thread (bid.program id).run first (bid.program id).run start
      (Agrees (Alike id thread) Eq) := by
  cases bid with
  | create version options => exact mirrors_create halike version options
  | adopt vm version => exact mirrors_adopt halike vm version

/-! ## Bids that fail -/

namespace Bid

/-- One of the options that the machine is to be started with has a zero character. -/
def HasZero : Bid → Prop
  | create _ options => ∃ option ∈ options.options, '\x00' ∈ option.text.toList
  | adopt .. => False

/-- The bid is for a machine that runs already. -/
def adopts : Bid → Bool
  | create .. => false
  | adopt .. => true

/-- The bid cannot be told apart at two moments.  Each run at one of them is matched by a run at the
other one with the same calls, answers and result, which leaves the same behind. -/
def Echoes (bid : Bid) (id : LifecycleId) (thread : NativeThread) (moment other : Moment ω) :
    Prop :=
  Mirrors (Exchange.Secluded id) thread (bid.program id).run moment (bid.program id).run other
      (Agrees (Alike id thread) Eq) ∧
    Mirrors (Exchange.Secluded id) thread (bid.program id).run other (bid.program id).run moment
      (Agrees (Alike id thread) Eq)

theorem echoes (halike : Alike id thread first start) (bid : Bid) :
    bid.Echoes id thread first start :=
  ⟨bid.mirrors halike, bid.mirrors halike.symm⟩

variable {bid : Bid} {exchanges : List (Exchange ω)} {error : Error}

theorem refusal_minor {vm : VmId} {status : Status}
    (hrefusal : Refusal thread vm exchanges status) :
    ∀ exchange ∈ exchanges, exchange.Minor := by
  cases hrefusal with
  | environment =>
    intro exchange hmem
    cases List.mem_singleton.1 hmem
    exact ⟨rfl, rfl, rfl⟩
  | attachment =>
    intro exchange hmem
    rcases List.mem_cons.1 hmem with rfl | hmem
    · exact ⟨rfl, rfl, rfl⟩
    · cases List.mem_singleton.1 hmem
      exact ⟨rfl, rfl, rfl⟩

namespace Failure

/-- While a machine is registered, and with options that cannot be written, no call is made. -/
theorem uncalled (hfailure : bid.Failure id thread first exchanges error)
    (hhopeless : (first.incumbent id).isSome ∨ bid.HasZero) : exchanges = [] := by
  have hwritable : ∀ {version options arguments}, first.incumbent id = none →
      options.arguments version = .ok arguments →
      ¬ ((first.incumbent id).isSome ∨ (create version options).HasZero) := by
    rintro version options arguments hvacant harguments (hrunning | hzero)
    · rw [hvacant] at hrunning
      cases hrunning
    · obtain ⟨error, herror⟩ := (Startup.OptionList.arguments_eq_error_iff version).2 hzero
      cases harguments.symm.trans herror
  cases hfailure with
  | null | invalid | running | unwritable => rfl
  | uncreated hvacant harguments => exact absurd hhopeless (hwritable hvacant harguments)
  | undelivered hvacant harguments => exact absurd hhopeless (hwritable hvacant harguments)
  | unregistered hvacant harguments => exact absurd hhopeless (hwritable hvacant harguments)
  | unadopted hvacant =>
    rw [hvacant] at hhopeless
    rcases hhopeless with hrunning | hzero
    · cases hrunning
    · exact hzero.elim

/-- The machine that was delivered is asked to shut down, once, and no other one is. -/
theorem destroyed (hfailure : bid.Failure id thread first exchanges error) :
    exchanges.filterMap Exchange.destroyed? =
      (exchanges.findSome? Exchange.delivered?).toList := by
  cases hfailure with
  | null | invalid | running | unwritable | uncreated | undelivered => rfl
  | unregistered _ _ hrefusal =>
    have hminor := List.filterMap_eq_nil_iff.2 fun exchange hmem ↦
      (refusal_minor hrefusal exchange hmem).destroyed
    simp [List.filterMap_cons, List.findSome?_cons, Exchange.destroyed?, Exchange.delivered?,
      hminor]
  | unadopted _ hrefusal =>
    rw [findSome?_minor (refusal_minor hrefusal) fun _ hminor ↦ hminor.delivered]
    exact List.filterMap_eq_nil_iff.2 fun exchange hmem ↦
      (refusal_minor hrefusal exchange hmem).destroyed

/-- Nothing is delivered to whoever adopts. -/
theorem delivered_of_adopts (hfailure : bid.Failure id thread first exchanges error)
    (hadopts : bid.adopts = true) : exchanges.findSome? Exchange.delivered? = none := by
  cases hfailure with
  | null | invalid | running => rfl
  | unwritable | uncreated | undelivered | unregistered => cases hadopts
  | unadopted _ hrefusal =>
    exact findSome?_minor (refusal_minor hrefusal) fun _ hminor ↦ hminor.delivered

/-- If a machine was delivered, the error is that it has refused the running thread. -/
theorem cause (hfailure : bid.Failure id thread first exchanges error) {vm : VmId}
    (hdelivered : exchanges.findSome? Exchange.delivered? = some vm) :
    ∃ status begun, error = .attachFailed status ∧ Refusal thread vm begun status ∧
      begun <:+: exchanges := by
  cases hfailure with
  | null | invalid | running | unwritable | uncreated | undelivered => cases hdelivered
  | @unregistered _ _ _ _ _ _ _ begun status _ _ _ hrefusal =>
    cases hdelivered
    exact ⟨status, begun, rfl, hrefusal, [_], [_], rfl⟩
  | unadopted _ hrefusal =>
    rw [findSome?_minor (refusal_minor hrefusal) fun _ hminor ↦ hminor.delivered] at hdelivered
    cases hdelivered

end Failure

/-- A bid that fails is as if it had not been made. -/
structure Undone (bid : Bid) (id : LifecycleId) (thread : NativeThread) (first : Moment ω)
    (exchanges : List (Exchange ω)) (error : Error) (last : Moment ω) : Prop where
  /-- What is registered and how many threads count as attached is as before. -/
  lifecycle : last.bridge.lifecycle id = first.bridge.lifecycle id
  /-- What the running thread keeps is as before, its pending detaches among it. -/
  kept : last.bridge.thread thread.id = first.bridge.thread thread.id
  /-- The bid has failed in one of the known ways. -/
  failure : bid.Failure id thread first exchanges error
  /-- If a machine is registered or an option cannot be written, nothing was called. -/
  uncalled : (first.incumbent id).isSome ∨ bid.HasZero → exchanges = []
  /-- A machine that was delivered was asked to shut down once, whatever it answered, and no other
  one was. -/
  destroyed : exchanges.filterMap Exchange.destroyed? =
    (exchanges.findSome? Exchange.delivered?).toList
  /-- An adoption asks no machine to shut down. -/
  adopted : bid.adopts = true → exchanges.filterMap Exchange.destroyed? = []
  /-- If a machine was delivered, the error is the one with which it could not be registered. -/
  cause : ∀ vm, exchanges.findSome? Exchange.delivered? = some vm →
    ∃ status begun, error = .attachFailed status ∧ Refusal thread vm begun status ∧
      begun <:+: exchanges
  /-- A later bid cannot be told from one that is made in place of this one, neither by the running
  thread nor by any other that has been left alone meanwhile. -/
  later : ∀ (next : Bid) (running : NativeThread),
    last.bridge.thread running.id = first.bridge.thread running.id →
      next.Echoes id running first last

/-- However a bid fails, it is as if it had not been made. -/
theorem undone {last : Moment ω}
    (hrun : (bid.program id).run.Run thread first exchanges (.error error) last)
    (hsecluded : ∀ exchange ∈ exchanges, exchange.Secluded id) :
    bid.Undone id thread first exchanges error last := by
  have huntouched : ∀ {κ : Type} (view : Bridge → κ), Unnumbered view →
      (∀ exchange ∈ exchanges, exchange.Keeps view) →
      view last.bridge = view first.bridge ∧ bid.Failure id thread first exchanges error :=
    fun view hview hkeeps ↦ bid.ensures_untouched hview exchanges _ last hrun hkeeps error rfl
  obtain ⟨hlifecycle, hfailure⟩ := huntouched (fun bridge ↦ bridge.lifecycle id) (fun _ _ ↦ rfl)
    fun exchange hmem ↦ (hsecluded exchange hmem).lifecycle
  obtain ⟨hkept, -⟩ := huntouched (fun bridge ↦ bridge.thread thread.id) (fun _ _ ↦ rfl) <| by
    intro exchange hmem
    have hthread := (hsecluded exchange hmem).thread
    rw [hrun.caller hmem] at hthread
    exact hthread
  refine ⟨hlifecycle, hkept, hfailure, hfailure.uncalled, hfailure.destroyed, ?_,
    fun vm hdelivered ↦ hfailure.cause hdelivered, ?_⟩
  · intro hadopts
    rw [hfailure.destroyed, hfailure.delivered_of_adopts hadopts, Option.toList_none]
  · intro next running hrunning
    exact next.echoes (.of_eq hlifecycle.symm hrunning.symm)

end Bid

namespace Sample

/-- The answers of a machine that can be created, that no thread can be attached to and that does
not want to be destroyed. -/
def aloof : (request : Call) → request.Reply
  | .create _ => .ok (some vm)
  | .getEnv .. | .destroy _ => .error .unknown
  | request => nothing request

end Sample

omit [Host] in
/-- A machine is created that refuses the running thread and that cannot be destroyed either. -/
theorem Bid.undone_aloof :
    let _ := Sample.host
    let bid := Bid.create .v1_8 { }
    let first : Moment Unit := ⟨{ }, ()⟩
    ∃ exchanges last,
      (bid.program .shared).run.Run Sample.thread first exchanges (.error (.attachFailed .unknown))
        last ∧ (∀ exchange ∈ exchanges, exchange.Secluded .shared) ∧
      exchanges.filterMap Exchange.destroyed? = [Sample.vm] ∧
      bid.Undone .shared Sample.thread first exchanges (.attachFailed .unknown) last := by
  intro _ bid first
  let played := (bid.program .shared).run.play (.answering Sample.aloof) Sample.thread first
  have hresult : played.2.1 = .error (.attachFailed .unknown) := rfl
  have hrun : (bid.program .shared).run.Run Sample.thread first played.1
      (.error (.attachFailed .unknown)) played.2.2 := by
    rw [← hresult]
    exact Program.run_play _ _
  have hsecluded : ∀ exchange ∈ played.1, exchange.Secluded .shared :=
    Program.lawful_play _ fun _ _ ↦ ⟨rfl, rfl⟩
  exact ⟨played.1, played.2.2, hrun, hsecluded, by decide +kernel, Bid.undone hrun hsecluded⟩

end JavaInterop
