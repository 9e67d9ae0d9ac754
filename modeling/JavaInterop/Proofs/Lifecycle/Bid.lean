import JavaInterop.Proofs.Lifecycle.Turn

/-!
# Bids for a machine

A bid is an attempt to have a machine registered, by creating one or by adopting one.  A bid can
fail before a machine exists, while it is created, and after that, while the running thread is
attached to it.  `Bid.Failure` lists the ways in which it does, each with the calls that were made
by then.  A bid that fails has written nothing but the number of the next registration, so it leaves
behind what it found.

What is left alone is said by a view of the bridge.  Nothing is assumed but that nobody else changes
what can be seen in this view while a call is under way.
-/

namespace JavaInterop

/-! ## Bids -/

/-- An attempt to have a machine registered. -/
inductive Bid where
  | create (version : Version) (options : Startup.OptionList)
  | adopt (vm : Option VmId) (version : Version)

variable [Host] {ω κ : Type}

/-- What is run for a bid. -/
def Bid.program (id : LifecycleId) : Bid → Fallible Unit
  | create version options => id.create version options
  | adopt vm version => id.adopt vm version

/-- During the call nobody else changes what can be seen of the bridge. -/
def Exchange.Keeps (view : Bridge → κ) (exchange : Exchange ω) : Prop :=
  view exchange.after.bridge = view exchange.before.bridge

/-- A view that does not see the number of the next registration. -/
def Unnumbered (view : Bridge → κ) : Prop :=
  ∀ bridge number, view { bridge with nextGeneration := number } = view bridge

/-! ## Ways to fail -/

/-- A machine refuses the running thread, either when it is asked for the environment of the thread
or when it is asked to attach it. -/
inductive Refusal (thread : NativeThread) (vm : VmId) : List (Exchange ω) → Status → Prop
  | environment {version : Version} {status : Status} {before after : Moment ω}
      (hstatus : status ≠ .threadDetached) :
      Refusal thread vm [⟨thread, .getEnv vm version, .error status, before, after⟩] status
  | attachment {version : Version} {request : AttachRequest} {status : Status}
      {before between after : Moment ω} :
      Refusal thread vm [⟨thread, .getEnv vm version, .error .threadDetached, before, between⟩,
        ⟨thread, .attach vm request, .error status, between, after⟩] status

/-- The ways in which a bid fails, with what was called by then and why. -/
inductive Bid.Failure (id : LifecycleId) (thread : NativeThread) (first : Moment ω) :
    Bid → List (Exchange ω) → Error → Prop
  | null {version : Version} :
      Failure id thread first (.adopt none version) [] (.nullPointer "JavaVM::from_raw ptr")
  | invalid {vm : VmId} {version : Version} (hinvalid : version.isValid = false) :
      Failure id thread first (.adopt (some vm) version) []
        (.bridge "Unable to adopt the virtual machine: its JNI version is 0")
  | running {bid : Bid} (hrunning : (first.incumbent id).isSome) :
      Failure id thread first bid [] .vmRunning
  | unwritable {version : Version} {options : Startup.OptionList} {error : Error}
      (harguments : options.arguments version = .error error) :
      Failure id thread first (.create version options) [] error
  | uncreated {version : Version} {options : Startup.OptionList} {arguments : Startup.Arguments}
      {status : Status} {after : Moment ω} (hvacant : first.incumbent id = none)
      (harguments : options.arguments version = .ok arguments) :
      Failure id thread first (.create version options)
        [⟨thread, .create arguments, .error status, first, after⟩] (.vmCreation status)
  | undelivered {version : Version} {options : Startup.OptionList}
      {arguments : Startup.Arguments} {after : Moment ω} (hvacant : first.incumbent id = none)
      (harguments : options.arguments version = .ok arguments) :
      Failure id thread first (.create version options)
        [⟨thread, .create arguments, .ok none, first, after⟩]
        (.nullPointer "JavaVM::from_raw ptr")
  | unregistered {version : Version} {options : Startup.OptionList}
      {arguments : Startup.Arguments} {vm : VmId} {created middle after : Moment ω}
      {begun : List (Exchange ω)} {status : Status} {answer : Except Status Unit}
      (hvacant : first.incumbent id = none)
      (harguments : options.arguments version = .ok arguments)
      (hrefusal : Refusal thread vm begun status) :
      Failure id thread first (.create version options)
        (⟨thread, .create arguments, .ok (some vm), first, created⟩ :: begun ++
          [⟨thread, .destroy vm, answer, middle, after⟩]) (.attachFailed status)
  | unadopted {vm : VmId} {version : Version} {begun : List (Exchange ω)} {status : Status}
      (hvacant : first.incumbent id = none) (hrefusal : Refusal thread vm begun status) :
      Failure id thread first (.adopt (some vm) version) begun (.attachFailed status)

open Program (Ensures)

variable {id : LifecycleId} {thread : NativeThread} {first : Moment ω} {view : Bridge → κ}

/-! ## How a bid fails -/

/-- If an operation fails, what can be seen of the bridge is as it was, and the calls and the error
are as given. -/
def Untouched (view : Bridge → κ) (first : Moment ω) {α : Type}
    (failure : List (Exchange ω) → Error → Prop) (exchanges : List (Exchange ω))
    (result : Except Error α) (last : Moment ω) : Prop :=
  ∀ error, result = .error error →
    view last.bridge = view first.bridge ∧ failure exchanges error

theorem Untouched.of_ok {last : Moment ω} {α : Type} {value : α}
    {failure : List (Exchange ω) → Error → Prop} {exchanges : List (Exchange ω)} :
    Untouched view first failure exchanges (.ok value) last := by
  intro error herror
  cases herror

theorem ensures_attachTo_untouched (registration : Registration) (config : AttachConfig) :
    Ensures (Exchange.Keeps view) thread (id.attachTo registration config).run first
      (Untouched view first fun exchanges error ↦ ∃ status, error = .attachFailed status ∧
        Refusal thread registration.vm exchanges status) := by
  refine (id.ensures_attachTo_approach config).weaken fun exchanges result last happroach ↦ ?_
  cases happroach with
  | present => exact .of_ok
  | admitted => exact .of_ok
  | unclear hstatus hasked =>
    rintro _ ⟨rfl⟩
    exact ⟨hasked, _, rfl, .environment hstatus⟩
  | refused hasked hattached =>
    rintro _ ⟨rfl⟩
    exact ⟨Eq.trans hattached hasked, _, rfl, .attachment⟩

/-- Once the running thread is attached, registering a machine cannot fail any more. -/
theorem ensures_register_untouched (hview : Unnumbered view) (vm : VmId) (version : Version)
    (owned : Bool) :
    Ensures (Exchange.Keeps view) thread (id.register vm version owned).run first
      (Untouched view first fun exchanges error ↦ ∃ status, error = .attachFailed status ∧
        Refusal thread vm exchanges status) := by
  rw [LifecycleId.ensures_register_iff]
  refine (ensures_attachTo_untouched _ _).weaken ?_
  rintro begun (error | ⟨pointer, attachedHere⟩) middle huntouched
  · obtain ⟨hmiddle, hrefusal⟩ := huntouched error rfl
    rintro _ ⟨rfl⟩
    exact ⟨hmiddle.trans (hview _ _), hrefusal⟩
  · exact Program.ensures_perform.2 fun _ _ _ ↦ .of_ok

theorem ensures_create_untouched (hview : Unnumbered view) (version : Version)
    (options : Startup.OptionList) :
    Ensures (Exchange.Keeps view) thread (id.create version options).run first
      (Untouched view first (Bid.Failure id thread first (.create version options))) := by
  refine LifecycleId.ensures_create_of ?running ?unwritable ?uncreated ?undelivered ?created
  case running =>
    rintro hrunning _ ⟨rfl⟩
    exact ⟨rfl, .running (incumbent_isSome_iff.2 hrunning)⟩
  case unwritable =>
    rintro _ - harguments _ ⟨rfl⟩
    exact ⟨rfl, .unwritable harguments⟩
  case uncreated =>
    rintro arguments status created hvacant harguments hcreated _ ⟨rfl⟩
    exact ⟨hcreated, .uncreated (incumbent_eq_none_iff.2 hvacant) harguments⟩
  case undelivered =>
    rintro arguments created hvacant harguments hcreated _ ⟨rfl⟩
    exact ⟨hcreated, .undelivered (incumbent_eq_none_iff.2 hvacant) harguments⟩
  case created =>
    intro arguments vm created hvacant harguments hcreated
    refine (ensures_register_untouched hview vm version true).weaken ?_
    rintro begun (error | registration) middle huntouched
    · -- A machine that was created is asked to shut down, and the error does not tell of that.
      obtain ⟨hmiddle, status, rfl, hrefusal⟩ := huntouched error rfl
      refine Program.ensures_perform.2 fun answer last hlast ↦ ?_
      rintro _ ⟨rfl⟩
      refine ⟨Eq.trans hlast (hmiddle.trans hcreated), ?_⟩
      exact .unregistered (incumbent_eq_none_iff.2 hvacant) harguments hrefusal
    · exact .of_ok

theorem ensures_adopt_untouched (hview : Unnumbered view) (vm : Option VmId) (version : Version) :
    Ensures (Exchange.Keeps view) thread (id.adopt vm version).run first
      (Untouched view first (Bid.Failure id thread first (.adopt vm version))) := by
  refine LifecycleId.ensures_adopt_of ?null ?invalid ?running ?adopted
  case null =>
    rintro rfl _ ⟨rfl⟩
    exact ⟨rfl, .null⟩
  case invalid =>
    rintro hsome hinvalid _ ⟨rfl⟩
    obtain ⟨vm, rfl⟩ := Option.ne_none_iff_exists'.1 hsome
    exact ⟨rfl, .invalid hinvalid⟩
  case running =>
    rintro _ _ hrunning _ ⟨rfl⟩
    exact ⟨rfl, .running (incumbent_isSome_iff.2 hrunning)⟩
  case adopted =>
    rintro vm rfl - hvacant
    refine (ensures_register_untouched hview vm version false).weaken ?_
    rintro begun (error | registration) middle huntouched
    · obtain ⟨hmiddle, status, rfl, hrefusal⟩ := huntouched error rfl
      rintro _ ⟨rfl⟩
      exact ⟨hmiddle, .unadopted (incumbent_eq_none_iff.2 hvacant) hrefusal⟩
    · exact .of_ok

theorem Bid.ensures_untouched (hview : Unnumbered view) (bid : Bid) :
    Ensures (Exchange.Keeps view) thread (bid.program id).run first
      (Untouched view first (bid.Failure id thread first)) := by
  cases bid with
  | create version options => exact ensures_create_untouched hview version options
  | adopt vm version => exact ensures_adopt_untouched hview vm version

end JavaInterop
