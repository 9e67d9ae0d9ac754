import JavaInterop.Proofs.Environment.Conduct
import JavaInterop.Proofs.Lifecycle.Rules

/-!
# What the operations of the bridge do in a setting

Some operations make use of what the bridge keeps, or change what is registered.  Looking up a class
hands a kept class or the class loader of the thread to a machine, and so it depends on where these
come from.  Giving them up needs no such condition, since a reference is only deleted by the machine
that it was issued by.

A generation is drawn when a machine is about to be registered, and it is registered at the end.
Much may happen in between, and a setting must bear it.
-/

namespace JavaInterop

variable [Host] {ω α : Type} {setting : Setting ω} {env : Env}

/-- The references that an operation is given by its caller. -/
def Operation.given : Operation → List Handle
  | findMethod reference .. | registerNatives reference _ | getString reference
  | arrayElement reference _ | describe reference | className reference | unbox reference _
  | isInstance _ reference | cast _ reference => reference.toList
  | callObject receiver _ arguments | callVoid receiver _ arguments
  | callPrimitive _ receiver _ arguments | callStaticObject receiver _ arguments
  | callStaticVoid receiver _ arguments | newObject receiver _ arguments =>
    receiver.toList ++ arguments.filterMap Argument.handle?
  | toObject (.object (some reference)) => reference.raw.toList
  | registerCallback builder .. | instantiate builder | build builder _ =>
    builder.invocation.raw.toList
  | _ => []

/-- What the classes are filed under that an operation looks up. -/
def Operation.looksUp : Operation → List DescriptorKey
  | classOf descriptor => [descriptor.key]
  | isInstance type _ | cast type _ | build _ type => [type.descriptor.key]
  | isAssignable sub sup => [sub.descriptor.key, sup.descriptor.key]
  | _ => []

namespace Setting

variable (setting) in
/-- The shutdown hook may be meant for this registration, or for none. -/
def Hooks (hooked : Option (LifecycleId × Nat)) : Prop :=
  ∀ moment, setting.good moment →
    setting.later moment ⟨{ moment.bridge with hooked := hooked }, moment.outside⟩

/-! ## Looking up classes -/

variable (setting) in
/-- If there is a class under the key that can be used, or a class loader, the machine of the
environment knows it. -/
def Offers (env : Env) (key : DescriptorKey) : Prop :=
  ∀ moment, setting.good moment → ∀ reference, moment.bridge.isUsable reference = true →
    (moment.bridge.classes.find? key = some reference ∨
      (moment.bridge.thread setting.thread.id).loader = some reference) →
    setting.Knows env reference.raw

omit [Host] in
/-- A reference that was kept, if there is one, satisfies this. -/
theorem of_filter_eq_some {option : Option GlobalReference} {usable : GlobalReference → Bool}
    {reference : GlobalReference} (hfilter : option.filter usable = some reference) :
    option = some reference ∧ usable reference = true :=
  Option.filter_eq_some_iff.1 hfilter

namespace Admits

theorem currentClassLoader {key : DescriptorKey} (hoffers : setting.Offers env key) :
    setting.Admits currentClassLoader fun loader ↦
      ∀ reference, loader = some reference → setting.Knows env reference.raw := by
  refine current.bind fun running hrunning ↦ ?_
  subst hrunning
  refine (shift fun bridge ↦ shifts_setThread bridge _ (.inr (touch_loader _ _))).bind fun _ _ ↦ ?_
  refine state fun moment hgood ↦ done ?_
  intro reference hloader
  obtain ⟨hkept, husable⟩ := of_filter_eq_some hloader
  exact hoffers moment hgood reference husable (.inr hkept)

/-- What comes after a look at the bridge and a change of it happens later than the look. -/
theorem stateThenUpdate (change : Bridge → Bridge → Bridge) {next : Bridge → Program α}
    {wanted : α → Prop}
    (hlater : ∀ moment, setting.good moment →
      setting.later moment ⟨change moment.bridge moment.bridge, moment.outside⟩)
    (hnext : ∀ moment, setting.good moment →
      (setting.since moment).Admits (next moment.bridge) wanted) :
    setting.Admits (do
      let bridge ← Program.state
      Program.update (change bridge)
      next bridge) wanted := by
  intro first hgood
  have hchange := hlater first hgood
  rw [Program.ensures_bind, Program.ensures_state, Program.ensures_bind, Program.ensures_update]
  refine (hnext first hgood _ ⟨setting.stays hgood hchange, hchange⟩).weaken ?_
  rintro exchanges result last ⟨hlast, hexchanges, hwanted⟩
  refine ⟨setting.trans hchange hlast, fun exchange hmem ↦ ?_, hwanted⟩
  exact ⟨setting.trans hchange (hexchanges exchange hmem).1, (hexchanges exchange hmem).2⟩

/-- The loader that was there before may be deleted from then on. -/
theorem exchangeClassLoaderThen (htrusts : setting.trusts env) {loader : Option GlobalReference}
    (hloader : ∀ reference, loader = some reference → IssuedThrough setting.own env reference)
    {next : Option GlobalReference → Program α} {wanted : α → Prop}
    (hnext : ∀ moment previous,
      (∀ reference, previous = some reference →
        Deletable setting.known (setting.since moment).good reference) →
      (setting.since moment).Admits (next previous) wanted) :
    setting.Admits (exchangeClassLoader loader >>= next) wanted := by
  unfold JavaInterop.exchangeClassLoader
  simp only [bind_assoc, pure_bind]
  refine current.bind fun running hrunning ↦ ?_
  subst hrunning
  refine stateThenUpdate (fun bridge later ↦ later.setThread setting.thread.id
    { (bridge.thread setting.thread.id).touch .classLoader with loader := loader })
    (fun moment hgood ↦ ?_) fun moment hgood ↦ hnext moment _ ?_
  · cases loader with
    | none => exact setting.shift hgood (shifts_setThread _ _ (.inl rfl))
    | some reference => exact setting.keepLoader hgood htrusts (hloader reference rfl) rfl
  · intro reference hprevious
    exact setting.kept hgood (.loader ((touch_loader _ _).symm.trans hprevious))

/-- The class that was kept before may be deleted from then on. -/
theorem keepThen (htrusts : setting.trusts env) (descriptor : ClassDescriptor)
    {reference : GlobalReference} (hissued : IssuedThrough setting.own env reference)
    {next : Option GlobalReference → Program α} {wanted : α → Prop}
    (hnext : ∀ moment previous,
      (∀ reference, previous = some reference →
        Deletable setting.known (setting.since moment).good reference) →
      (setting.since moment).Admits (next previous) wanted) :
    setting.Admits (descriptor.keep reference >>= next) wanted := by
  unfold ClassDescriptor.keep
  simp only [bind_assoc, pure_bind]
  refine stateThenUpdate (fun _ later ↦
    { later with classes := later.classes.insert descriptor.key reference })
    (fun moment hgood ↦ ?_) fun moment hgood ↦ hnext moment _ ?_
  · exact setting.keepClass descriptor.key hgood htrusts hissued
  · intro previous hprevious
    exact setting.kept hgood (.classObject descriptor.key hprevious)

/-- A kept reference that is given up. -/
theorem dropKept {previous : Option GlobalReference}
    (hprevious : ∀ reference, previous = some reference →
      Deletable setting.known setting.good reference) :
    setting.Admits (match previous with
      | some reference => reference.drop
      | none => pure ()) fun _ ↦ True := by
  cases previous with
  | none => exact done trivial
  | some reference => exact drop (hprevious reference rfl)

end Admits

namespace Performs

/-- The loader that was there before is given up. -/
theorem exchangeThenDrop (htrusts : setting.trusts env) {made : Option GlobalReference}
    (hissued : ∀ reference, made = some reference → IssuedThrough setting.own env reference)
    {next : Option GlobalReference → Fallible Unit} (hnone : next none = pure ())
    (hsome : ∀ reference, next (some reference) = liftM reference.drop) :
    setting.Performs env (liftM (exchangeClassLoader made) >>= next) fun _ ↦ True := by
  rw [Performs, Fallible.run_lift_bind]
  refine Admits.exchangeClassLoaderThen htrusts hissued fun moment previous hprevious ↦ ?_
  cases previous with
  | none =>
    rw [hnone]
    exact Admits.succeed trivial
  | some reference =>
    rw [hsome]
    exact Admits.lift (Admits.drop (hprevious reference rfl))

theorem setClassLoader (htrusts : setting.trusts env) {loader : Option Handle}
    (hloader : setting.Knows env loader) :
    setting.Performs env (setClassLoader env loader) fun _ ↦ True := by
  cases loader with
  | none =>
    have hnothing : ∀ reference, (none : Option GlobalReference) = some reference →
        IssuedThrough setting.own env reference := nofun
    exact exchangeThenDrop htrusts hnothing rfl fun _ ↦ rfl
  | some handle =>
    have hmade : setting.Performs env (some <$> env.newGlobal (some handle)) fun made ↦
        ∀ reference, made = some reference → IssuedThrough setting.own env reference := by
      rw [← bind_pure_comp]
      refine (newGlobal hloader).andThen fun reference hissued ↦ Admits.succeed ?_
      rintro made ⟨rfl⟩
      exact hissued
    exact hmade.andThen fun made hissued ↦
      exchangeThenDrop htrusts hissued rfl fun _ ↦ rfl

theorem loadThrough (htrusts : setting.trusts env) (descriptor : ClassDescriptor)
    {loader : GlobalReference} (hloader : setting.Knows env loader.raw) :
    setting.Performs env (descriptor.loadThrough env loader) (setting.Holds env) := by
  refine (findClass htrusts _).andScope fun loaderClass hclass ↦ ?_
  refine (findMethod hclass.knows _ _ _).andThen fun loadClass _ ↦ ?_
  refine (newString htrusts _).andScope fun name hname ↦ ?_
  refine (callObject htrusts hloader ?_ loadClass).andThen ?_
  · intro argument hmem
    cases List.mem_singleton.1 hmem
    exact hname.knows
  · rintro (_ | classObject) hanswer
    · exact fail rfl
    · exact Admits.succeed (hanswer classObject rfl)

/-- Looking up a class hands over what is kept only if the machine knows it. -/
theorem find (htrusts : setting.trusts env) {descriptor : ClassDescriptor}
    (hoffers : setting.Offers env descriptor.key) :
    setting.Performs env (descriptor.find env) (setting.Holds env) := by
  unfold ClassDescriptor.find
  rw [Performs, Fallible.run_lift_bind]
  refine Admits.state fun moment hgood ↦ ?_
  split
  · rename_i kept hkept
    obtain ⟨hfound, husable⟩ := of_filter_eq_some hkept
    exact newLocal (hoffers moment hgood kept husable (.inl hfound))
  · have hresolve : setting.Performs env (descriptor.resolve env) (setting.Holds env) := by
      refine (Admits.currentClassLoader hoffers).liftThen ?_
      rintro (_ | loader) hloader
      · exact findClass htrusts _
      · exact loadThrough htrusts descriptor (hloader loader rfl)
    refine hresolve.andThen fun classObject hclass ↦ ?_
    refine ((newGlobal hclass.knows).mapFailure fun error hblames ↦
      (Admits.dropHeld hclass).bind fun _ _ ↦ Admits.done hblames).andThen ?_
    intro reference hissued
    rw [Fallible.run_lift_bind]
    refine Admits.keepThen htrusts descriptor hissued fun moment previous hprevious ↦ ?_
    cases previous with
    | none => exact Admits.succeed hclass
    | some previous =>
      exact (Admits.drop (hprevious previous rfl)).liftThen fun _ _ ↦ Admits.succeed hclass

section

variable {object : Option Handle}

theorem isInstance (htrusts : setting.trusts env) {type : ProxyType}
    (hoffers : setting.Offers env type.descriptor.key) (hobject : setting.Knows env object) :
    setting.Performs env (type.isInstance env object) fun _ ↦ True := by
  unfold ProxyType.isInstance
  split
  · exact Admits.succeed trivial
  · exact (find htrusts hoffers).andScope fun _ hclass ↦ isInstanceOf hobject hclass.knows

theorem cast (htrusts : setting.trusts env) {type : ProxyType}
    (hoffers : setting.Offers env type.descriptor.key) (hobject : setting.Knows env object) :
    setting.Performs env (type.cast env object) fun _ ↦ True := by
  refine (isInstance htrusts hoffers hobject).andThen fun fits _ ↦ ?_
  split
  · exact (newGlobal hobject).andThen fun _ _ ↦ Admits.succeed trivial
  · exact fail rfl

end

theorem isAssignable (htrusts : setting.trusts env) {sub sup : ProxyType}
    (hsub : setting.Offers env sub.descriptor.key) (hsup : setting.Offers env sup.descriptor.key) :
    setting.Performs env (sub.isAssignable sup env) fun _ ↦ True := by
  refine (find htrusts hsub).andScope fun subClass hsubClass ↦ ?_
  refine (find htrusts hsup).andScope fun supClass hsupClass ↦ ?_
  exact isAssignableFrom hsubClass.knows hsupClass.knows

/-! ## Implementing interfaces -/

theorem instantiate (htrusts : setting.trusts env) {builder : Builder}
    (hinvocation : setting.Knows env builder.invocation.raw) :
    setting.Performs env (builder.instantiate env) (setting.Holds env) := by
  refine (withReason htrusts _ (callObject htrusts hinvocation none_of_arguments _)).andThen ?_
  rintro (_ | object) hanswer
  · exact fail rfl
  · exact Admits.succeed (hanswer object rfl)

theorem build (htrusts : setting.trusts env) {builder : Builder} {type : ProxyType}
    (hoffers : setting.Offers env type.descriptor.key)
    (hinvocation : setting.Knows env builder.invocation.raw) :
    setting.Performs env (builder.build env type) fun _ ↦ True := by
  refine (instantiate htrusts hinvocation).andScope fun object hobject ↦ ?_
  refine (isInstance htrusts hoffers hobject.knows).andThen fun fits _ ↦ ?_
  split
  · exact (newGlobal hobject.knows).andThen fun _ _ ↦ Admits.succeed trivial
  · exact fail rfl

theorem nativeMethod (name signature : String) (function : NativeFunction) :
    setting.Performs env (ExceptT.mk (pure (NativeMethod.of name signature function)))
      fun _ ↦ True := by
  refine Admits.done ?_
  unfold NativeMethod.of
  dsimp only
  cases Text.CString.ofText name with
  | error position => exact blames_of_plain rfl
  | ok endedName =>
    cases Text.CString.ofText signature with
    | error position => exact blames_of_plain rfl
    | ok endedSignature => trivial

theorem bindForwarding (htrusts : setting.trusts env) :
    setting.Performs env (bindForwarding env) fun _ ↦ True := by
  unfold JavaInterop.bindForwarding
  rw [Performs, Fallible.run_lift_bind]
  refine Admits.state fun moment _ ↦ ?_
  split
  · exact Admits.succeed trivial
  · refine (findClass htrusts _).andScope fun classObject hclass ↦ ?_
    refine (nativeMethod _ _ _).andThen fun method _ ↦ ?_
    refine (withReason htrusts _ (registerNatives htrusts hclass.knows _)).andThen fun _ _ ↦ ?_
    refine Admits.lift (Admits.shift fun bridge ↦ ?_)
    exact .of_same (Nat.le_refl _) rfl rfl rfl rfl

theorem newBuilder (htrusts : setting.trusts env) (interface : String) :
    setting.Performs env (Builder.new env interface) fun _ ↦ True := by
  refine (bindForwarding htrusts).andThen fun _ _ ↦ ?_
  refine (findClass htrusts _).andScope fun classObject hclass ↦ ?_
  refine (findMethod hclass.knows _ _ _).andThen fun registerMethod _ ↦ ?_
  refine (findMethod hclass.knows _ _ _).andThen fun createMethod _ ↦ ?_
  refine (findMethod hclass.knows _ _ _).andThen fun constructor _ ↦ ?_
  refine (newString htrusts _).andScope fun name hname ↦ ?_
  have harguments : ∀ argument ∈ [Argument.reference name.raw],
      setting.Knows env argument.handle? := by
    intro argument hmem
    cases List.mem_singleton.1 hmem
    exact hname.knows
  have hobject := newObject htrusts hclass.knows harguments constructor
  refine (withReason htrusts _ hobject).andScope fun object hobject ↦ ?_
  refine (newGlobal hobject.knows).andThen fun invocation _ ↦ ?_
  have htable : setting.Admits (newTable env.lifecycle) fun _ ↦ True := by
    refine Admits.state fun moment _ ↦ ?_
    refine Admits.bind (Admits.shift fun bridge ↦ ?_) fun _ _ ↦ Admits.done trivial
    exact .of_same (Nat.le_refl _) rfl rfl rfl rfl
  exact htable.liftThen fun _ _ ↦ Admits.succeed trivial

theorem registerCallback (htrusts : setting.trusts env) {builder : Builder}
    (hinvocation : setting.Knows env builder.invocation.raw) (name : String)
    (callback : Host.Callback) :
    setting.Performs env (builder.register env name callback) fun _ ↦ True := by
  have hsize : setting.Admits builder.size fun _ ↦ True :=
    Admits.state fun _ _ ↦ Admits.done trivial
  refine hsize.liftThen fun index _ ↦ ?_
  refine (newString htrusts _).andScope fun javaName hname ↦ ?_
  refine (withReason htrusts _ (callVoid htrusts hinvocation ?_ _)).andThen fun _ _ ↦ ?_
  · intro argument hmem
    simp only [List.mem_cons, List.not_mem_nil, or_false] at hmem
    rcases hmem with rfl | rfl | rfl
    · exact hname.knows
    · exact knows_none
    · exact knows_none
  · refine Admits.lift (Admits.shift fun bridge ↦ ?_)
    split
    · exact .of_same (Nat.le_refl _) rfl rfl rfl rfl
    · exact .of_same (Nat.le_refl _) rfl rfl rfl rfl

/-! ## Forgetting a machine that shuts down -/

theorem registerShutdownHook (htrusts : setting.trusts env)
    (hhook : setting.Hooks (some (env.lifecycle, env.generation))) :
    setting.Performs env (registerShutdownHook env) fun _ ↦ True := by
  refine (findClass htrusts _).andScope fun classObject hclass ↦ ?_
  refine (nativeMethod _ _ _).andThen fun method _ ↦ ?_
  refine (withReason htrusts _ (registerNatives htrusts hclass.knows _)).andThen fun _ _ ↦ ?_
  refine (findMethod hclass.knows _ _ _).andThen fun register _ ↦ ?_
  refine (withReason htrusts _ (callStaticVoid htrusts hclass.knows none_of_arguments _)).andThen
    fun _ _ ↦ Admits.lift (Admits.update hhook)

end Performs

/-! ## All operations of an environment -/

/-- An operation that is given known references keeps to the setting. -/
theorem Performs.operation (htrusts : setting.trusts env) (operation : Operation)
    (hgiven : ∀ handle ∈ operation.given, setting.known env.pointer.vm handle)
    (hoffers : ∀ key ∈ operation.looksUp, setting.Offers env key)
    (hhook : operation = .registerShutdownHook →
      setting.Hooks (some (env.lifecycle, env.generation))) :
    setting.Performs env (operation.program env) fun _ ↦ True := by
  have hdone {α : Type} {program : Fallible α} {wanted : α → Prop}
      (hperforms : setting.Performs env program wanted) :
      setting.Performs env program fun _ ↦ True := by
    refine hperforms.weaken ?_
    rintro (error | value) hends
    · exact hends
    · trivial
  have hoption {reference : Option Handle}
      (hreference : ∀ handle ∈ reference.toList, setting.known env.pointer.vm handle) :
      setting.Knows env reference :=
    fun handle hhandle ↦ hreference handle (Option.mem_toList.2 hhandle)
  have hreceiver {receiver : Option Handle} {arguments : List Argument}
      (hcall : ∀ handle ∈ receiver.toList ++ arguments.filterMap Argument.handle?,
        setting.known env.pointer.vm handle) :
      setting.Knows env receiver ∧
        ∀ argument ∈ arguments, setting.Knows env argument.handle? := by
    refine ⟨hoption fun handle hmem ↦ hcall handle (List.mem_append_left _ hmem), ?_⟩
    intro argument hmem handle hhandle
    exact hcall handle
      (List.mem_append_right _ (List.mem_filterMap.2 ⟨argument, hmem, hhandle⟩))
  cases operation with
  | findClass internalName => exact hdone (findClass htrusts internalName)
  | findMethod classObject name signature isStatic => exact findMethod (hoption hgiven) _ _ _
  | registerNatives classObject methods =>
    exact registerNatives htrusts (hoption hgiven) methods
  | callObject receiver method arguments =>
    obtain ⟨hobject, harguments⟩ := hreceiver hgiven
    exact hdone (callObject htrusts hobject harguments method)
  | callVoid receiver method arguments =>
    obtain ⟨hobject, harguments⟩ := hreceiver hgiven
    exact callVoid htrusts hobject harguments method
  | callPrimitive kind receiver method arguments =>
    obtain ⟨hobject, harguments⟩ := hreceiver hgiven
    exact callPrimitive htrusts hobject harguments kind method
  | callStaticObject classObject method arguments =>
    obtain ⟨hclass, harguments⟩ := hreceiver hgiven
    exact hdone (callStaticObject htrusts hclass harguments method)
  | callStaticVoid classObject method arguments =>
    obtain ⟨hclass, harguments⟩ := hreceiver hgiven
    exact callStaticVoid htrusts hclass harguments method
  | newObject classObject constructor arguments =>
    obtain ⟨hclass, harguments⟩ := hreceiver hgiven
    exact hdone (newObject htrusts hclass harguments constructor)
  | newString content => exact hdone (newString htrusts content)
  | getString string => exact getString htrusts (hoption hgiven)
  | arrayElement array index => exact hdone (arrayElement htrusts (hoption hgiven) index)
  | describe object => exact describe htrusts (hoption hgiven)
  | className classObject => exact className htrusts (hoption hgiven)
  | raiseNew internalName message => exact raiseNew htrusts internalName message
  | toObject value =>
    refine toObject htrusts ?_
    rintro reference rfl
    exact hoption hgiven
  | unbox object kind => exact unbox htrusts (hoption hgiven) kind
  | classOf descriptor => exact hdone (find htrusts (hoffers _ List.mem_cons_self))
  | isInstance type object =>
    exact isInstance htrusts (hoffers _ List.mem_cons_self) (hoption hgiven)
  | cast type object => exact cast htrusts (hoffers _ List.mem_cons_self) (hoption hgiven)
  | isAssignable sub sup =>
    exact isAssignable htrusts (hoffers _ List.mem_cons_self)
      (hoffers _ (List.mem_cons_of_mem _ List.mem_cons_self))
  | newBuilder interface => exact newBuilder htrusts interface
  | registerCallback builder name callback =>
    exact registerCallback htrusts (hoption hgiven) name callback
  | instantiate builder => exact hdone (instantiate htrusts (hoption hgiven))
  | build builder type => exact build htrusts (hoffers _ List.mem_cons_self) (hoption hgiven)
  | registerShutdownHook => exact registerShutdownHook htrusts (hhook rfl)
  | catchWith registry => exact catchWith htrusts registry
  | withCause text => exact throwWithCause text

namespace Admits

/-! ## Registering and forgetting machines -/

theorem takeRegistration (id : LifecycleId) :
    setting.Admits id.takeRegistration fun _ ↦ True := by
  refine glance.bind fun registration _ ↦ ?_
  dsimp only
  split
  · refine (shift fun bridge ↦ ?_).bind fun _ _ ↦ done trivial
    exact shifts_setLifecycle bridge id (.inl rfl)
  · exact done trivial

theorem teardown (id : LifecycleId) :
    setting.Accepts id.teardown := by
  refine (takeRegistration id).liftThen ?_
  rintro (_ | registration) -
  · exact succeed trivial
  · dsimp only
    split
    · refine (invoke (.destroy registration.vm) fun _ _ hpasses ↦ hpasses).liftThen ?_
      rintro (status | _) -
      · dsimp only
        split
        · exact succeed trivial
        · exact throw trivial
      · exact succeed trivial
    · exact succeed trivial

theorem reset (id : LifecycleId) : setting.Admits id.reset fun _ ↦ True :=
  map _ (takeRegistration id)

theorem cleanup (id : LifecycleId) : setting.Admits id.cleanup fun _ ↦ True := by
  refine glance.bind fun registration _ ↦ ?_
  split
  · refine (teardown id).bind ?_
    rintro (error | _) -
    · exact (complain _).bind fun _ _ ↦ reset id
    · exact done trivial
  · exact reset id

/-- A machine that shuts down is forgotten. -/
theorem signalShutdown (hhook : setting.Hooks none) :
    setting.Admits signalShutdown fun _ ↦ True := by
  refine state fun moment _ ↦ ?_
  have hunhook : setting.Admits (Program.update fun bridge ↦ { bridge with hooked := none })
      fun _ ↦ True := update hhook
  refine hunhook.bind fun _ _ ↦ ?_
  split
  · exact done trivial
  · split
    · exact reset _
    · exact done trivial

end Admits

variable (setting) in
/-- A generation that was drawn may be registered later. -/
def Registers : Prop :=
  ∀ {drawn middle : Moment ω} {registration : Registration} (id : LifecycleId), setting.good drawn →
    registration.generation = drawn.bridge.nextGeneration →
    setting.later
      ⟨{ drawn.bridge with nextGeneration := drawn.bridge.nextGeneration + 1 }, drawn.outside⟩
      middle →
    setting.later drawn
      ⟨middle.bridge.setLifecycle id
        { middle.bridge.lifecycle id with registration := some registration }, middle.outside⟩

variable (setting) in
/-- The program prepares a registration under a generation that it draws at its beginning. -/
def Prepares (body : Fallible Registration) : Prop :=
  ∀ first, setting.good first →
    Program.Ensures setting.law setting.thread body.run first fun exchanges result last ↦
      (setting.later first last ∧
        ∀ exchange ∈ exchanges, setting.later first exchange.before ∧
          setting.Allows exchange.request) ∧
      ∀ registration, result = .ok registration →
        registration.generation = first.bridge.nextGeneration ∧
        setting.later
          ⟨{ first.bridge with nextGeneration := first.bridge.nextGeneration + 1 },
            first.outside⟩ last

theorem shifts_enroll (bridge : Bridge) (id : LifecycleId) (owned attachedHere : Bool) :
    bridge.Shifts (bridge.enroll id owned attachedHere) := by
  unfold Bridge.enroll
  split
  · exact shifts_setLifecycle bridge id (.inr rfl)
  · exact .of_same (Nat.le_refl _) rfl rfl rfl rfl

theorem prepares_register (id : LifecycleId) (vm : VmId) (version : Version) (owned : Bool) :
    setting.Prepares (id.register vm version owned) := by
  intro first hgood
  let drawn : Moment ω :=
    ⟨{ first.bridge with nextGeneration := first.bridge.nextGeneration + 1 }, first.outside⟩
  have hdrawn : setting.later first drawn :=
    setting.shift hgood (.of_same (Nat.le_succ _) rfl rfl rfl rfl)
  have hattach : ∀ registration, setting.Accepts (id.attachTo registration { }) :=
    fun registration ↦ (Admits.attachTo id registration { } fun _ hnone ↦ nomatch hnone).accepts
  have hreport : ∀ pointer, setting.Admits (Program.perform (.env pointer .getVersion))
      fun _ ↦ True := by
    refine fun pointer ↦ Admits.invoke _ ?_
    rintro vm handle ⟨-, hmem⟩
    exact List.not_mem_nil hmem
  rw [LifecycleId.ensures_register_iff]
  refine (hattach _ drawn (setting.stays hgood hdrawn)).weaken ?_
  rintro begun (error | ⟨pointer, attachedHere⟩) middle ⟨hmiddle, hbegun, -⟩
  · refine ⟨⟨setting.trans hdrawn hmiddle, fun exchange hmem ↦ ?_⟩, nofun⟩
    exact (hbegun exchange hmem).imp_left (setting.trans hdrawn)
  · have hmiddle' : setting.good middle := setting.stays (setting.stays hgood hdrawn) hmiddle
    have hcounted := setting.shift hmiddle' (shifts_enroll middle.bridge id owned attachedHere)
    have hasked := setting.trans hmiddle hcounted
    refine (hreport pointer _ (setting.stays hmiddle' hcounted)).weaken ?_
    rintro rest reported last ⟨hlast, hrest, -⟩
    have hafter : setting.later drawn last := setting.trans hasked hlast
    refine ⟨⟨setting.trans hdrawn hafter, fun exchange hmem ↦ ?_⟩, ?_⟩
    · rcases List.mem_append.1 hmem with hmem | hmem
      · exact (hbegun exchange hmem).imp_left (setting.trans hdrawn)
      · exact (hrest exchange hmem).imp_left fun hlater ↦
          setting.trans hdrawn (setting.trans hasked hlater)
    · rintro registration ⟨rfl⟩
      exact ⟨rfl, hafter⟩

/-- A failure may still do something. -/
theorem Prepares.mapFailure {body : Fallible Registration} {change : Error → Program Error}
    (hbody : setting.Prepares body)
    (hchange : ∀ error, setting.Admits (change error) fun _ ↦ True) :
    setting.Prepares (body.mapFailure change) := by
  intro first hgood
  rw [Fallible.ensures_mapFailure]
  refine (hbody first hgood).weaken ?_
  rintro begun (error | registration) middle ⟨⟨hmiddle, hbegun⟩, hprepared⟩
  · refine (hchange error middle (setting.stays hgood hmiddle)).weaken ?_
    rintro rest changed last ⟨hlast, hrest, -⟩
    refine ⟨⟨setting.trans hmiddle hlast, fun exchange hmem ↦ ?_⟩, fun _ hnone ↦ nomatch hnone⟩
    rcases List.mem_append.1 hmem with hmem | hmem
    · exact hbegun exchange hmem
    · exact ⟨setting.trans hmiddle (hrest exchange hmem).1, (hrest exchange hmem).2⟩
  · exact ⟨⟨hmiddle, hbegun⟩, hprepared⟩

namespace Admits

/-- What was prepared is registered. -/
theorem setRegistration (hregisters : setting.Registers) {body : Fallible Registration}
    {change : Registration → Registration} (id : LifecycleId) (hbody : setting.Prepares body)
    (hchange : ∀ registration, (change registration).generation = registration.generation) :
    setting.Admits (do
      let registration ← body
      id.setRegistration (change registration) : Fallible Unit).run
      (Ends (fun _ ↦ True) fun _ ↦ True) := by
  intro first hgood
  rw [Fallible.ensures_bind]
  refine (hbody first hgood).weaken ?_
  rintro begun (error | registration) middle ⟨⟨hmiddle, hbegun⟩, hprepared⟩
  · exact ⟨hmiddle, hbegun, trivial⟩
  · obtain ⟨hgeneration, hdrawn⟩ := hprepared registration rfl
    rw [Fallible.continues_ok, Fallible.ensures_lift, LifecycleId.ensures_setRegistration_iff,
      List.append_nil]
    refine ⟨?_, hbegun, trivial⟩
    exact hregisters id hgood ((hchange registration).trans hgeneration) hdrawn

theorem refuseSecond (id : LifecycleId) :
    setting.Accepts id.refuseSecond := by
  refine glance.liftThen fun registration _ ↦ ?_
  split
  · exact throw trivial
  · exact succeed trivial

theorem nonNull {α : Type} (reference : Option α) (place : String) :
    setting.Accepts (Fallible.nonNull reference place) := by
  cases reference with
  | none => exact throw trivial
  | some present => exact succeed trivial

theorem create (hregisters : setting.Registers) (id : LifecycleId) (version : Version)
    (options : Startup.OptionList) :
    setting.Accepts (id.create version options) := by
  refine (refuseSecond id).andThen fun _ _ ↦ ?_
  have harguments : setting.Admits
      (ExceptT.mk (pure (options.arguments version)) : Fallible Startup.Arguments).run
      (Ends (fun _ ↦ True) fun _ ↦ True) := by
    refine done ?_
    cases options.arguments version with
    | error error => trivial
    | ok arguments => trivial
  refine harguments.andThen fun arguments _ ↦ ?_
  refine (invoke (.create arguments) fun _ _ hpasses ↦ hpasses).liftThen fun answer _ ↦ ?_
  have hanswer : setting.Accepts (Fallible.ofStatus answer .vmCreation) :=
    ofStatus (fun _ ↦ trivial) fun _ _ ↦ trivial
  refine hanswer.andThen fun vm _ ↦ ?_
  refine (nonNull vm _).andThen fun vm _ ↦ setRegistration hregisters id ?_ fun _ ↦ rfl
  refine (prepares_register id vm version true).mapFailure fun error ↦ ?_
  refine (invoke (.destroy vm) fun _ _ hpasses ↦ hpasses).bind ?_
  rintro (status | _) -
  · exact (complain _).bind fun _ _ ↦ done trivial
  · exact done trivial

theorem adopt (hregisters : setting.Registers) (id : LifecycleId) (vm : Option VmId)
    (version : Version) :
    setting.Accepts (id.adopt vm version) := by
  refine (nonNull vm _).andThen fun vm _ ↦ ?_
  dsimp only
  split
  · exact throwThen trivial
  · refine (refuseSecond id).andThen fun _ _ ↦ ?_
    exact setRegistration hregisters id (prepares_register id vm version false) fun _ ↦ rfl

/-! ## Attaching and detaching -/

theorem enter (id : LifecycleId) {config : AttachConfig}
    (hgroup : ∀ vm handle, config.group.bind GlobalReference.raw = some handle →
      setting.known vm handle) :
    setting.Accepts (id.enter config) := by
  refine glance.liftThen ?_
  rintro (_ | registration) -
  · exact throw trivial
  · have hattach := (attachTo id registration config (hgroup _)).accepts
    exact hattach.andThen fun _ _ ↦ succeed trivial

theorem attach (id : LifecycleId) {config : AttachConfig}
    (hgroup : ∀ vm handle, config.group.bind GlobalReference.raw = some handle →
      setting.known vm handle) :
    setting.Accepts (id.attach config) := by
  have henter : setting.Accepts (id.enter { config with isScoped := false }) := enter id hgroup
  exact henter.andThen fun _ _ ↦ succeed trivial

theorem leave (id : LifecycleId) (config : AttachConfig) (env : Env) (attachedHere : Bool) :
    setting.Admits (id.leave config env attachedHere) fun _ ↦ True := by
  unfold LifecycleId.leave
  split
  · refine glance.bind ?_
    rintro (_ | registration) -
    · exact done trivial
    · exact detachFrom id registration
  · exact done trivial

theorem detach (id : LifecycleId) : setting.Admits id.detach fun _ ↦ True := by
  refine glance.bind ?_
  rintro (_ | registration) -
  · exact done trivial
  · exact detachFrom id registration

/-! ## The exit of a thread -/

theorem runPending (pending : PendingDetach) (heldOutside : LifecycleId → Bool) :
    setting.Admits (pending.run heldOutside) fun _ ↦ True := by
  refine state fun moment _ ↦ ?_
  split
  · refine glance.bind ?_
    rintro (_ | registration) -
    · exact done trivial
    · refine (invoke (.getEnv registration.vm registration.version)
        fun _ _ hpasses ↦ hpasses).bind ?_
      rintro (status | pointer) -
      · exact done trivial
      · exact detachAttached _ registration
  · exact done trivial

theorem vacate (slot : ThreadSlot) (heldOutside : LifecycleId → Bool) :
    setting.Admits (slot.vacate heldOutside) fun _ ↦ True := by
  refine current.bind fun running hrunning ↦ ?_
  subst hrunning
  cases slot with
  | classLoader =>
    refine stateThenUpdate (fun bridge later ↦ later.setThread setting.thread.id
      { bridge.thread setting.thread.id with loader := none }) (fun moment hgood ↦ ?_)
      fun moment hgood ↦ ?_
    · exact setting.shift hgood (shifts_setThread _ _ (.inl rfl))
    · exact dropKept fun reference hkept ↦ setting.kept hgood (.loader hkept)
  | pendingDetaches =>
    refine stateThenUpdate (fun bridge later ↦ later.setThread setting.thread.id
      { bridge.thread setting.thread.id with pending := [] }) (fun moment hgood ↦ ?_)
      fun moment _ ↦ ?_
    · exact setting.shift hgood (shifts_setThread _ _ (.inr rfl))
    · exact forM fun pending ↦ runPending pending heldOutside

theorem exitThread (heldOutside : LifecycleId → Bool) :
    setting.Admits (exitThread heldOutside) fun _ ↦ True := by
  refine current.bind fun running _ ↦ state fun moment _ ↦ ?_
  refine (forM fun slot ↦ vacate slot heldOutside).bind fun _ _ ↦ shift fun bridge ↦ ?_
  exact shifts_erase bridge running.id

end Admits

end Setting

end JavaInterop
