import JavaInterop.Proofs.Callback.Routing
import JavaInterop.Proofs.Class.Sharing

/-!
# The environment that a callback gets

A callback gets an environment that is put together when it is called: the pointer is that of the
machine that calls, and everything else is taken from whatever is registered in the builder's
lifecycle at that time.  Nobody compares the two.  So the environment is sound exactly if the
machine that is registered is the one that calls, and then whatever is made with it stays with this
machine: a reference that was made in a callback carries a generation of its own machine, and no
other machine is ever asked to delete it.

If the lifecycle has gone over to another machine in the meantime, neither is true any more.  A
builder that has outlived its registration is not stopped either: its own reference is handed to
whatever machine it is used with.  Nothing else is handed over that does not belong there.
-/

namespace JavaInterop

variable [Host] {ω : Type}

/-! ## Settings -/

/-- The same setting, in which some more references may be handed over. -/
def Setting.allowing (setting : Setting ω) (lent : VmId → Handle → Prop)
    (hpointer : ∀ {vm version pointer before after handle},
      setting.law ⟨setting.thread, .getEnv vm version, .ok pointer, before, after⟩ →
      lent vm handle → lent pointer.vm handle)
    (hattached : ∀ {vm request pointer before after handle},
      setting.law ⟨setting.thread, .attach vm request, .ok pointer, before, after⟩ →
      lent vm handle → lent pointer.vm handle) : Setting ω :=
  { setting with
    known := fun vm handle ↦ setting.known vm handle ∨ lent vm handle
    knows := fun hown ↦ .inl (setting.knows hown)
    pointer := fun hlaw hknown ↦ hknown.imp (setting.pointer hlaw) (hpointer hlaw)
    attached := fun hlaw hknown ↦ hknown.imp (setting.attached hlaw) (hattached hlaw)
    issued := fun htrusts hissued moment hgood registration hregistered handle hraw ↦
      .inl (setting.issued htrusts hissued moment hgood registration hregistered handle hraw)
    kept := fun hgood hkept moment hafter registration hregistered handle hraw ↦
      .inl (setting.kept hgood hkept moment hafter registration hregistered handle hraw) }

/-- The setting in which machines get references of their own only.  Environments are used that were
known when the chronicle was this long. -/
def owning (chronicle : Chronicle) (thread : NativeThread) : Setting Chronicle where
  thread := thread
  law exchange := Upholds exchange.before exchange.after ∧ exchange.Faithful
  good moment := Consistent moment ∧ chronicle <+: moment.outside
  later := Upholds
  own vm handle := handle.vm = vm
  known vm handle := handle.vm = vm
  trusts env := Attests chronicle env.generation env.pointer.vm
  refl := .refl
  trans := .trans
  stays hgood hlater := ⟨hlater.consistent hgood.1, hgood.2.trans hlater.continues.chronicle⟩
  call hlaw _ := hlaw.1
  knows := id
  answer hlaw hanswered := hlaw.2 _ hanswered
  pointer hlaw hknown := hknown.trans (hlaw.2 _ rfl).symm
  attached hlaw hknown := hknown.trans (hlaw.2 _ rfl).symm
  issued := by
    rintro env reference hattests hissued moment ⟨hconsistent, hchronicle⟩ registration hregistered
      handle hraw
    have hissuer := TrulyIssued.attests hissued (hattests.of_prefix hchronicle) handle hraw
    exact hconsistent.issuer hissuer hregistered
  kept := by
    rintro moment reference hgood hkept after ⟨hafter, hlater⟩ registration hregistered handle hraw
    have hissuer := hgood.1.kept _ _ hkept handle hraw
    exact hafter.1.issuer (hissuer.of_prefix hlater.continues.chronicle) hregistered
  shift _ hshifts := .of_shifts hshifts
  keepClass _ hgood hattests hissued :=
    .of_issued hissued (hattests.of_prefix hgood.2) rfl rfl fun _ _ ↦ keeps_insert
  keepLoader hgood hattests hissued hloader :=
    .of_issued hissued (hattests.of_prefix hgood.2) rfl rfl fun _ _ ↦ keeps_setThread hloader

section

variable {lent : VmId → Handle → Prop}

/-- Machines get references of their own, and some that are lent to them. -/
def lending (chronicle : Chronicle) (thread : NativeThread) (lent : VmId → Handle → Prop) :
    Setting Chronicle :=
  (owning chronicle thread).allowing lent (fun hlaw hlent ↦ (hlaw.2 _ rfl).symm ▸ hlent)
    fun hlaw hlent ↦ (hlaw.2 _ rfl).symm ▸ hlent

/-- The setting of an operation with look-ups, in which some references are lent. -/
def followingLent (env : Env) (keys : List DescriptorKey) (thread : NativeThread)
    (first : Moment Chronicle) (exchanges : List (Exchange Chronicle))
    (lent : VmId → Handle → Prop) : Setting Chronicle :=
  (following env keys thread first exchanges).allowing lent
    (fun hlaw hlent ↦ (hlaw.2.1 _ rfl).symm ▸ hlent)
    fun hlaw hlent ↦ (hlaw.2.1 _ rfl).symm ▸ hlent

end

open Program (Ensures)

variable {α : Type} {rules : ProcessRules} {moment : Moment Chronicle}

/-- What a program does if it keeps to such a setting, it does in an honest process. -/
theorem ensures_lending {program : Program α} {wanted : α → Prop} {thread : NativeThread}
    {chronicle : Chronicle} {lent : VmId → Handle → Prop} (hhonest : rules.Honest)
    (hreaches : rules.Reaches moment) (hchronicle : chronicle <+: moment.outside)
    (hadmits : (lending chronicle thread lent).Admits program wanted) :
    Ensures rules.Bears thread program moment fun exchanges result _ ↦
      (∀ exchange ∈ exchanges, ∀ vm handle, exchange.request.Passes vm handle →
        handle.vm = vm ∨ lent vm handle) ∧ wanted result := by
  intro exchanges result last hrun hbears
  obtain ⟨-, hexchanges, hwanted⟩ := hadmits moment ⟨hreaches.consistent hhonest, hchronicle⟩
    exchanges result last hrun fun exchange hmem ↦
      ⟨(hbears exchange hmem).2.upholds hhonest, hhonest.faithful exchange (hbears exchange hmem).1⟩
  exact ⟨fun exchange hmem ↦ (hexchanges exchange hmem).2, hwanted⟩

/-- An operation that looks up no class hands over what it is given, and besides that references of
the machine that gets them. -/
theorem ensures_operation {env : Env} (hhonest : rules.Honest) (hreaches : rules.Reaches moment)
    (hattests : Attests moment.outside env.generation env.pointer.vm) (thread : NativeThread)
    (operation : Operation) (hlooksUp : operation.looksUp = [])
    (hhook : operation ≠ .registerShutdownHook) :
    Ensures rules.Bears thread (operation.program env).run moment fun exchanges _ _ ↦
      ∀ exchange ∈ exchanges, ∀ vm handle, exchange.request.Passes vm handle →
        handle.vm = vm ∨ vm = env.pointer.vm ∧ handle ∈ operation.given := by
  have hadmits : (lending moment.outside thread fun vm handle ↦
      vm = env.pointer.vm ∧ handle ∈ operation.given).Performs env (operation.program env)
        fun _ ↦ True := by
    refine Setting.Performs.operation hattests operation (fun handle hmem ↦ .inr ⟨rfl, hmem⟩) ?_ ?_
    · rw [hlooksUp]
      exact fun _ hmem ↦ absurd hmem List.not_mem_nil
    · exact fun hshutdown ↦ absurd hshutdown hhook
  exact (ensures_lending hhonest hreaches List.prefix_rfl hadmits).weaken fun _ _ _ ↦ And.left

/-- An operation that is only given a builder hands over the builder's reference. -/
theorem ensures_operation_builder {env : Env} {builder : Builder} (hhonest : rules.Honest)
    (hreaches : rules.Reaches moment)
    (hattests : Attests moment.outside env.generation env.pointer.vm) (thread : NativeThread)
    (operation : Operation) (hgiven : operation.given = builder.invocation.raw.toList)
    (hnone : operation.looksUp = []) (hhook : operation ≠ .registerShutdownHook) :
    Ensures rules.Bears thread (operation.program env).run moment fun exchanges _ _ ↦
      ∀ exchange ∈ exchanges, ∀ vm handle, exchange.request.Passes vm handle →
        handle.vm = vm ∨ vm = env.pointer.vm ∧ builder.invocation.raw = some handle := by
  refine (ensures_operation hhonest hreaches hattests thread operation hnone hhook).weaken ?_
  intro exchanges result last hexchanges exchange hmem vm handle hpasses
  refine (hexchanges exchange hmem vm handle hpasses).imp_right fun hlent ↦ ⟨hlent.1, ?_⟩
  rw [hgiven] at hlent
  exact Option.mem_toList.1 hlent.2

/-- An operation with look-ups may be misled besides. -/
theorem ensures_operation_misled {env : Env} (hhonest : rules.Honest)
    (hreaches : rules.Reaches moment)
    (hattests : Attests moment.outside env.generation env.pointer.vm) (thread : NativeThread)
    (operation : Operation) (hhook : operation ≠ .registerShutdownHook) :
    Ensures rules.Bears thread (operation.program env).run moment fun exchanges _ _ ↦
      ∀ exchange ∈ exchanges, ∀ vm handle, exchange.request.Passes vm handle →
        handle.vm = vm ∨ vm = env.pointer.vm ∧ (handle ∈ operation.given ∨
          Misled env operation.looksUp thread moment exchanges handle) := by
  intro exchanges result last hrun hbears
  let lent : VmId → Handle → Prop := fun vm handle ↦ vm = env.pointer.vm ∧ handle ∈ operation.given
  have hadmits : (followingLent env operation.looksUp thread moment exchanges lent).Performs env
      (operation.program env) fun _ ↦ True := by
    have htrusts : (followingLent env operation.looksUp thread moment exchanges lent).trusts env :=
      ⟨rfl, hattests⟩
    refine Setting.Performs.operation htrusts operation (fun handle hmem ↦ .inr ⟨rfl, hmem⟩) ?_
      fun hshutdown ↦ absurd hshutdown hhook
    intro key hkey boundary hgood reference husable hkept handle hraw
    exact .inl (following_offers hkey boundary hgood reference husable hkept handle hraw)
  have hamid : Amid env operation.looksUp thread moment exchanges moment :=
    ⟨hreaches.consistent hhonest, List.prefix_rfl, near_boundary List.mem_cons_self⟩
  obtain ⟨-, hexchanges, -⟩ := hadmits moment hamid exchanges result last hrun fun exchange hmem ↦
    ⟨hmem, hhonest.faithful exchange (hbears exchange hmem).1,
      (hbears exchange hmem).2.upholds hhonest⟩
  intro exchange hmem vm handle hpasses
  rcases (hexchanges exchange hmem).2 vm handle hpasses with (hown | ⟨hvm, hmisled⟩) | ⟨hvm, hgiven⟩
  · exact .inl hown
  · exact .inr ⟨hvm, .inr hmisled⟩
  · exact .inr ⟨hvm, .inl hgiven⟩

/-! ## The environment of a callback -/

/-- What becomes of callbacks and builders at a moment of a process. -/
structure CallbackEnvironment (rules : ProcessRules) (moment : Moment Chronicle) : Prop where
  /-- A call from Java runs the callback that it finds its way to with the environment that was put
  together for it, and otherwise none. -/
  way : ∀ run thread pointer table index receiver array exchanges result last,
    (invokeNative run pointer table index receiver array).Run thread moment exchanges result last ↔
      (follow run pointer receiver array (moment.bridge.route pointer table index)).Run thread
        moment exchanges result last
  /-- The environment has the pointer that was called with and the registration of the builder's
  lifecycle.  It is one of the calling machine exactly if that is the machine registered there. -/
  environment : ∀ pointer table index callback env,
    moment.bridge.route pointer table index = .ok (callback, env) →
      ∃ (number : Nat) (found : CallbackTable) (registration : Registration),
        table.toInt = number ∧ moment.bridge.tables.find? number = some found ∧
        (moment.bridge.lifecycle found.lifecycle).registration = some registration ∧
        env = Env.of found.lifecycle registration pointer ∧
        (moment.Assigns env.generation pointer.vm ↔ registration.vm = pointer.vm)
  /-- While no machine is registered in the builder's lifecycle, no callback is run. -/
  unregistered : ∀ (pointer : EnvPointer) (table : Int64) (index : Int32) (number : Nat)
    (found : CallbackTable), table.toInt = number →
      moment.bridge.tables.find? number = some found →
      (moment.bridge.lifecycle found.lifecycle).registration = none →
        ∃ error, moment.bridge.route pointer table index = .error error
  /-- A callback's environment, if it is sound, is known to be so as soon as someone looks. -/
  attested : ∀ pointer table index callback env,
    moment.bridge.route pointer table index = .ok (callback, env) →
      moment.Assigns env.generation pointer.vm → ∀ later, rules.Evolves moment.looked later →
        Attests later.outside env.generation env.pointer.vm
  /-- What is made with a sound environment carries a generation of the machine that issued it. -/
  created : ∀ env, Attests moment.outside env.generation env.pointer.vm → ∀ thread object,
    Ensures rules.Bears thread (env.newGlobal object).run moment fun _ result _ ↦
      ∀ reference, result = .ok reference → TrulyIssued env reference ∧
        ∀ handle, reference.raw = some handle →
          Attests moment.outside reference.generation handle.vm
  /-- What was made with a sound environment is deleted in no other machine. -/
  released : ∀ env, Attests moment.outside env.generation env.pointer.vm → ∀ reference,
    TrulyIssued env reference → ∀ thread,
      Ensures rules.Bears thread reference.drop moment fun exchanges _ _ ↦
        ∀ exchange ∈ exchanges, ∀ vm handle, exchange.request.Passes vm handle → handle.vm = vm
  /-- Registering a callback and making an object hand over the builder's reference, whatever
  machine it is of, and nothing else that is foreign. -/
  handedOver : ∀ env, Attests moment.outside env.generation env.pointer.vm →
    ∀ thread builder name callback,
      (Ensures rules.Bears thread (Builder.register builder env name callback).run moment
        fun exchanges _ _ ↦ ∀ exchange ∈ exchanges, ∀ vm handle,
          exchange.request.Passes vm handle →
            handle.vm = vm ∨ vm = env.pointer.vm ∧ builder.invocation.raw = some handle) ∧
      Ensures rules.Bears thread (builder.instantiate env).run moment fun exchanges _ _ ↦
        ∀ exchange ∈ exchanges, ∀ vm handle, exchange.request.Passes vm handle →
          handle.vm = vm ∨ vm = env.pointer.vm ∧ builder.invocation.raw = some handle
  /-- Building also looks up a class, which may be misled. -/
  built : ∀ env, Attests moment.outside env.generation env.pointer.vm →
    ∀ thread builder type,
      Ensures rules.Bears thread (Builder.build builder env type).run moment
        fun exchanges _ _ ↦ ∀ exchange ∈ exchanges, ∀ vm handle,
          exchange.request.Passes vm handle → handle.vm = vm ∨ vm = env.pointer.vm ∧
            (builder.invocation.raw = some handle ∨
              Misled env [type.descriptor.key] thread moment exchanges handle)

/-- In an honest process callbacks and builders stay with their machine as far as the registration
of the builder's lifecycle does. -/
theorem ProcessRules.Reaches.callback_environment (hhonest : rules.Honest)
    (hreaches : rules.Reaches moment) :
    CallbackEnvironment rules moment where
  way run thread pointer table index receiver array exchanges result last :=
    run_invokeNative run pointer table index receiver array result
  environment pointer table index callback env hroute := by
    obtain ⟨number, position, found, registration, htable, hfound, -, -, hregistration, rfl⟩ :=
      Bridge.route_eq_ok_iff.1 hroute
    refine ⟨number, found, registration, htable, hfound, hregistration, rfl, ?_⟩
    constructor
    · exact (hreaches.consistent hhonest).unique _ _ _ (.now hregistration)
    · intro hvm
      rw [← hvm]
      exact .now hregistration
  unregistered pointer table index number found htable hfound hnone := by
    cases hroute : moment.bridge.route pointer table index with
    | error error => exact ⟨error, rfl⟩
    | ok way =>
      obtain ⟨number', position, found', registration, htable', hfound', -, -, hregistration, -⟩ :=
        Bridge.route_eq_ok_iff.1 hroute
      cases Int.ofNat_inj.1 (htable.symm.trans htable')
      cases hfound.symm.trans hfound'
      cases hnone.symm.trans hregistration
  attested pointer table index callback env hroute hassigns later hevolves := by
    obtain ⟨number, position, found, registration, -, -, -, -, hregistration, rfl⟩ :=
      Bridge.route_eq_ok_iff.1 hroute
    refine ⟨moment.bridge, found.lifecycle, registration, ?_, hregistration, rfl, ?_⟩
    · exact hevolves.continues.chronicle.subset (List.mem_append_right _ List.mem_cons_self)
    · exact (hreaches.consistent hhonest).unique _ _ _ (.now hregistration) hassigns
  created env hattests thread object := by
    have hadmits : (lending moment.outside thread fun _ _ ↦ True).Performs env
        (env.newGlobal object) (TrulyIssued env) :=
      Setting.Performs.newGlobal fun _ _ ↦ .inr trivial
    refine (ensures_lending hhonest hreaches List.prefix_rfl hadmits).weaken ?_
    rintro exchanges result last ⟨-, hends⟩ reference rfl
    exact ⟨hends, TrulyIssued.attests hends hattests⟩
  released env hattests reference hissued thread := by
    have hadmits : (lending moment.outside thread fun _ _ ↦ False).Admits reference.drop
        fun _ ↦ True :=
      Setting.Admits.drop (Setting.issued _ hattests hissued)
    refine (ensures_lending hhonest hreaches List.prefix_rfl hadmits).weaken ?_
    rintro exchanges result last ⟨hexchanges, -⟩ exchange hmem vm handle hpasses
    exact (hexchanges exchange hmem vm handle hpasses).resolve_right id
  handedOver env hattests thread builder name callback :=
    ⟨ensures_operation_builder hhonest hreaches hattests thread
        (.registerCallback builder name callback) rfl rfl (by simp),
      ensures_operation_builder hhonest hreaches hattests thread (.instantiate builder) rfl rfl
        (by simp)⟩
  built env hattests thread builder type := by
    refine (ensures_operation_misled hhonest hreaches hattests thread (.build builder type)
      (by simp)).weaken ?_
    intro exchanges result last hexchanges exchange hmem vm handle hpasses
    refine (hexchanges exchange hmem vm handle hpasses).imp_right fun hlent ↦ ⟨hlent.1, ?_⟩
    exact hlent.2.imp_left Option.mem_toList.1

/-! ## A machine that was replaced -/

namespace Sample

/-- A builder is made and a callback is registered with it. -/
def building : List (@Activity host) :=
  let _ := host
  [.adopt .shared (some vm) .v1_8, .operate (.newBuilder "I") env,
    .operate (.registerCallback builder "m" ()) env]

/-- The lifecycle of the builder goes over to another machine. -/
def replacing : List (@Activity host) :=
  let _ := host
  building ++ [.reset .shared] ++ [.adopt .shared (some neighbour) .v1_8]

/-- What comes of it with machines that create strings and objects. -/
def workshop (activities : List (@Activity host)) : @Moment host (@Chronicle host) :=
  let _ := host
  courseOf creative thread activities

omit [Host] in
theorem faithful_creative (request : Call) (before : @Moment host (@Chronicle host)) :
    let _ := host
    Exchange.Faithful ⟨thread, request, creative request, before, before⟩ := by
  intro _
  cases request with
  | getEnv | attach =>
    rintro _ ⟨rfl⟩
    rfl
  | env pointer function =>
    intro handle hanswered
    cases function with
    | findClass | getObjectClass | newGlobalRef | callObject | newString | newObject =>
      cases hanswered
      rfl
    | _ => cases hanswered
  | _ => trivial

end Sample

/-- What a thread does with environments that were seen before it is possible. -/
theorem ProcessRules.evolves_courseOf_attested {answer : (request : Call) → request.Reply}
    {thread : NativeThread} {begun activities : List Activity}
    (hfaithful : ∀ request (before : Moment Chronicle),
      Exchange.Faithful ⟨thread, request, answer request, before, before⟩)
    (hattests : ∀ env ∈ activities.filterMap Activity.env?,
      Attests (courseOf answer thread begun).outside env.generation env.pointer.vm) :
    ProcessRules.trustworthy.Evolves (courseOf answer thread begun)
      (courseOf answer thread (begun ++ activities)) := by
  induction activities using List.reverseRec with
  | nil =>
    rw [List.append_nil]
    exact .refl _
  | append_singleton activities activity ih =>
    rw [List.filterMap_append, List.forall_mem_append] at hattests
    have hevolves := ih hattests.1
    rw [← List.append_assoc]
    refine hevolves.courseOf_snoc (fun env henv ↦ ?_) hfaithful
    have hmem : env ∈ [activity].filterMap Activity.env? :=
      List.mem_filterMap.2 ⟨activity, List.mem_cons_self, henv⟩
    have hseen := hattests.2 env hmem
    exact hseen.of_prefix hevolves.continues.chronicle

section

omit [Host]

/-- Whatever is done with the environment of the first registration is possible after it. -/
theorem ProcessRules.reaches_builderHistory {activities : List (@Activity Sample.host)}
    (henv : ∀ env ∈ activities.filterMap (@Activity.env? Sample.host), env = Sample.env) :
    let _ := Sample.host
    ProcessRules.trustworthy.Reaches
      (Sample.workshop (.adopt .shared (some Sample.vm) .v1_8 :: activities)) := by
  intro _
  let adopted : List Activity := [.adopt .shared (some Sample.vm) .v1_8]
  have hadopted : ProcessRules.trustworthy.Evolves (Sample.workshop []) (Sample.workshop adopted) :=
    evolves_courseOf_attested Sample.faithful_creative fun _ hmem ↦ nomatch hmem
  have hregistered : ((Sample.workshop adopted).bridge.lifecycle .shared).registration =
      some ⟨Sample.vm, .v1_8, Sample.thread.id, false, 1⟩ := by
    decide +kernel
  have hdone : ProcessRules.trustworthy.Evolves (Sample.workshop adopted)
      (Sample.workshop (adopted ++ activities)) := by
    refine evolves_courseOf_attested Sample.faithful_creative fun env hmem ↦ ?_
    rw [henv env hmem]
    exact attests_courseOf (List.cons_ne_nil _ _) hregistered rfl rfl
  exact .later (.later (.start .builtins) hadopted) hdone

/-- While a builder's machine is registered, its callbacks get the environment of the machine, and
the builder stays with it. -/
theorem ProcessRules.Reaches.callback_environment_building :
    let _ := Sample.host
    let moment := Sample.workshop Sample.building
    ProcessRules.trustworthy.Honest ∧ ProcessRules.trustworthy.Reaches moment ∧
      moment.bridge.route Sample.env.pointer 1 0 = .ok ((), Sample.env) ∧
      CallbackEnvironment ProcessRules.trustworthy moment := by
  intro _ moment
  have hreaches : ProcessRules.trustworthy.Reaches moment := reaches_builderHistory (by decide)
  exact ⟨honest_trustworthy, hreaches, rfl, hreaches.callback_environment honest_trustworthy⟩

/-- After the builder's lifecycle has gone over to another machine, a call from the first one runs
its callback with an environment that has the registration of the other one.  What the callback
keeps with it is deleted in the other machine, and so is the builder's reference handed to it. -/
theorem ProcessRules.callback_of_replaced_machine :
    let _ := Sample.host
    let moment := Sample.workshop Sample.replacing
    let replacement : Registration := ⟨Sample.neighbour, .v1_8, Sample.thread.id, false, 2⟩
    let mixed := Env.of .shared replacement Sample.env.pointer
    let kept : GlobalReference := ⟨some ⟨Sample.vm, 5⟩, .shared, 2⟩
    let renewed := Sample.neighbourEnv .shared
    let requests {α : Type} (program : Program α) : List Call :=
      (program.play (.answering Sample.creative) Sample.thread moment).1.map Exchange.request
    ProcessRules.trustworthy.Reaches moment ∧ moment.outside.any Record.failed = false ∧
      (moment.bridge.lifecycle .shared).registration = some replacement ∧
      moment.bridge.route Sample.env.pointer 1 0 = .ok ((), mixed) ∧
      ((mixed.newGlobal (some ⟨Sample.vm, 2⟩)).run.play (.answering Sample.creative) Sample.thread
        moment).2.1 = .ok kept ∧
      Call.env renewed.pointer (.deleteGlobalRef ⟨Sample.vm, 5⟩) ∈ requests kept.drop ∧
      Call.env renewed.pointer (.callVoid ⟨Sample.vm, 5⟩ Sample.builder.registerMethod
          [.reference (some ⟨Sample.neighbour, 6⟩), .scalar (.long 1), .scalar (.int 1)]) ∈
        requests (Builder.register Sample.builder renewed "m" ()).run ∧
      Call.env renewed.pointer (.callObject ⟨Sample.vm, 5⟩ Sample.builder.createMethod []) ∈
        requests (Sample.builder.instantiate renewed).run := by
  intro _ moment replacement mixed kept renewed requests
  have hreaches : ProcessRules.trustworthy.Reaches moment := reaches_builderHistory (by decide)
  exact ⟨hreaches, by decide +kernel, by decide +kernel, rfl, rfl, by decide +kernel,
    by decide +kernel, by decide +kernel⟩

end

end JavaInterop
