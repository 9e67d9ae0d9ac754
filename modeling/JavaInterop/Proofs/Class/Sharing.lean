import JavaInterop.Proofs.Lifecycle.Issuers

/-!
# Classes that machines share

Looked-up classes are kept for the whole process and class loaders for each thread, and what is kept
is used as long as the registration that it was issued under is there.  Which machine is to get it
is not asked.  So while several machines run side by side, an operation that looks up a class may
hand a machine a reference that another one has issued: a class that is kept for the other one, or a
class loader that was set while working with it.

This is the only way in which it happens.  Everything else that operations hand over was issued by
the machine that gets it, and so was the class that a look-up gives in the end.
-/

namespace JavaInterop

variable [Host]

/-! ## What look-ups find -/

/-- What a look-up may make use of: a class that is kept under one of these keys, or the class
loader of the thread. -/
inductive Bridge.Offers (bridge : Bridge) (keys : List DescriptorKey) (thread : Nat)
    (reference : GlobalReference) : Prop
  | classObject {key : DescriptorKey} (hmem : key ∈ keys)
      (hkept : bridge.classes.find? key = some reference)
  | loader (hkept : (bridge.thread thread).loader = some reference)

/-- A look-up may make use of a reference that was issued by another machine, which is still
registered. -/
def Bridge.Foreign (bridge : Bridge) (keys : List DescriptorKey) (thread : Nat) (vm : VmId)
    (handle : Handle) : Prop :=
  handle.vm ≠ vm ∧ ∃ reference, bridge.Offers keys thread reference ∧ reference.raw = some handle ∧
    ∃ registration, registration.vm = handle.vm ∧
      bridge.registered? reference.lifecycle reference.generation = some registration

section

variable {before after : Bridge} {keys : List DescriptorKey} {thread : Nat}
  {reference : GlobalReference}

theorem Bridge.Offers.keeps (hoffers : before.Offers keys thread reference) :
    before.Keeps thread reference := by
  cases hoffers with
  | classObject _ hkept => exact .classObject _ hkept
  | loader hkept => exact .loader hkept

/-- Less may be made use of if classes and class loaders are given up. -/
theorem Bridge.Offers.of_shifts (hshifts : before.Shifts after)
    (hoffers : after.Offers keys thread reference) : before.Offers keys thread reference := by
  cases hoffers with
  | classObject hmem hkept => exact .classObject hmem (hshifts.classes ▸ hkept)
  | loader hkept => exact .loader (eq_some_of_shift (hshifts.loader thread) hkept)

theorem offers_insert {key : DescriptorKey} {kept : GlobalReference}
    (hoffers : ({ before with classes := before.classes.insert key kept } : Bridge).Offers keys
      thread reference) : before.Offers keys thread reference ∨ reference = kept := by
  cases hoffers with
  | classObject hmem hkept => exact (find?_of_insert hkept).imp_left (.classObject hmem)
  | loader hkept => exact .inl (.loader hkept)

theorem offers_setThread {id : Nat} {state : ThreadState} {kept : GlobalReference}
    (hstate : state.loader = some kept)
    (hoffers : (before.setThread id state).Offers keys thread reference) :
    before.Offers keys thread reference ∨ reference = kept := by
  cases hoffers with
  | classObject hmem hkept => exact .inl (.classObject hmem hkept)
  | loader hkept => exact (loader_of_setThread hstate hkept).imp_left .loader

end

/-! ## The setting of an operation -/

section

variable (env : Env) (keys : List DescriptorKey) (thread : NativeThread) (first : Moment Chronicle)
  (exchanges : List (Exchange Chronicle))

/-- At a boundary a look-up may make use of a reference that another machine has issued. -/
def Misled (handle : Handle) : Prop :=
  ∃ boundary ∈ boundaries first exchanges,
    boundary.bridge.Foreign keys thread.id env.pointer.vm handle

/-- What may be made use of and what is registered was so at a boundary, except for what the
operation has put there itself. -/
def Near (moment : Moment Chronicle) : Prop :=
  ∃ boundary ∈ boundaries first exchanges,
    (∀ reference, moment.bridge.Offers keys thread.id reference →
      boundary.bridge.Offers keys thread.id reference ∨
        ∀ handle, reference.raw = some handle → handle.vm = env.pointer.vm) ∧
    ∀ id registration, (moment.bridge.lifecycle id).registration = some registration →
      (boundary.bridge.lifecycle id).registration = some registration

/-- A moment in an operation. -/
structure Amid (moment : Moment Chronicle) : Prop where
  consistent : Consistent moment
  chronicle : first.outside <+: moment.outside
  near : Near env keys thread first exchanges moment

variable {env keys thread first exchanges} {moment : Moment Chronicle} {bridge : Bridge}

theorem near_boundary (hmem : moment ∈ boundaries first exchanges) :
    Near env keys thread first exchanges moment :=
  ⟨moment, hmem, fun _ ↦ .inl, fun _ _ ↦ id⟩

/-- The operation itself registers nothing, and what it puts there is of its own machine. -/
theorem Near.of_bridge (hnear : Near env keys thread first exchanges moment)
    (hregistration : ∀ id, (bridge.lifecycle id).registration = none ∨
      (bridge.lifecycle id).registration = (moment.bridge.lifecycle id).registration)
    (hoffers : ∀ reference, bridge.Offers keys thread.id reference →
      moment.bridge.Offers keys thread.id reference ∨
        ∀ handle, reference.raw = some handle → handle.vm = env.pointer.vm) :
    Near env keys thread first exchanges ⟨bridge, moment.outside⟩ := by
  obtain ⟨boundary, hboundary, hoffered, hregistered⟩ := hnear
  refine ⟨boundary, hboundary, fun reference hafter ↦ ?_, fun id registration hafter ↦ ?_⟩
  · rcases hoffers reference hafter with hbefore | hown
    · exact hoffered reference hbefore
    · exact .inr hown
  · exact hregistered id registration (eq_some_of_shift (hregistration id) hafter)

theorem Near.of_issued {reference : GlobalReference}
    (hnear : Near env keys thread first exchanges moment) (hissued : TrulyIssued env reference)
    (hlifecycles : bridge.lifecycles = moment.bridge.lifecycles)
    (hoffers : ∀ other, bridge.Offers keys thread.id other →
      moment.bridge.Offers keys thread.id other ∨ other = reference) :
    Near env keys thread first exchanges ⟨bridge, moment.outside⟩ := by
  refine hnear.of_bridge (fun id ↦ .inr ?_) fun other hoffered ↦ ?_
  · unfold Bridge.lifecycle
    rw [hlifecycles]
  · refine (hoffers other hoffered).imp_right ?_
    rintro rfl
    exact hissued.own

variable (env keys thread first exchanges) in
/-- The setting in which an operation with an environment is followed through its calls. -/
def following : Setting Chronicle where
  thread := thread
  law exchange := exchange ∈ exchanges ∧ exchange.Faithful ∧ Upholds exchange.before exchange.after
  good := Amid env keys thread first exchanges
  later before after := Upholds before after ∧
    (Near env keys thread first exchanges before → Near env keys thread first exchanges after)
  own vm handle := handle.vm = vm
  known vm handle := handle.vm = vm ∨
    vm = env.pointer.vm ∧ Misled env keys thread first exchanges handle
  trusts used := used = env ∧ Attests first.outside env.generation env.pointer.vm
  refl moment := ⟨.refl moment, id⟩
  trans hfirst hlast := ⟨hfirst.1.trans hlast.1, hlast.2 ∘ hfirst.2⟩
  stays hamid hlater := ⟨hlater.1.consistent hamid.consistent,
    hamid.chronicle.trans hlater.1.continues.chronicle, hlater.2 hamid.near⟩
  call hlaw _ := ⟨hlaw.2.2, fun _ ↦
    near_boundary (List.mem_cons_of_mem _ (List.mem_map_of_mem hlaw.1))⟩
  knows := .inl
  answer hlaw hanswered := hlaw.2.1 _ hanswered
  pointer hlaw hknown := by
    rwa [hlaw.2.1 _ rfl]
  attached hlaw hknown := by
    rwa [hlaw.2.1 _ rfl]
  issued := by
    rintro used reference ⟨rfl, hattests⟩ hissued moment hamid registration hregistered handle hraw
    have hissuer := TrulyIssued.attests hissued (hattests.of_prefix hamid.chronicle) handle hraw
    exact .inl (hamid.consistent.issuer hissuer hregistered)
  kept hamid hkept := by
    rintro after ⟨hafter, hlater⟩ registration hregistered handle hraw
    have hissuer := hamid.consistent.kept _ _ hkept handle hraw
    exact .inl (hafter.consistent.issuer (hissuer.of_prefix hlater.1.continues.chronicle)
      hregistered)
  shift _ hshifts := ⟨.of_shifts hshifts, fun hnear ↦
    hnear.of_bridge hshifts.registration fun _ hoffers ↦ .inl (hoffers.of_shifts hshifts)⟩
  keepClass := by
    rintro moment used reference key hamid ⟨rfl, hattests⟩ hissued
    exact ⟨.of_issued hissued (hattests.of_prefix hamid.chronicle) rfl rfl fun _ _ ↦ keeps_insert,
      fun hnear ↦ hnear.of_issued hissued rfl fun _ ↦ offers_insert⟩
  keepLoader := by
    rintro moment used reference state hamid ⟨rfl, hattests⟩ hissued hloader
    exact ⟨.of_issued hissued (hattests.of_prefix hamid.chronicle) rfl rfl
      fun _ _ ↦ keeps_setThread hloader,
      fun hnear ↦ hnear.of_issued hissued rfl fun _ ↦ offers_setThread hloader⟩

/-- What is kept for a look-up is known to the machine, unless the look-up is misled. -/
theorem following_offers {key : DescriptorKey} (hkey : key ∈ keys) :
    (following env keys thread first exchanges).Offers env key := by
  intro moment hamid reference husable hkept handle hraw
  have hoffers : moment.bridge.Offers keys thread.id reference := by
    rcases hkept with hclass | hloader
    · exact .classObject hkey hclass
    · exact .loader hloader
  obtain ⟨boundary, hboundary, hoffered, hregistered⟩ := hamid.near
  rcases hoffered reference hoffers with hbefore | hown
  · obtain ⟨-, hlive⟩ := Bool.and_eq_true_iff.1 husable
    obtain ⟨registration, hregistration, hgeneration⟩ := isLive_iff.1 hlive
    have hnow : ∀ {bridge : Bridge},
        (bridge.lifecycle reference.lifecycle).registration = some registration →
        bridge.registered? reference.lifecycle reference.generation = some registration :=
      fun hregistration ↦ Option.filter_eq_some_iff.2 ⟨hregistration, beq_iff_eq.2 hgeneration⟩
    have hissuer : handle.vm = registration.vm :=
      hamid.consistent.issuer
        (hamid.consistent.kept _ _ hoffers.keeps handle hraw) (hnow hregistration)
    by_cases hsame : handle.vm = env.pointer.vm
    · exact .inl hsame
    · exact .inr ⟨rfl, boundary, hboundary, hsame, reference, hbefore, hraw, registration,
        hissuer.symm, hnow (hregistered _ _ hregistration)⟩
  · exact .inl (hown handle hraw)

theorem following_operation (hattests : Attests first.outside env.generation env.pointer.vm)
    (operation : Operation) (hgiven : ∀ handle ∈ operation.given, handle.vm = env.pointer.vm) :
    (following env operation.looksUp thread first exchanges).Performs env (operation.program env)
      fun _ ↦ True := by
  have htrusts : (following env operation.looksUp thread first exchanges).trusts env :=
    ⟨rfl, hattests⟩
  refine Setting.Performs.operation htrusts operation (fun handle hmem ↦ .inl (hgiven handle hmem))
    (fun _ hkey ↦ following_offers hkey) fun _ moment hamid ↦ ⟨?_, fun hnear ↦ ?_⟩
  · exact .of_bridge (Nat.le_refl _) (fun _ ↦ .inr rfl)
      fun _ _ hkept ↦ .inl (keeps_of_same hkept rfl rfl)
  · refine hnear.of_bridge (fun _ ↦ .inr rfl) fun reference hoffers ↦ .inl ?_
    cases hoffers with
    | classObject hmem hkept => exact .classObject hmem hkept
    | loader hkept => exact .loader hkept

theorem following_find (hattests : Attests first.outside env.generation env.pointer.vm)
    (descriptor : ClassDescriptor) :
    (following env [descriptor.key] thread first exchanges).Performs env (descriptor.find env)
      ((following env [descriptor.key] thread first exchanges).Holds env) := by
  have htrusts : (following env [descriptor.key] thread first exchanges).trusts env :=
    ⟨rfl, hattests⟩
  exact Setting.Performs.find htrusts (following_offers List.mem_cons_self)

end

/-! ## What machines get -/

open Program (Ensures)

/-- What operations with an environment hand over at a moment.  If they are given references of its
machine, they hand over references of the machine that gets them, unless a look-up is misled.  The
class that is found is one of the machine. -/
structure HandsOverOwn (rules : ProcessRules) (env : Env) (moment : Moment Chronicle) : Prop where
  operation : ∀ thread (operation : Operation),
    (∀ handle ∈ operation.given, handle.vm = env.pointer.vm) →
    Ensures rules.Bears thread (operation.program env).run moment fun exchanges _ _ ↦
      ∀ exchange ∈ exchanges, ∀ vm handle, exchange.request.Passes vm handle →
        handle.vm = vm ∨
          vm = env.pointer.vm ∧ Misled env operation.looksUp thread moment exchanges handle
  find : ∀ thread (descriptor : ClassDescriptor),
    Ensures rules.Bears thread (descriptor.find env).run moment fun _ result _ ↦
      ∀ reference, result = .ok reference → reference.env = env ∧
        ∃ handle, reference.raw = some handle ∧ handle.vm = env.pointer.vm

section

variable {rules : ProcessRules} {env : Env} {moment : Moment Chronicle}

/-- What a program does in the setting of an operation, it does in an honest process. -/
theorem ensures_shares {α : Type} {program : Program α}
    {wanted : List (Exchange Chronicle) → α → Prop} {keys : List DescriptorKey}
    {thread : NativeThread} (hhonest : rules.Honest)
    (hreaches : rules.Reaches moment)
    (hadmits : ∀ exchanges, (following env keys thread moment exchanges).Admits program
      (wanted exchanges)) :
    Ensures rules.Bears thread program moment fun exchanges result _ ↦
      (∀ exchange ∈ exchanges, ∀ vm handle, exchange.request.Passes vm handle →
        handle.vm = vm ∨ vm = env.pointer.vm ∧ Misled env keys thread moment exchanges handle) ∧
      wanted exchanges result := by
  intro exchanges result last hrun hbears
  have hamid : Amid env keys thread moment exchanges moment :=
    ⟨hreaches.consistent hhonest, List.prefix_rfl, near_boundary List.mem_cons_self⟩
  have hlaw : ∀ exchange ∈ exchanges, (following env keys thread moment exchanges).law exchange :=
    fun exchange hmem ↦ ⟨hmem, hhonest.faithful exchange (hbears exchange hmem).1,
      (hbears exchange hmem).2.upholds hhonest⟩
  obtain ⟨-, hexchanges, hwanted⟩ := hadmits exchanges moment hamid exchanges result last hrun hlaw
  exact ⟨fun exchange hmem ↦ (hexchanges exchange hmem).2, hwanted⟩

/-- In an honest process the only references of other machines that a machine gets from an operation
are those that mislead a look-up. -/
theorem ProcessRules.Reaches.hands_over_own (hhonest : rules.Honest)
    (hreaches : rules.Reaches moment)
    (hattests : Attests moment.outside env.generation env.pointer.vm) :
    HandsOverOwn rules env moment := by
  refine ⟨fun thread operation hgiven ↦ ?_, fun thread descriptor ↦ ?_⟩
  · exact (ensures_shares hhonest hreaches fun exchanges ↦
      following_operation hattests operation hgiven).weaken fun _ _ _ ↦ And.left
  · refine (ensures_shares hhonest hreaches fun exchanges ↦
      following_find hattests descriptor).weaken ?_
    rintro exchanges result last ⟨-, hends⟩ reference rfl
    exact ⟨hends.owner, hends.present⟩

end

/-! ## Two machines -/

/-- Native code does what it likes with environments that were seen, and machines answer with
references of their own. -/
def ProcessRules.trustworthy : ProcessRules where
  permits moment activity := ∀ env, activity.env? = some env →
    Attests moment.outside env.generation env.pointer.vm
  law := Exchange.Faithful

theorem ProcessRules.honest_trustworthy : ProcessRules.trustworthy.Honest :=
  ⟨fun _ ↦ id, fun _ _ env hpermits henv ↦ hpermits env henv⟩

/-- After each activity someone has looked at the bridge. -/
theorem attests_courseOf {answer : (request : Call) → request.Reply} {thread : NativeThread}
    {activities : List Activity} {id : LifecycleId} {registration : Registration}
    {generation : Nat} {vm : VmId} (hsome : activities ≠ [])
    (hregistration : ((courseOf answer thread activities).bridge.lifecycle id).registration =
      some registration)
    (hgeneration : registration.generation = generation) (hvm : registration.vm = vm) :
    Attests (courseOf answer thread activities).outside generation vm := by
  refine ⟨_, id, registration, ?_, hregistration, hgeneration, hvm⟩
  obtain ⟨begun, last, rfl⟩ := activities.eq_nil_or_concat.resolve_left hsome
  unfold courseOf
  rw [List.concat_eq_append, List.foldl_append]
  exact List.mem_append_right _ List.mem_cons_self

namespace Sample

omit [Host] in
theorem faithful_something (request : Call) (before : @Moment host (@Chronicle host)) :
    let _ := host
    Exchange.Faithful ⟨thread, request, something request, before, before⟩ := by
  intro _
  cases request with
  | getEnv | attach =>
    rintro _ ⟨rfl⟩
    rfl
  | env pointer function =>
    intro handle hanswered
    cases function with
    | findClass | getObjectClass | newGlobalRef | callObject =>
      cases hanswered
      rfl
    | _ => cases hanswered
  | _ => trivial

/-- The class that is looked up. -/
def descriptor : ClassDescriptor := ProxyType.object.descriptor

/-- Something is done with one machine, and then another one comes to stand beside it. -/
def beside (activity : @Activity host) : List (@Activity host) :=
  let _ := host
  [.adopt .shared (some vm) .v1_8, activity, .adopt ⟨1⟩ (some neighbour) .v1_8]

/-- Machines that have something for every question, strings included. -/
def articulate : (request : Call) → request.Reply
  | .env pointer (.newString _) => some ⟨pointer.vm, 6⟩
  | request => something request

end Sample

section

omit [Host]

theorem ProcessRules.reaches_beside {activity : @Activity Sample.host}
    (henv : @Activity.env? Sample.host activity = some Sample.env) :
    let _ := Sample.host
    let moment := Sample.course (Sample.beside activity)
    let env := Sample.neighbourEnv ⟨1⟩
    (moment.bridge.lifecycle ⟨1⟩).registration =
        some ⟨Sample.neighbour, .v1_8, Sample.thread.id, false, 2⟩ →
      ProcessRules.trustworthy.Reaches moment ∧
        Attests moment.outside env.generation env.pointer.vm := by
  intro _ moment env hneighbour
  let adopted := Sample.course [.adopt .shared (some Sample.vm) .v1_8]
  have hadopted : ProcessRules.trustworthy.Evolves (Sample.course []) adopted :=
    (ProcessRules.Evolves.refl (Sample.course [])).courseOf_snoc (fun _ hnone ↦ nomatch hnone)
      Sample.faithful_something
  have hregistered : (adopted.bridge.lifecycle .shared).registration =
      some ⟨Sample.vm, .v1_8, Sample.thread.id, false, 1⟩ := by
    decide +kernel
  have hseen : Attests adopted.outside Sample.env.generation Sample.env.pointer.vm :=
    attests_courseOf (List.cons_ne_nil _ _) hregistered rfl rfl
  have hdone : ProcessRules.trustworthy.Evolves (Sample.course [])
      (Sample.course [.adopt .shared (some Sample.vm) .v1_8, activity]) := by
    refine hadopted.courseOf_snoc ?_ Sample.faithful_something
    rintro env hsome
    cases henv.symm.trans hsome
    exact hseen
  have hbeside : ProcessRules.trustworthy.Evolves (Sample.course [])
      (Sample.course (Sample.beside activity)) :=
    hdone.courseOf_snoc (fun _ hnone ↦ nomatch hnone) Sample.faithful_something
  exact ⟨.later (.start .builtins) hbeside,
    attests_courseOf (List.cons_ne_nil _ _) hneighbour rfl rfl⟩

/-- While two machines run side by side, the class that is kept for one of them is handed to the
other one, and the look-up fails. -/
theorem ProcessRules.class_of_neighbour :
    let _ := Sample.host
    let moment := Sample.course (Sample.beside (.operate (.classOf Sample.descriptor) Sample.env))
    let env := Sample.neighbourEnv ⟨1⟩
    let (exchanges, result, _) := (Sample.descriptor.find env).run.play
      (.answering Sample.articulate) Sample.thread moment
    ProcessRules.trustworthy.Reaches moment ∧ Attests moment.outside env.generation env.pointer.vm ∧
      moment.outside.any Record.failed = false ∧
      exchanges.map Exchange.request = [.env env.pointer (.newLocalRef ⟨Sample.vm, 5⟩)] ∧
      result.isOk = false :=
  ⟨(ProcessRules.reaches_beside rfl (by decide +kernel)).1,
    (ProcessRules.reaches_beside rfl (by decide +kernel)).2,
    by decide +kernel, by decide +kernel, by decide +kernel⟩

/-- While two machines run side by side, the class loader that was set while working with one of
them is handed to the other one. -/
theorem ProcessRules.loader_of_neighbour :
    let _ := Sample.host
    let moment := Sample.course (Sample.beside (.setClassLoader Sample.env (some ⟨Sample.vm, 7⟩)))
    let env := Sample.neighbourEnv ⟨1⟩
    let (exchanges, _, _) := (Sample.descriptor.find env).run.play
      (.answering Sample.articulate) Sample.thread moment
    ProcessRules.trustworthy.Reaches moment ∧ Attests moment.outside env.generation env.pointer.vm ∧
      moment.outside.any Record.failed = false ∧
      Call.env env.pointer (.callObject ⟨Sample.vm, 5⟩ ⟨Sample.neighbour, 1⟩
        [.reference (some ⟨Sample.neighbour, 6⟩)]) ∈ exchanges.map Exchange.request :=
  ⟨(ProcessRules.reaches_beside rfl (by decide +kernel)).1,
    (ProcessRules.reaches_beside rfl (by decide +kernel)).2, by decide +kernel, by decide +kernel⟩

/-- What the second machine gets while it runs beside the first one. -/
theorem ProcessRules.Reaches.hands_over_own_beside :
    let _ := Sample.host
    let moment := Sample.course (Sample.beside (.operate (.classOf Sample.descriptor) Sample.env))
    let env := Sample.neighbourEnv ⟨1⟩
    ProcessRules.trustworthy.Honest ∧ ProcessRules.trustworthy.Reaches moment ∧
      Attests moment.outside env.generation env.pointer.vm ∧
      HandsOverOwn ProcessRules.trustworthy env moment := by
  intro _ moment env
  obtain ⟨hreaches, hattests⟩ :
      ProcessRules.trustworthy.Reaches moment ∧
        Attests moment.outside env.generation env.pointer.vm :=
    ProcessRules.reaches_beside rfl (by decide +kernel)
  exact ⟨ProcessRules.honest_trustworthy, hreaches, hattests,
    hreaches.hands_over_own ProcessRules.honest_trustworthy hattests⟩

end

end JavaInterop
