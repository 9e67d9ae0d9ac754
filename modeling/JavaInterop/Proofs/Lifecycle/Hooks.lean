import JavaInterop.Proofs.Lifecycle.Forgotten

/-!
# What a shutdown signal does

The native side keeps one shutdown hook for the whole process, and a signal does not tell which
machine it comes from.  So what a signal does depends on the order of events only: it resets the
lifecycle of the last hook that was registered, if the registration it was meant for is still there,
and it touches no other lifecycle.  The next signal finds no hook.

This is less than the hook is for.  At the end there is a process in which a machine is forgotten
because the one that it has replaced shuts down, and one in which two machines run side by side and
the one that shuts down is not the one that is forgotten.

A hook is remembered before its class reference is deleted.  It is assumed that nothing happens to
the hook while a local reference is deleted, since otherwise the registration that ends last need
not be the one that was remembered last.
-/

namespace JavaInterop

variable [Host] {α : Type}

/-! ## The last hook -/

/-- The hook that is remembered after an entry of the chronicle. -/
def Record.hookAfter (hook : Option (LifecycleId × Nat)) : Record → Option (LifecycleId × Nat)
  | .finished _ (.operate .registerShutdownHook env) true => some (env.lifecycle, env.generation)
  | .finished _ .signalShutdown _ => none
  | _ => hook

/-- The lifecycle and the generation for which a hook was registered last, unless there was a signal
since. -/
def lastHook (chronicle : Chronicle) : Option (LifecycleId × Nat) :=
  chronicle.foldl Record.hookAfter none

@[simp]
theorem lastHook_snoc (chronicle : Chronicle) (record : Record) :
    lastHook (chronicle ++ [record]) = record.hookAfter (lastHook chronicle) := by
  simp [lastHook]

/-- The bridge remembers the last hook. -/
def Tracked (moment : Moment Chronicle) : Prop :=
  moment.bridge.hooked = lastHook moment.outside

/-- The call deletes a local reference. -/
def Call.deletesLocal : Call → Bool
  | .env _ (.deleteLocalRef _) => true
  | _ => false

/-- Nobody changes the hook while a local reference is deleted, and whoever acts during another call
leaves the last hook remembered. -/
structure Exchange.Tracks (exchange : Exchange Chronicle) : Prop where
  tracked : Tracked exchange.before → Tracked exchange.after
  still : exchange.request.deletesLocal = true →
    exchange.after.bridge.hooked = exchange.before.bridge.hooked

/-! ## What most activities do -/

/-- The setting in which the last hook stays remembered. -/
def tracking (thread : NativeThread) : Setting Chronicle where
  thread := thread
  law := Exchange.Tracks
  good := Tracked
  later first last := Tracked first → Tracked last
  own _ _ := True
  known _ _ := True
  trusts _ := True
  refl _ htracked := htracked
  trans hfirst hlast htracked := hlast (hfirst htracked)
  stays htracked hlater := hlater htracked
  call htracks _ := htracks.tracked
  knows _ := trivial
  answer _ _ := trivial
  pointer _ _ := trivial
  attached _ _ := trivial
  issued _ _ := fun _ _ _ _ _ _ ↦ trivial
  kept _ _ := fun _ _ _ _ _ _ ↦ trivial
  shift _ hshifts htracked := hshifts.hooked.trans htracked
  keepClass _ _ _ _ htracked := htracked
  keepLoader _ _ _ _ htracked := htracked

/-- The activity changes the hook. -/
def Activity.hooks : Activity → Bool
  | .operate .registerShutdownHook _ | .signalShutdown => true
  | _ => false

theorem tracking_activity (thread : NativeThread) {activity : Activity}
    (hquiet : activity.hooks = false) :
    (tracking thread).Admits activity.program fun _ ↦ True := by
  refine Setting.Admits.activity (fun _ _ ↦ trivial) activity (fun _ _ ↦ trivial) ?_ ?_ ?_
  · exact fun _ _ _ hmiddle htracked ↦ hmiddle htracked
  · rintro env rfl
    cases hquiet
  · rintro rfl
    cases hquiet

/-! ## Registering a hook -/

open Program (Ensures)

/-- An operation that remembers a hook at its end if it succeeds, and leaves the last one remembered
if it fails. -/
def Remembers (thread : NativeThread) (hook : LifecycleId × Nat) (operation : Fallible α) : Prop :=
  ∀ first, Tracked first → Ensures Exchange.Tracks thread operation.run first
    fun exchanges result last ↦
      (∀ exchange ∈ exchanges, exchange.request.deletesLocal = false → Tracked exchange.before) ∧
      match result with
      | .ok _ => last.bridge.hooked = some hook
      | .error _ => Tracked last

namespace Remembers

variable {β : Type} {thread : NativeThread} {hook : LifecycleId × Nat}

theorem andThen {operation : Fallible α} {next : α → Fallible β} {failed : Error → Prop}
    {wanted : α → Prop}
    (hoperation : (tracking thread).Admits operation.run (Setting.Ends failed wanted))
    (hnext : ∀ value, Remembers thread hook (next value)) :
    Remembers thread hook (operation >>= next) := by
  intro first htracked
  rw [Fallible.ensures_bind]
  refine (hoperation first htracked).weaken ?_
  rintro begun (error | value) middle ⟨hmiddle, hbegun, -⟩
  · exact ⟨fun exchange hmem _ ↦ (hbegun exchange hmem).1 htracked, hmiddle htracked⟩
  · refine (hnext value middle (hmiddle htracked)).weaken ?_
    rintro rest result last ⟨hrest, hresult⟩
    refine ⟨fun exchange hmem hdeletes ↦ ?_, hresult⟩
    rcases List.mem_append.1 hmem with hmem | hmem
    · exact (hbegun exchange hmem).1 htracked
    · exact hrest exchange hmem hdeletes

theorem rememberHook :
    Remembers thread hook (liftM (JavaInterop.rememberHook hook.1 hook.2) : Fallible Unit) := by
  intro first _
  unfold JavaInterop.rememberHook
  rw [Fallible.ensures_lift, Program.ensures_update]
  exact ⟨fun _ hmem ↦ absurd hmem List.not_mem_nil, rfl⟩

end Remembers

/-- Giving up a local reference does nothing to the hook. -/
theorem ensures_dropLocal_hooked (thread : NativeThread) (reference : LocalReference)
    (first : Moment Chronicle) :
    Ensures Exchange.Tracks thread reference.drop first fun exchanges _ last ↦
      (∀ exchange ∈ exchanges, exchange.request.deletesLocal = true) ∧
        last.bridge.hooked = first.bridge.hooked := by
  unfold LocalReference.drop Env.deleteLocal
  cases reference.raw with
  | none => exact Program.ensures_pure.2 ⟨fun _ hmem ↦ absurd hmem List.not_mem_nil, rfl⟩
  | some handle =>
    unfold LifecycleId.registered?
    rw [Program.ensures_bind, Program.ensures_look]
    cases first.bridge.registered? reference.env.lifecycle reference.env.generation with
    | none => exact Program.ensures_pure.2 ⟨fun _ hmem ↦ absurd hmem List.not_mem_nil, rfl⟩
    | some registration =>
      refine Program.ensures_perform.2 fun reply after htracks ↦ ⟨?_, htracks.still rfl⟩
      intro exchange hmem
      cases List.mem_singleton.1 hmem
      rfl

theorem Remembers.scope {thread : NativeThread} {hook : LifecycleId × Nat}
    {reference : LocalReference} {body : Fallible α} (hbody : Remembers thread hook body) :
    Remembers thread hook (reference.scope body) := by
  intro first htracked
  unfold LocalReference.scope
  rw [Fallible.ensures_thenAlways]
  refine (hbody first htracked).weaken ?_
  rintro begun result middle ⟨hbegun, hresult⟩
  have hexchanges : ∀ rest : List (Exchange Chronicle),
      (∀ exchange ∈ rest, exchange.request.deletesLocal = true) → ∀ exchange ∈ begun ++ rest,
        exchange.request.deletesLocal = false → Tracked exchange.before := by
    intro rest hrest exchange hmem hdeletes
    rcases List.mem_append.1 hmem with hmem | hmem
    · exact hbegun exchange hmem hdeletes
    · cases hdeletes.symm.trans (hrest exchange hmem)
  cases result with
  | ok _ =>
    refine (ensures_dropLocal_hooked thread reference middle).weaken ?_
    rintro rest _ last ⟨hrest, hsame⟩
    exact ⟨hexchanges rest hrest, hsame.trans hresult⟩
  | error _ =>
    have hdrop : (tracking thread).Admits reference.drop fun _ ↦ True :=
      Setting.Admits.dropLocal fun _ _ ↦ trivial
    refine ((ensures_dropLocal_hooked thread reference middle).and (hdrop middle hresult)).weaken ?_
    rintro rest _ last ⟨⟨hrest, -⟩, hlast, -⟩
    exact ⟨hexchanges rest hrest, hlast hresult⟩

theorem remembers_registerShutdownHook (thread : NativeThread) (env : Env) :
    Remembers thread (env.lifecycle, env.generation) (registerShutdownHook env) := by
  have hknows : ∀ reference, (tracking thread).Knows env reference := fun _ _ _ ↦ trivial
  have htrusts : (tracking thread).trusts env := trivial
  refine .andThen (Setting.Performs.findClass htrusts _) fun classObject ↦ .scope ?_
  have hmethod : ∀ name signature function, (tracking thread).Performs env
      (ExceptT.mk (pure (NativeMethod.of name signature function))) fun _ ↦ True :=
    Setting.Performs.nativeMethod
  refine .andThen (hmethod _ _ _) fun method ↦ ?_
  refine .andThen (Setting.Performs.withReason htrusts _
    (Setting.Performs.registerNatives htrusts (hknows _) _)) fun _ ↦ ?_
  refine .andThen (Setting.Performs.findMethod (hknows _) _ _ _) fun register ↦ ?_
  refine .andThen (Setting.Performs.withReason htrusts _
    (Setting.Performs.callStaticVoid htrusts (hknows _) (fun _ _ ↦ hknows _) _)) fun _ ↦ ?_
  exact .rememberHook

/-! ## Signals -/

/-- What a signal does to the bridge if this is the hook that is remembered: it resets the lifecycle
of the hook if the registration that it was meant for is still there, and no other lifecycle. -/
structure Signals (hook : Option (LifecycleId × Nat)) (before after : Bridge) : Prop where
  forgets : ∀ id generation, hook = some (id, generation) → before.isLive id generation = true →
    after.lifecycle id = { }
  spares : ∀ id, (∀ generation, hook = some (id, generation) →
    before.isLive id generation = false) → after.lifecycle id = before.lifecycle id
  unhooks : after.hooked = none

theorem ensures_reset_registered {ω : Type} {law : Exchange ω → Prop} {thread : NativeThread}
    {first : Moment ω} {id : LifecycleId} {registration : Registration}
    (hregistration : (first.bridge.lifecycle id).registration = some registration) :
    Ensures law thread id.reset first fun exchanges _ last ↦
      exchanges = [] ∧ last = ⟨first.bridge.forget id, first.outside⟩ := by
  rw [LifecycleId.ensures_reset_iff, hregistration]
  exact ⟨rfl, rfl⟩

/-- A signal is over before anything else can happen. -/
theorem ensures_signalShutdown {ω : Type} {law : Exchange ω → Prop} {thread : NativeThread}
    {first : Moment ω} : Ensures law thread signalShutdown first fun exchanges _ last ↦
      exchanges = [] ∧ last.outside = first.outside ∧
        Signals first.bridge.hooked first.bridge last.bridge := by
  unfold signalShutdown
  rw [Program.ensures_bind, Program.ensures_state, Program.ensures_bind, Program.ensures_update]
  cases hhooked : first.bridge.hooked with
  | none => exact Program.ensures_pure.2 ⟨rfl, rfl, nofun, fun _ _ ↦ rfl, rfl⟩
  | some hook =>
    obtain ⟨id, generation⟩ := hook
    dsimp only
    split
    · rename_i hlive
      obtain ⟨registration, hregistration, -⟩ := isLive_iff.1 hlive
      refine Ensures.weaken (ensures_reset_registered hregistration) ?_
      rintro _ _ _ ⟨rfl, rfl⟩
      refine ⟨rfl, rfl, ?_, fun other hother ↦ ?_, rfl⟩
      · rintro _ _ ⟨rfl⟩ -
        exact Bridge.lifecycle_setLifecycle_self _ _ _
      · refine Bridge.lifecycle_setLifecycle_of_ne _ _ ?_
        rintro rfl
        cases hlive.symm.trans (hother generation rfl)
    · rename_i hgone
      refine Program.ensures_pure.2 ⟨rfl, rfl, ?_, fun _ _ ↦ rfl, rfl⟩
      rintro _ _ ⟨rfl⟩ hlive
      exact absurd hlive hgone

/-! ## The course of a process -/

variable {rules : ProcessRules}

theorem hookAfter_of_quiet {activity : Activity} (hquiet : activity.hooks = false)
    (hook : Option (LifecycleId × Nat)) (thread : NativeThread) (succeeded : Bool) :
    (Record.finished thread activity succeeded).hookAfter hook = hook := by
  unfold Record.hookAfter
  split
  · cases ‹Record.finished .. = _›
    cases hquiet
  · cases ‹Record.finished .. = _›
    cases hquiet
  · rfl

/-- What an activity does to the last hook. -/
theorem Activity.tracks {activity : Activity} {thread : NativeThread}
    {first last : Moment Chronicle} {exchanges : List (Exchange Chronicle)} {succeeded : Bool}
    (htracked : Tracked first)
    (hrun : activity.program.Run thread first exchanges succeeded last)
    (htracks : ∀ exchange ∈ exchanges, exchange.Tracks) :
    (∀ exchange ∈ exchanges, exchange.request.deletesLocal = false → Tracked exchange.before) ∧
      Tracked ⟨last.bridge, last.outside ++ [.finished thread activity succeeded]⟩ := by
  unfold Tracked
  simp only [lastHook_snoc]
  cases hquiet : activity.hooks with
  | false =>
    obtain ⟨hlast, hexchanges, -⟩ :=
      tracking_activity thread hquiet first htracked exchanges succeeded last hrun htracks
    rw [hookAfter_of_quiet hquiet]
    exact ⟨fun exchange hmem _ ↦ (hexchanges exchange hmem).1 htracked, hlast htracked⟩
  | true =>
    unfold Activity.hooks at hquiet
    split at hquiet
    · rename_i env
      have hremembers : Ensures Exchange.Tracks thread
          (Activity.operate .registerShutdownHook env).program first fun exchanges succeeded last ↦
            (∀ exchange ∈ exchanges, exchange.request.deletesLocal = false →
              Tracked exchange.before) ∧
            if succeeded then last.bridge.hooked = some (env.lifecycle, env.generation)
            else Tracked last := by
        refine Program.ensures_map.2
          ((remembers_registerShutdownHook thread env first htracked).weaken ?_)
        rintro exchanges (error | _) last ⟨hexchanges, hlast⟩
        · exact ⟨hexchanges, hlast⟩
        · exact ⟨hexchanges, hlast⟩
      obtain ⟨hexchanges, hlast⟩ := hremembers exchanges succeeded last hrun htracks
      cases succeeded with
      | false => exact ⟨hexchanges, hlast⟩
      | true => exact ⟨hexchanges, hlast⟩
    · have hsignals : Ensures Exchange.Tracks thread Activity.signalShutdown.program first
          fun exchanges _ last ↦ exchanges = [] ∧ last.bridge.hooked = none := by
        refine Program.ensures_map.2 (ensures_signalShutdown.weaken ?_)
        rintro exchanges _ last ⟨hnone, -, hsignals⟩
        exact ⟨hnone, hsignals.unhooks⟩
      obtain ⟨rfl, hlast⟩ := hsignals exchanges succeeded last hrun htracks
      exact ⟨fun _ hmem ↦ absurd hmem List.not_mem_nil, hlast⟩
    · cases hquiet

/-- What is known about the machines of the process: the hook is left alone while they delete a
local reference. -/
def ProcessRules.DeletesQuietly (rules : ProcessRules) : Prop :=
  ∀ exchange, rules.law exchange → exchange.request.deletesLocal = true →
    exchange.after.bridge.hooked = exchange.before.bridge.hooked

theorem ProcessRules.Evolves.tracked (hquiet : rules.DeletesQuietly) {first last : Moment Chronicle}
    (hevolves : rules.Evolves first last) (htracked : Tracked first) : Tracked last := by
  induction hevolves with
  | refl => exact htracked
  | look _ ih =>
    unfold Tracked
    simp only [lastHook_snoc]
    exact ih htracked
  | act _ _ hrun hlaw _ ihbefore ihmeanwhile =>
    refine (Activity.tracks (ihbefore htracked) hrun fun exchange hmem ↦ ⟨?_, ?_⟩).2
    · exact ihmeanwhile exchange hmem
    · exact hquiet exchange (hlaw exchange hmem)

/-- The moments at which native code may be entered: between two activities, or in a call other than
one that deletes a local reference. -/
inductive ProcessRules.Enters (rules : ProcessRules) : Moment Chronicle → Prop
  | start (registry : Registry) : rules.Enters ⟨{ registry := registry }, []⟩
  | later {first last : Moment Chronicle} (hfirst : rules.Enters first)
      (hevolves : rules.Evolves first last) : rules.Enters last
  | within {first last : Moment Chronicle} {thread : NativeThread} {activity : Activity}
      {exchanges : List (Exchange Chronicle)} {succeeded : Bool} {exchange : Exchange Chronicle}
      (hfirst : rules.Enters first) (hpermits : rules.permits first activity)
      (hrun : activity.program.Run thread first exchanges succeeded last)
      (hbears : ∀ exchange ∈ exchanges, rules.Bears exchange) (hmem : exchange ∈ exchanges)
      (henters : exchange.request.deletesLocal = false) : rules.Enters exchange.before

theorem ProcessRules.Enters.tracked (hquiet : rules.DeletesQuietly) {moment : Moment Chronicle}
    (henters : rules.Enters moment) : Tracked moment := by
  induction henters with
  | start => rfl
  | later _ hevolves ih => exact hevolves.tracked hquiet ih
  | within _ _ hrun hbears hmem henters ih =>
    refine (Activity.tracks ih hrun fun exchange hmem ↦ ⟨?_, ?_⟩).1 _ hmem henters
    · exact (hbears exchange hmem).2.tracked hquiet
    · exact hquiet exchange (hbears exchange hmem).1

/-- Whenever a signal comes, it resets the lifecycle of the last hook, if the registration that the
hook was meant for is still there, and touches no other lifecycle. -/
theorem ProcessRules.Enters.signals (hquiet : rules.DeletesQuietly) {moment : Moment Chronicle}
    (henters : rules.Enters moment) {law : Exchange Chronicle → Prop} {thread : NativeThread} :
    Ensures law thread signalShutdown moment fun exchanges _ last ↦
      exchanges = [] ∧ last.outside = moment.outside ∧
        Signals (lastHook moment.outside) moment.bridge last.bridge := by
  have htracked : moment.bridge.hooked = lastHook moment.outside := henters.tracked hquiet
  rw [← htracked]
  exact ensures_signalShutdown

/-! ## Two machines -/

/-- Native code does what it likes, and nothing else happens while a local reference is deleted. -/
def ProcessRules.quiet : ProcessRules where
  permits _ _ := True
  law exchange := exchange.request.deletesLocal = true → exchange.after = exchange.before

theorem ProcessRules.deletesQuietly_quiet : ProcessRules.quiet.DeletesQuietly := by
  intro exchange hlaw hdeletes
  rw [hlaw hdeletes]

namespace Sample

/-- The machine of a lifecycle is replaced by another one, and both have registered a hook. -/
def replacement : List (@Activity host) :=
  let _ := host
  [.adopt .shared (some vm) .v1_8, .operate .registerShutdownHook env, .reset .shared,
    .adopt .shared (some neighbour) .v1_8, .operate .registerShutdownHook (neighbourEnv .shared)]

/-- Two lifecycles have a machine each, and both have registered a hook. -/
def neighbourhood : List (@Activity host) :=
  let _ := host
  [.adopt .shared (some vm) .v1_8, .operate .registerShutdownHook env,
    .adopt ⟨1⟩ (some neighbour) .v1_8, .operate .registerShutdownHook (neighbourEnv ⟨1⟩)]

end Sample

section

omit [Host]

theorem ProcessRules.enters_course (activities : List (@Activity Sample.host)) :
    let _ := Sample.host
    ProcessRules.quiet.Enters (Sample.course activities) := by
  intro _
  exact .later (.start .builtins)
    (ProcessRules.evolves_courseOf (fun _ _ ↦ trivial) (fun _ _ _ ↦ rfl) activities)

/-- A signal resets the second machine of the lifecycle. -/
theorem ProcessRules.Enters.signals_replacement :
    let _ := Sample.host
    let moment := Sample.course Sample.replacement
    ProcessRules.quiet.DeletesQuietly ∧ ProcessRules.quiet.Enters moment ∧
      lastHook moment.outside = some (.shared, 2) ∧
      Ensures ProcessRules.quiet.Bears Sample.thread signalShutdown moment fun exchanges _ last ↦
        exchanges = [] ∧ last.outside = moment.outside ∧
          Signals (lastHook moment.outside) moment.bridge last.bridge := by
  intro _ moment
  have henters : ProcessRules.quiet.Enters moment := ProcessRules.enters_course Sample.replacement
  exact ⟨ProcessRules.deletesQuietly_quiet, henters, by decide +kernel,
    henters.signals ProcessRules.deletesQuietly_quiet⟩

/-- The first machine of a lifecycle was replaced by a second one, and both have registered a hook.
When the first one shuts down, the second one is forgotten. -/
theorem ProcessRules.hook_of_replaced_machine :
    let _ := Sample.host
    let moment := Sample.course Sample.replacement
    let last := Activity.signalShutdown.afterwards Sample.something Sample.thread moment
    ProcessRules.quiet.Enters moment ∧ moment.outside.any Record.failed = false ∧
      (moment.bridge.lifecycle .shared).registration.map Registration.vm =
        some Sample.neighbour ∧
      (last.bridge.lifecycle .shared).registration = none :=
  ⟨ProcessRules.enters_course Sample.replacement, by decide +kernel, by decide +kernel,
    by decide +kernel⟩

/-- Two lifecycles have a machine each, and both machines have registered a hook, the one of the
shared lifecycle first.  When this one shuts down, the other one is forgotten in its place. -/
theorem ProcessRules.hook_of_neighbour :
    let _ := Sample.host
    let moment := Sample.course Sample.neighbourhood
    let last := Activity.signalShutdown.afterwards Sample.something Sample.thread moment
    ProcessRules.quiet.Enters moment ∧ moment.outside.any Record.failed = false ∧
      (moment.bridge.lifecycle .shared).registration.map Registration.vm = some Sample.vm ∧
      (moment.bridge.lifecycle ⟨1⟩).registration.map Registration.vm = some Sample.neighbour ∧
      (last.bridge.lifecycle .shared).registration.map Registration.vm = some Sample.vm ∧
      (last.bridge.lifecycle ⟨1⟩).registration = none :=
  ⟨ProcessRules.enters_course Sample.neighbourhood, by decide +kernel, by decide +kernel,
    by decide +kernel, by decide +kernel, by decide +kernel⟩

end

end JavaInterop
