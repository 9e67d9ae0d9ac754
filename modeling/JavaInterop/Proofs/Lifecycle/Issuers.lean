import JavaInterop.Proofs.Lifecycle.Forgotten

/-!
# Which machine has issued what

A generation belongs to one machine for the whole life of a process.  What is kept under it, be it a
class or a class loader, was issued by this machine, whatever has been registered since.

Two things are relied on that the bridge cannot see: a machine answers with references of its own,
and an environment is used under the registration that it was obtained under.
-/

namespace JavaInterop

variable [Host] {ω : Type}

/-! ## Machines and generations -/

/-- Someone has seen the machine registered under the generation. -/
def Attests (chronicle : Chronicle) (generation : Nat) (vm : VmId) : Prop :=
  ∃ bridge id registration, Record.seen bridge ∈ chronicle ∧
    (bridge.lifecycle id).registration = some registration ∧
    registration.generation = generation ∧ registration.vm = vm

/-- The machine is registered under the generation, or someone has seen it. -/
inductive Moment.Assigns (moment : Moment Chronicle) : Nat → VmId → Prop
  | now {id : LifecycleId} {registration : Registration}
      (hregistration : (moment.bridge.lifecycle id).registration = some registration) :
      moment.Assigns registration.generation registration.vm
  | before {generation : Nat} {vm : VmId} (hattests : Attests moment.outside generation vm) :
      moment.Assigns generation vm

/-- Each generation belongs to one machine, and what is kept was issued by the machine of its
generation. -/
structure Consistent (moment : Moment Chronicle) : Prop where
  orderly : Orderly moment
  unique : ∀ generation vm other, moment.Assigns generation vm → moment.Assigns generation other →
    vm = other
  kept : ∀ thread reference, moment.bridge.Keeps thread reference → ∀ handle,
    reference.raw = some handle → Attests moment.outside reference.generation handle.vm

/-- What may become of a moment if machines and environments are what they seem. -/
structure Upholds (first last : Moment Chronicle) : Prop where
  continues : Continues first last
  consistent : Consistent first → Consistent last

section

variable {first last moment : Moment Chronicle} {bridge : Bridge} {generation : Nat} {vm : VmId}

theorem Attests.of_prefix {chronicle later : Chronicle}
    (hattests : Attests chronicle generation vm) (hlater : chronicle <+: later) :
    Attests later generation vm := by
  obtain ⟨bridge, id, registration, hseen, hregistration⟩ := hattests
  exact ⟨bridge, id, registration, hlater.subset hseen, hregistration⟩

/-- A generation that was given already has not been given again. -/
theorem Moment.Assigns.of_continues (hcontinues : Continues first last)
    (hassigns : last.Assigns generation vm) :
    first.Assigns generation vm ∨ first.bridge.nextGeneration ≤ generation := by
  have hadvanced : ∀ {bridge : Bridge} {id : LifecycleId} {registration : Registration},
      first.bridge.Advances bridge → (bridge.lifecycle id).registration = some registration →
      first.Assigns registration.generation registration.vm ∨
        first.bridge.nextGeneration ≤ registration.generation := by
    intro bridge id registration hadvances hregistration
    exact (hadvances.registration id registration hregistration).imp .now And.left
  cases hassigns with
  | now hregistration => exact hadvanced hcontinues.advances hregistration
  | before hattests =>
    obtain ⟨bridge, id, registration, hseen, hregistration, rfl, rfl⟩ := hattests
    rcases hcontinues.seen bridge hseen with hold | ⟨hadvances, -⟩
    · exact .inl (.before ⟨bridge, id, registration, hold, hregistration, rfl, rfl⟩)
    · exact hadvanced hadvances hregistration

theorem Moment.Assigns.lt_nextGeneration (horderly : Orderly moment)
    (hassigns : moment.Assigns generation vm) : generation < moment.bridge.nextGeneration := by
  cases hassigns with
  | now hregistration => exact horderly.numbered _ _ hregistration
  | before hattests =>
    obtain ⟨bridge, id, registration, hseen, hregistration, rfl, rfl⟩ := hattests
    exact horderly.seen bridge hseen id registration hregistration

/-- The machine that a reference stems from is the one that is registered under its generation. -/
theorem Consistent.issuer (hconsistent : Consistent moment)
    (hattests : Attests moment.outside generation vm) {id : LifecycleId}
    {registration : Registration}
    (hregistered : moment.bridge.registered? id generation = some registration) :
    vm = registration.vm := by
  obtain ⟨hregistration, hgeneration⟩ := Option.filter_eq_some_iff.1 hregistered
  rw [← beq_iff_eq.1 hgeneration] at hattests
  exact hconsistent.unique _ _ _ (.before hattests) (.now hregistration)

namespace Upholds

theorem refl (moment : Moment Chronicle) : Upholds moment moment := ⟨.refl moment, id⟩

theorem trans {middle : Moment Chronicle} (hfirst : Upholds first middle)
    (hlast : Upholds middle last) : Upholds first last :=
  ⟨hfirst.continues.trans hlast.continues, hlast.consistent ∘ hfirst.consistent⟩

/-- Nothing is registered or seen that was not there before, and what is kept besides was issued by
the machine of its generation. -/
theorem of_assigns (hcontinues : Continues first last)
    (hassigns : ∀ generation vm, last.Assigns generation vm → first.Assigns generation vm)
    (hkeeps : ∀ thread reference, last.bridge.Keeps thread reference →
      first.bridge.Keeps thread reference ∨ ∀ handle, reference.raw = some handle →
        Attests first.outside reference.generation handle.vm) : Upholds first last := by
  refine ⟨hcontinues, fun hfirst ↦ ⟨hcontinues.orderly hfirst.orderly, ?_, ?_⟩⟩
  · intro generation vm other hvm hother
    exact hfirst.unique generation vm other (hassigns _ _ hvm) (hassigns _ _ hother)
  · intro thread reference hkept handle hraw
    refine Attests.of_prefix ?_ hcontinues.chronicle
    rcases hkeeps thread reference hkept with hbefore | hissued
    · exact hfirst.kept thread reference hbefore handle hraw
    · exact hissued handle hraw

/-- The bridge changes, but nothing is registered. -/
theorem of_bridge (hgeneration : moment.bridge.nextGeneration ≤ bridge.nextGeneration)
    (hregistration : ∀ id, (bridge.lifecycle id).registration = none ∨
      (bridge.lifecycle id).registration = (moment.bridge.lifecycle id).registration)
    (hkeeps : ∀ thread reference, bridge.Keeps thread reference →
      moment.bridge.Keeps thread reference ∨ ∀ handle, reference.raw = some handle →
        Attests moment.outside reference.generation handle.vm) :
    Upholds moment ⟨bridge, moment.outside⟩ := by
  have hregistered : ∀ id registration, (bridge.lifecycle id).registration = some registration →
      (moment.bridge.lifecycle id).registration = some registration :=
    fun id _ ↦ eq_some_of_shift (hregistration id)
  refine of_assigns (.of_advances ⟨hgeneration, fun id registration hafter ↦
    .inl (hregistered id registration hafter)⟩) ?_ hkeeps
  rintro _ _ (hafter | hattests)
  · exact .now (hregistered _ _ hafter)
  · exact .before hattests

theorem of_shifts (hshifts : moment.bridge.Shifts bridge) :
    Upholds moment ⟨bridge, moment.outside⟩ :=
  of_bridge hshifts.generation hshifts.registration
    fun _ _ hkept ↦ .inl (keeps_of_shifts hshifts hkept)

/-- Someone may look at the bridge. -/
theorem record (moment : Moment Chronicle) {entry : Record}
    (htruth : ∀ bridge, entry = .seen bridge → bridge = moment.bridge) :
    Upholds moment ⟨moment.bridge, moment.outside ++ [entry]⟩ := by
  refine of_assigns (.record moment htruth) ?_ fun _ _ ↦ .inl
  rintro _ _ (hregistration | ⟨bridge, id, registration, hseen, hregistration, rfl, rfl⟩)
  · exact .now hregistration
  · rcases List.mem_append.1 hseen with hold | hnew
    · exact .before ⟨bridge, id, registration, hold, hregistration, rfl, rfl⟩
    · have hnow := htruth bridge (List.mem_singleton.1 hnew).symm
      exact .now (hnow ▸ hregistration)

/-- A generation that was drawn may be registered for any machine: it belongs to no other one. -/
theorem register {drawn middle : Moment Chronicle} {registration : Registration}
    (id : LifecycleId) (hgeneration : registration.generation = drawn.bridge.nextGeneration)
    (hmiddle : Upholds
      ⟨{ drawn.bridge with nextGeneration := drawn.bridge.nextGeneration + 1 }, drawn.outside⟩
      middle) :
    Upholds drawn ⟨middle.bridge.setLifecycle id
      { middle.bridge.lifecycle id with registration := some registration }, middle.outside⟩ := by
  have hcontinues := Continues.register id hgeneration hmiddle.continues
  refine ⟨hcontinues, fun hdrawn ↦ ?_⟩
  have hfresh : Upholds drawn
      ⟨{ drawn.bridge with nextGeneration := drawn.bridge.nextGeneration + 1 }, drawn.outside⟩ :=
    of_shifts (.of_same (Nat.le_succ _) rfl rfl rfl rfl)
  have hconsistent := hmiddle.consistent (hfresh.consistent hdrawn)
  have hunassigned : ∀ vm, ¬ middle.Assigns registration.generation vm := by
    have hbefore : ∀ generation vm, Moment.Assigns
        ⟨{ drawn.bridge with nextGeneration := drawn.bridge.nextGeneration + 1 }, drawn.outside⟩
        generation vm → generation < drawn.bridge.nextGeneration := by
      rintro _ _ (hregistration | hattests)
      · exact hdrawn.orderly.numbered _ _ hregistration
      · have hassigns : drawn.Assigns _ _ := .before hattests
        exact hassigns.lt_nextGeneration hdrawn.orderly
    intro vm hassigns
    rcases hassigns.of_continues hmiddle.continues with hfreshAssigns | hlow
    · exact absurd (hbefore _ _ hfreshAssigns) (by simp [hgeneration])
    · exact absurd (hgeneration ▸ hlow) (Nat.not_succ_le_self _)
  have hassigns : ∀ generation vm, Moment.Assigns
      ⟨middle.bridge.setLifecycle id
        { middle.bridge.lifecycle id with registration := some registration }, middle.outside⟩
      generation vm → middle.Assigns generation vm ∨
        generation = registration.generation ∧ vm = registration.vm := by
    rintro _ _ (@⟨other, found, hfound⟩ | hattests)
    · rcases registration_setLifecycle hfound with ⟨-, rfl⟩ | hfound
      · exact .inr ⟨rfl, rfl⟩
      · exact .inl (.now hfound)
    · exact .inl (.before hattests)
  refine ⟨hcontinues.orderly hdrawn.orderly, fun generation vm other hvm hother ↦ ?_, ?_⟩
  · rcases hassigns _ _ hvm with hvm | ⟨rfl, rfl⟩
    · rcases hassigns _ _ hother with hother | ⟨rfl, rfl⟩
      · exact hconsistent.unique _ _ _ hvm hother
      · exact absurd hvm (hunassigned vm)
    · rcases hassigns _ _ hother with hother | ⟨-, rfl⟩
      · exact absurd hother (hunassigned other)
      · rfl
  · intro thread reference hkept
    exact hconsistent.kept thread reference (keeps_of_same hkept rfl rfl)

end Upholds

end

/-! ## Everything that happens -/

/-- A machine answers with references of its own, and it gives out environments of its own. -/
def Exchange.Faithful : Exchange ω → Prop
  | ⟨_, .env pointer function, reply, _, _⟩ =>
    ∀ handle, function.answered reply = some handle → handle.vm = pointer.vm
  | ⟨_, .getEnv vm _, reply, _, _⟩ | ⟨_, .attach vm _, reply, _, _⟩ =>
    ∀ pointer, reply = .ok pointer → pointer.vm = vm
  | _ => True

/-- The reference was issued by the machine of the environment. -/
abbrev TrulyIssued (env : Env) (reference : GlobalReference) : Prop :=
  IssuedThrough (fun vm handle ↦ handle.vm = vm) env reference

section

variable {chronicle : Chronicle} {moment : Moment Chronicle} {bridge : Bridge} {env : Env}
  {reference : GlobalReference}

/-- What was issued through an environment was issued by the machine of its generation. -/
theorem TrulyIssued.attests (hissued : TrulyIssued env reference)
    (hattests : Attests chronicle env.generation env.pointer.vm) :
    ∀ handle, reference.raw = some handle →
      Attests chronicle reference.generation handle.vm := by
  intro handle hraw
  rw [hissued.own handle hraw, hissued.generation]
  exact hattests

/-- A reference may be kept that was issued through an environment of a machine that was seen. -/
theorem Upholds.of_issued (hissued : TrulyIssued env reference)
    (hattests : Attests moment.outside env.generation env.pointer.vm)
    (hgeneration : bridge.nextGeneration = moment.bridge.nextGeneration)
    (hlifecycles : bridge.lifecycles = moment.bridge.lifecycles)
    (hkeeps : ∀ thread other, bridge.Keeps thread other →
      moment.bridge.Keeps thread other ∨ other = reference) :
    Upholds moment ⟨bridge, moment.outside⟩ := by
  refine .of_bridge (Nat.le_of_eq hgeneration.symm) (fun id ↦ .inr ?_) fun thread other hkept ↦ ?_
  · unfold Bridge.lifecycle
    rw [hlifecycles]
  · refine (hkeeps thread other hkept).imp_right ?_
    rintro rfl
    exact hissued.attests hattests

end

/-- The setting in which it matters who has issued what.  Environments are used that were known when
the chronicle was this long. -/
def assigning (chronicle : Chronicle) (thread : NativeThread) : Setting Chronicle where
  thread := thread
  law exchange := exchange.Faithful ∧ Upholds exchange.before exchange.after
  good moment := chronicle <+: moment.outside
  later := Upholds
  own vm handle := handle.vm = vm
  known _ _ := True
  trusts env := Attests chronicle env.generation env.pointer.vm
  refl := .refl
  trans := .trans
  stays hgood hlater := hgood.trans hlater.continues.chronicle
  call hlaw _ := hlaw.2
  knows _ := trivial
  answer hlaw hanswered := hlaw.1 _ hanswered
  pointer _ _ := trivial
  attached _ _ := trivial
  issued _ _ := fun _ _ _ _ _ _ ↦ trivial
  kept _ _ := fun _ _ _ _ _ _ ↦ trivial
  shift _ hshifts := .of_shifts hshifts
  keepClass _ hgood hattests hissued :=
    .of_issued hissued (hattests.of_prefix hgood) rfl rfl fun _ _ ↦ keeps_insert
  keepLoader hgood hattests hissued hloader :=
    .of_issued hissued (hattests.of_prefix hgood) rfl rfl fun _ _ ↦ keeps_setThread hloader

theorem assigning_activity {chronicle : Chronicle} (thread : NativeThread) {activity : Activity}
    (hattested : ∀ env, activity.env? = some env →
      Attests chronicle env.generation env.pointer.vm) :
    (assigning chronicle thread).Admits activity.program fun _ ↦ True := by
  refine Setting.Admits.activity (fun _ _ ↦ trivial) activity hattested ?_ ?_ ?_
  · exact fun id _ hgeneration hmiddle ↦ Upholds.register id hgeneration hmiddle
  · exact fun _ _ _ _ ↦ .of_bridge (Nat.le_refl _) (fun _ ↦ .inr rfl)
      fun _ _ hkept ↦ .inl (keeps_of_same hkept rfl rfl)
  · exact fun _ _ _ ↦ .of_bridge (Nat.le_refl _) (fun _ ↦ .inr rfl)
      fun _ _ hkept ↦ .inl (keeps_of_same hkept rfl rfl)

/-- Machines and environments are what they seem: machines answer with references of their own, and
an environment is used under a registration that its machine was seen under. -/
structure ProcessRules.Honest (rules : ProcessRules) : Prop where
  faithful : ∀ exchange, rules.law exchange → exchange.Faithful
  attested : ∀ moment activity env, rules.permits moment activity → activity.env? = some env →
    Attests moment.outside env.generation env.pointer.vm

variable {rules : ProcessRules}

theorem ProcessRules.Evolves.upholds (hhonest : rules.Honest) {first last : Moment Chronicle}
    (hevolves : rules.Evolves first last) : Upholds first last := by
  induction hevolves with
  | refl moment => exact .refl moment
  | look _ ih =>
    refine ih.trans (.record _ ?_)
    rintro bridge ⟨rfl⟩
    rfl
  | @act first middle last thread activity exchanges succeeded _ hpermits hrun hlaw _ ihbefore
      ihmeanwhile =>
    have hadmits := assigning_activity thread fun env henv ↦
      hhonest.attested middle activity env hpermits henv
    obtain ⟨hupholds, -⟩ := hadmits middle List.prefix_rfl exchanges succeeded last hrun
      fun exchange hmem ↦
        ⟨hhonest.faithful exchange (hlaw exchange hmem), ihmeanwhile exchange hmem⟩
    exact (ihbefore.trans hupholds).trans (.record _ fun _ hseen ↦ nomatch hseen)

/-- Each generation belongs to one machine throughout. -/
theorem ProcessRules.Reaches.consistent (hhonest : rules.Honest) {moment : Moment Chronicle}
    (hreaches : rules.Reaches moment) : Consistent moment := by
  induction hreaches with
  | start registry =>
    have hstart : rules.Reaches ⟨{ registry := registry }, []⟩ := .start registry
    refine ⟨hstart.orderly, ?_, ?_⟩
    · rintro _ _ _ (hregistration | ⟨_, _, _, hseen, _⟩)
      · cases hregistration
      · cases hseen
    · rintro thread reference (⟨key, hfound⟩ | hloader)
      · cases hfound
      · cases hloader
  | later _ hevolves ih => exact (hevolves.upholds hhonest).consistent ih
  | @within first last thread activity exchanges succeeded exchange _ hpermits hrun hbears hmem
      ih =>
    have hadmits := assigning_activity thread fun env henv ↦
      hhonest.attested first activity env hpermits henv
    obtain ⟨-, hexchanges, -⟩ := hadmits first List.prefix_rfl exchanges succeeded last hrun
      fun exchange hmem ↦ ⟨hhonest.faithful exchange (hbears exchange hmem).1,
        (hbears exchange hmem).2.upholds hhonest⟩
    exact (hexchanges exchange hmem).1.consistent ih

end JavaInterop
