import JavaInterop.Proofs.Lifecycle.Course
import JavaInterop.Proofs.Lifecycle.Generations

/-!
# Registrations that are gone

A registration that was forgotten never comes back: a later machine of the same lifecycle, even the
same machine, is registered under another generation.  Whatever stems from the registration and is
still around, in the hands of native code, with a thread or in the cache of classes, finds out that
its machine has gone before it does anything.
-/

namespace JavaInterop

variable [Host]

/-! ## What the chronicle tells -/

/-- A generation of a lifecycle was seen to be registered, and later it was seen to be registered no
more. -/
def Forgot (chronicle : Chronicle) (id : LifecycleId) (generation : Nat) : Prop :=
  ∃ before after : Bridge, before.isLive id generation = true ∧
    after.isLive id generation = false ∧
    [Record.seen before, Record.seen after].Sublist chronicle

theorem isLive_iff {bridge : Bridge} {id : LifecycleId} {generation : Nat} :
    bridge.isLive id generation = true ↔ ∃ registration,
      (bridge.lifecycle id).registration = some registration ∧
        registration.generation = generation := by
  unfold Bridge.isLive Bridge.registered?
  rw [Option.isSome_iff_exists]
  simp only [Option.filter_eq_some_iff, beq_iff_eq]

/-- The bridge is in order: no generation is registered that has not been given yet, now or at a
time when someone looked, and nothing is registered that was forgotten. -/
structure Orderly (moment : Moment Chronicle) : Prop where
  numbered : moment.bridge.Numbered
  seen : ∀ bridge, Record.seen bridge ∈ moment.outside → ∀ id registration,
    (bridge.lifecycle id).registration = some registration →
    registration.generation < moment.bridge.nextGeneration
  gone : ∀ id generation, Forgot moment.outside id generation →
    moment.bridge.isLive id generation = false

/-- What may become of a moment.  The chronicle goes on, and of what is registered later, at the end
or when someone looks, either it was registered before or its generation is new. -/
structure Continues (first last : Moment Chronicle) : Prop where
  advances : first.bridge.Advances last.bridge
  chronicle : first.outside <+: last.outside
  seen : ∀ bridge, Record.seen bridge ∈ last.outside → Record.seen bridge ∈ first.outside ∨
    first.bridge.Advances bridge ∧ bridge.nextGeneration ≤ last.bridge.nextGeneration
  orderly : Orderly first → Orderly last

theorem Forgot.of_prefix {chronicle later : Chronicle} {id : LifecycleId} {generation : Nat}
    (hforgot : Forgot chronicle id generation) (hlater : chronicle <+: later) :
    Forgot later id generation := by
  obtain ⟨before, after, hbefore, hafter, hsublist⟩ := hforgot
  exact ⟨before, after, hbefore, hafter, hsublist.trans hlater.sublist⟩

/-- What is registered once something has been registered in a lifecycle. -/
theorem registration_setLifecycle {bridge : Bridge} {id other : LifecycleId}
    {registration found : Registration}
    (hfound : ((bridge.setLifecycle id { bridge.lifecycle id with
      registration := some registration }).lifecycle other).registration = some found) :
    other = id ∧ found = registration ∨ (bridge.lifecycle other).registration = some found := by
  by_cases hother : other = id
  · subst hother
    rw [Bridge.lifecycle_setLifecycle_self] at hfound
    exact .inl ⟨rfl, (Option.some.inj hfound).symm⟩
  · rw [Bridge.lifecycle_setLifecycle_of_ne _ _ hother] at hfound
    exact .inr hfound

/-- A generation that was drawn may be registered later. -/
theorem Bridge.Advances.register {drawn middle : Bridge} {registration : Registration}
    (id : LifecycleId) (hgeneration : registration.generation = drawn.nextGeneration)
    (hmiddle : Bridge.Advances { drawn with nextGeneration := drawn.nextGeneration + 1 } middle) :
    drawn.Advances (middle.setLifecycle id
      { middle.lifecycle id with registration := some registration }) := by
  have hfresh : drawn.Advances { drawn with nextGeneration := drawn.nextGeneration + 1 } :=
    ⟨Nat.le_succ _, fun _ _ ↦ .inl⟩
  have hnext : registration.generation < middle.nextGeneration := hgeneration ▸ hmiddle.generation
  refine ⟨Nat.le_of_succ_le hmiddle.generation, fun other found hfound ↦ ?_⟩
  rcases registration_setLifecycle hfound with ⟨rfl, rfl⟩ | hfound
  · exact .inr ⟨Nat.le_of_eq hgeneration.symm, hnext⟩
  · exact (hfresh.trans hmiddle).registration other found hfound

namespace Continues

theorem refl (moment : Moment Chronicle) : Continues moment moment :=
  ⟨.refl _, List.prefix_rfl, fun _ ↦ .inl, id⟩

theorem trans {first middle last : Moment Chronicle} (hfirst : Continues first middle)
    (hlast : Continues middle last) : Continues first last := by
  refine ⟨hfirst.advances.trans hlast.advances, hfirst.chronicle.trans hlast.chronicle, ?_,
    fun horderly ↦ hlast.orderly (hfirst.orderly horderly)⟩
  intro bridge hseen
  rcases hlast.seen bridge hseen with hmiddle | ⟨hadvances, hbound⟩
  · rcases hfirst.seen bridge hmiddle with hold | ⟨hadvances, hbound⟩
    · exact .inl hold
    · exact .inr ⟨hadvances, Nat.le_trans hbound hlast.advances.generation⟩
  · exact .inr ⟨hfirst.advances.trans hadvances, hbound⟩

/-- The bridge goes forward while nobody looks. -/
theorem of_advances {moment : Moment Chronicle} {bridge : Bridge}
    (hadvances : moment.bridge.Advances bridge) : Continues moment ⟨bridge, moment.outside⟩ := by
  refine ⟨hadvances, List.prefix_rfl, fun _ ↦ .inl, fun horderly ↦ ⟨?_, ?_, ?_⟩⟩
  · exact hadvances.numbered horderly.numbered
  · intro seen hseen id registration hregistration
    exact Nat.lt_of_lt_of_le (horderly.seen seen hseen id registration hregistration)
      hadvances.generation
  · intro id generation hforgot
    by_contra hlive
    obtain ⟨registration, hregistration, rfl⟩ := isLive_iff.1 (Bool.not_eq_false _ ▸ hlive)
    rcases hadvances.registration id registration hregistration with hold | ⟨hlow, -⟩
    · have hgone := horderly.gone id _ hforgot
      rw [isLive_iff.2 ⟨registration, hold, rfl⟩] at hgone
      exact Bool.false_ne_true hgone.symm
    · obtain ⟨before, after, hbefore, -, hsublist⟩ := hforgot
      obtain ⟨old, hold, hsame⟩ := isLive_iff.1 hbefore
      have hgiven := horderly.seen before (hsublist.subset List.mem_cons_self) id old hold
      exact absurd (hsame ▸ hgiven) (Nat.not_lt_of_le hlow)

/-- The chronicle goes on.  If someone has looked, it tells the truth. -/
theorem record (moment : Moment Chronicle) {entry : Record}
    (htruth : ∀ bridge, entry = .seen bridge → bridge = moment.bridge) :
    Continues moment ⟨moment.bridge, moment.outside ++ [entry]⟩ := by
  have hold : ∀ bridge, Record.seen bridge ∈ moment.outside ++ [entry] →
      Record.seen bridge ∈ moment.outside ∨ bridge = moment.bridge := by
    intro bridge hmem
    rcases List.mem_append.1 hmem with hmem | hmem
    · exact .inl hmem
    · exact .inr (htruth bridge (List.mem_singleton.1 hmem).symm)
  refine ⟨.refl _, List.prefix_append _ _, ?_, fun horderly ↦ ⟨horderly.numbered, ?_, ?_⟩⟩
  · intro bridge hseen
    rcases hold bridge hseen with hseen | rfl
    · exact .inl hseen
    · exact .inr ⟨.refl _, Nat.le_refl _⟩
  · intro bridge hseen
    rcases hold bridge hseen with hseen | rfl
    · exact horderly.seen bridge hseen
    · exact horderly.numbered
  · rintro id generation ⟨before, after, hbefore, hafter, hsublist⟩
    obtain ⟨begun, ended, hsplit, hbegun, hended⟩ := List.sublist_append_iff.1 hsublist
    match ended, hsplit, hended with
    | [], hsplit, _ =>
      rw [List.append_nil] at hsplit
      exact horderly.gone id generation ⟨before, after, hbefore, hafter, hsplit ▸ hbegun⟩
    | [record], hsplit, hended =>
      have hlast : [Record.seen before] ++ [Record.seen after] = begun ++ [record] := hsplit
      obtain ⟨-, hrecord⟩ := List.append_inj' hlast rfl
      cases hrecord
      have hentry := List.mem_singleton.1 (hended.subset List.mem_cons_self)
      rw [htruth after hentry.symm] at hafter
      exact hafter
    | _ :: _ :: _, _, hended => exact absurd hended.length_le (by simp)

theorem of_shifts {moment : Moment Chronicle} {bridge : Bridge}
    (hshifts : moment.bridge.Shifts bridge) : Continues moment ⟨bridge, moment.outside⟩ :=
  of_advances ⟨hshifts.generation, fun id _ hregistration ↦
    .inl (eq_some_of_shift (hshifts.registration id) hregistration)⟩

/-- A generation that was drawn may be registered: nobody has seen it. -/
theorem register {drawn middle : Moment Chronicle} {registration : Registration}
    (id : LifecycleId) (hgeneration : registration.generation = drawn.bridge.nextGeneration)
    (hmiddle : Continues
      ⟨{ drawn.bridge with nextGeneration := drawn.bridge.nextGeneration + 1 }, drawn.outside⟩
      middle) :
    Continues drawn ⟨middle.bridge.setLifecycle id
      { middle.bridge.lifecycle id with registration := some registration }, middle.outside⟩ := by
  have hfresh : drawn.bridge.Advances
      { drawn.bridge with nextGeneration := drawn.bridge.nextGeneration + 1 } :=
    ⟨Nat.le_succ _, fun _ _ ↦ .inl⟩
  have hnext : registration.generation < middle.bridge.nextGeneration :=
    hgeneration ▸ hmiddle.advances.generation
  refine ⟨hmiddle.advances.register id hgeneration, hmiddle.chronicle, ?_, ?_⟩
  · intro bridge hseen
    rcases hmiddle.seen bridge hseen with hold | ⟨hadvances, hbound⟩
    · exact .inl hold
    · exact .inr ⟨hfresh.trans hadvances, hbound⟩
  · intro horderly
    have hmoment := hmiddle.orderly ((of_advances hfresh).orderly horderly)
    refine ⟨?_, hmoment.seen, ?_⟩
    · intro other found hfound
      rcases registration_setLifecycle hfound with ⟨rfl, rfl⟩ | hfound
      · exact hnext
      · exact hmoment.numbered other found hfound
    · intro other generation hforgot
      by_contra hlive
      obtain ⟨found, hfound, rfl⟩ := isLive_iff.1 (Bool.not_eq_false _ ▸ hlive)
      rcases registration_setLifecycle hfound with ⟨rfl, rfl⟩ | hfound
      · -- Whoever saw the new generation would have seen it before it was drawn.
        obtain ⟨before, after, hbefore, -, hsublist⟩ := hforgot
        obtain ⟨old, hold, hsame⟩ := isLive_iff.1 hbefore
        rw [hgeneration] at hsame
        rcases hmiddle.seen before (hsublist.subset List.mem_cons_self) with hseen | ⟨hadvances, -⟩
        · exact absurd (horderly.seen before hseen other old hold) (by simp [hsame])
        · rcases hadvances.registration other old hold with hbegan | ⟨hlow, -⟩
          · exact absurd (horderly.numbered other old hbegan) (by simp [hsame])
          · exact absurd (hsame ▸ hlow) (Nat.not_succ_le_self _)
      · have hgone := hmoment.gone other _ hforgot
        rw [isLive_iff.2 ⟨found, hfound, rfl⟩] at hgone
        exact Bool.false_ne_true hgone.symm

end Continues

/-! ## Everything that happens -/

/-- The setting in which only the registrations matter. -/
def registering (thread : NativeThread) : Setting Chronicle where
  thread := thread
  law exchange := Continues exchange.before exchange.after
  good _ := True
  later := Continues
  own _ _ := True
  known _ _ := True
  trusts _ := True
  refl := .refl
  trans := .trans
  stays _ _ := trivial
  call hlaw _ := hlaw
  knows _ := trivial
  answer _ _ := trivial
  pointer _ _ := trivial
  attached _ _ := trivial
  issued _ _ := fun _ _ _ _ _ _ ↦ trivial
  kept _ _ := fun _ _ _ _ _ _ ↦ trivial
  shift _ hshifts := .of_shifts hshifts
  keepClass _ _ _ _ := .of_advances (.of_registration rfl fun _ ↦ .inr rfl)
  keepLoader _ _ _ _ := .of_advances (.of_registration rfl fun _ ↦ .inr rfl)

theorem registering_hooks (thread : NativeThread) (hooked : Option (LifecycleId × Nat)) :
    (registering thread).Hooks hooked :=
  fun _ _ ↦ .of_advances (.of_registration rfl fun _ ↦ .inr rfl)

theorem registering_activity (thread : NativeThread) (activity : Activity) :
    (registering thread).Admits activity.program fun _ ↦ True :=
  Setting.Admits.activity (fun _ _ ↦ trivial) activity (fun _ _ ↦ trivial)
    (fun id _ hgeneration hmiddle ↦ Continues.register id hgeneration hmiddle)
    (fun _ _ ↦ registering_hooks thread _) fun _ ↦ registering_hooks thread none

variable {rules : ProcessRules}

/-- Whatever happens, the process continues. -/
theorem ProcessRules.Evolves.continues {first last : Moment Chronicle}
    (hevolves : rules.Evolves first last) : Continues first last := by
  induction hevolves with
  | refl moment => exact .refl moment
  | look _ ih =>
    refine ih.trans (.record _ ?_)
    rintro bridge ⟨rfl⟩
    rfl
  | @act first middle last thread activity exchanges succeeded _ _ hrun _ _ ihbefore ihmeanwhile =>
    obtain ⟨hcontinues, -⟩ := registering_activity thread activity middle trivial exchanges
      succeeded last hrun ihmeanwhile
    exact (ihbefore.trans hcontinues).trans (.record _ fun _ hseen ↦ nomatch hseen)

/-- The bridge is always in order. -/
theorem ProcessRules.Reaches.orderly {moment : Moment Chronicle} (hreaches : rules.Reaches moment) :
    Orderly moment := by
  induction hreaches with
  | start registry =>
    refine ⟨?_, fun _ hseen ↦ (nomatch hseen), ?_⟩
    · rintro id registration ⟨⟩
    · rintro id generation ⟨before, after, -, -, hsublist⟩
      exact absurd hsublist.length_le (by simp)
  | later _ hevolves ih => exact hevolves.continues.orderly ih
  | @within first last thread activity exchanges succeeded exchange _ _ hrun hbears hmem ih =>
    have hlaw : ∀ exchange ∈ exchanges, (registering thread).law exchange :=
      fun exchange hmem ↦ (hbears exchange hmem).2.continues
    obtain ⟨-, hexchanges, -⟩ := registering_activity thread activity first trivial exchanges
      succeeded last hrun hlaw
    exact (hexchanges exchange hmem).1.orderly ih

end JavaInterop
