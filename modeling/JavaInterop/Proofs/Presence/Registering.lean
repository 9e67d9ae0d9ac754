import JavaInterop.Proofs.Presence.Conduct

/-!
# Registering machines and forgetting them

A machine is forgotten in one step, whoever is attached to it, and nobody counts any more.

To register a machine a thread draws a generation, has itself attached unless it is attached
already, and asks for the version.  It counts if it was attached on the way, or by creating the
machine.  Whoever else is attached when the machine is registered does not count, since he was
attached before.
-/

namespace JavaInterop

/-- Who may be attached to a machine that is about to be registered: its creator if it was created
for this, and otherwise those who were attached to it by someone else. -/
def Newcomers (owned : Bool) (vm : VmId) (thread generation : Nat) (presence : Presence) : Prop :=
  ∀ caller since, presence vm caller = some since →
    if owned then caller = thread ∧ since = generation + 1 else since ≤ generation

/-- How a thread that registers a machine comes to count. -/
theorem Newcomers.counted {owned : Bool} {registration : Registration} {caller : Nat}
    {presence : Presence}
    (hnewcomers : Newcomers owned registration.vm caller registration.generation presence) :
    (presence registration.vm caller = none →
      (presence.put registration.vm caller (some (registration.generation + 1))).residents
        registration = {caller}) ∧
    ((presence registration.vm caller).isSome →
      presence.residents registration = if owned then {caller} else ∅) := by
  constructor
  · intro habsent
    have hempty : presence.residents registration = ∅ := by
      apply Presence.residents_eq_empty
      intro other since hsince
      have hother := hnewcomers other since hsince
      split at hother
      · rw [hother.1, habsent] at hsince
        cases hsince
      · exact hother
    rw [Presence.residents_put_some (Nat.lt_succ_self _), hempty, insert_empty_eq]
  · intro hpresent
    cases owned with
    | true =>
      apply Presence.residents_eq_singleton _ hpresent
      intro other since hsince
      obtain ⟨hother, hbegun⟩ := hnewcomers other since hsince
      exact ⟨hother, hbegun ▸ Nat.lt_succ_self _⟩
    | false => exact Presence.residents_eq_empty hnewcomers

section

variable [Host]

open Program (Ensures)

variable (manner : Manner) {thread : NativeThread} {first : Moment Presence}

/-! ## Forgetting machines -/

/-- A machine that is not registered any more is shut down. -/
theorem ensures_destroy {vm : VmId} (hfree : ¬ first.bridge.Hosts vm) :
    Ensures Exchange.KeepsPresence thread (Program.perform (.destroy vm)) first
      fun exchanges _ last ↦ last.bridge = first.bridge ∧
        Move manner thread.id first exchanges last := by
  apply ensures_answer
  intro reply outside hlaw
  refine ⟨rfl, .aside ?_ (List.forall_mem_singleton.2 ⟨⟨fun _ h ↦ h, fun _ h ↦ h⟩, .refl _⟩)⟩
  refine ⟨fun _ ↦ rfl, fun _ ↦ .inl, Nat.le_refl _, fun _ ↦ rfl, fun h ↦ h,
    fun other caller ↦ ?_⟩
  rcases hlaw other caller with hsame | ⟨rfl, hgone⟩
  · exact .inl hsame
  · refine .inr ⟨hfree, fun since hsince ↦ ?_⟩
    cases hgone.symm.trans hsince

theorem ensures_reset_moves (id : LifecycleId) :
    Ensures Exchange.KeepsPresence thread id.reset first
      fun exchanges _ last ↦ Moves manner thread.id first exchanges last := by
  rw [LifecycleId.ensures_reset_iff]
  cases (first.bridge.lifecycle id).registration with
  | none => exact .done first
  | some registration => exact .single .forget

theorem ensures_teardown_moves (id : LifecycleId) (hapart : first.bridge.Apart) :
    Ensures Exchange.KeepsPresence thread id.teardown.run first
      fun exchanges _ last ↦ Moves manner thread.id first exchanges last := by
  rw [LifecycleId.ensures_teardown_iff]
  cases hregistered : (first.bridge.lifecycle id).registration with
  | none => exact .done first
  | some registration =>
    have hforgotten : Moves manner thread.id first [] ⟨first.bridge.forget id, first.outside⟩ :=
      .single .forget
    dsimp only
    split
    · refine (ensures_destroy manner (not_hosts_forget hapart hregistered)).weaken ?_
      rintro exchanges answer last ⟨-, hdestroyed⟩
      exact hforgotten.trans (.single hdestroyed)
    · exact hforgotten

theorem ensures_cleanup_moves (id : LifecycleId) (hapart : first.bridge.Apart) :
    Ensures Exchange.KeepsPresence thread id.cleanup first
      fun exchanges _ last ↦ Moves manner thread.id first exchanges last := by
  rw [LifecycleId.ensures_cleanup_iff]
  split
  · refine (ensures_teardown_moves manner id hapart).weaken ?_
    rintro begun (error | _) middle hmoves
    · refine (ensures_reset_moves manner id).weaken ?_
      intro rest _ last hreset
      exact hmoves.trans hreset
    · exact hmoves
  · exact ensures_reset_moves manner id

/-! ## Drawing a generation -/

/-- The next generation was drawn. -/
def Moment.drawn (moment : Moment Presence) : Moment Presence :=
  ⟨{ moment.bridge with nextGeneration := moment.bridge.nextGeneration + 1 }, moment.outside⟩

theorem aside_drawn (moment : Moment Presence) : Aside moment moment.drawn :=
  ⟨fun _ ↦ rfl, fun _ ↦ .inl, Nat.le_succ _, fun _ ↦ rfl, fun h ↦ h, fun _ _ ↦ .inl rfl⟩

theorem within_drawn (moment : Moment Presence) : Within moment moment.drawn :=
  ⟨fun _ _ h ↦ h, fun _ ↦ List.Sublist.refl _, fun _ _ _ ↦ rfl⟩

/-! ## Preparing a registration -/

/-- Everything is prepared for the registration of a machine: a generation was drawn, and the thread
is attached.  It was counted if it was attached on the way, or if it created the machine. -/
structure Drafts (owned : Bool) (id : LifecycleId) (vm : VmId) (thread : Nat)
    (first : Moment Presence) (exchanges : List (Exchange Presence)) (prepared : Moment Presence) :
    Prop where
  stays : AllStay first exchanges
  lifecycle : ∀ other, other ≠ id →
    prepared.bridge.lifecycle other = first.bridge.lifecycle other
  gone : prepared.bridge.gone = first.bridge.gone
  nextGeneration : prepared.bridge.nextGeneration = first.bridge.nextGeneration + 1
  pending : ∀ caller,
    (prepared.bridge.thread caller).pending = (first.bridge.thread caller).pending
  slotted : first.bridge.Slotted → prepared.bridge.Slotted
  outcome : first.outside vm thread = none ∧
      prepared.outside = first.outside.put vm thread (some (first.bridge.nextGeneration + 1)) ∧
      (prepared.bridge.lifecycle id).attached = (first.bridge.lifecycle id).attached + 1 ∨
    (first.outside vm thread).isSome ∧ prepared.outside = first.outside ∧
      (prepared.bridge.lifecycle id).attached =
        (first.bridge.lifecycle id).attached + if owned then 1 else 0

/-- Whoever was attached on the way or has created the machine counts now. -/
theorem Attempted.drafts {manner : Manner} {owned attachedHere : Bool} {id : LifecycleId}
    {vm : VmId} {version : Version} {thread : Nat} {exchanges : List (Exchange Presence)}
    {attached : Moment Presence} (hfree : ¬ first.bridge.Hosts vm)
    (hattempted : Attempted manner id ⟨vm, version, thread, owned, first.bridge.nextGeneration⟩
      thread first.drawn exchanges attachedHere attached) :
    Within first ⟨attached.bridge.enroll id owned attachedHere, attached.outside⟩ ∧
      Drafts owned id vm thread first exchanges
        ⟨attached.bridge.enroll id owned attachedHere, attached.outside⟩ := by
  obtain ⟨hstays, houtcome⟩ := hattempted
  replace hstays := hstays.of_within (within_drawn first)
  cases attachedHere with
  | true =>
    obtain ⟨habsent, -, bridge, hbridge, rfl⟩ := houtcome
    have hpending : ∀ caller, (bridge.thread caller).pending =
        (first.bridge.thread caller).pending := by
      intro caller
      refine (hbridge.pending caller).trans ?_
      split
      · exact if_pos (.inl rfl)
      · rfl
    have hcounted : (bridge.recount id (· + 1)).enroll id owned true =
        bridge.recount id (· + 1) := by
      simp [Bridge.enroll]
    rw [hcounted]
    refine ⟨.of_newcomer hfree (fun other ↦ ?_) hpending
      fun other hother ↦ funext fun caller ↦ Presence.put_of_vm_ne _ _ hother,
      hstays, fun other hother ↦ ?_, hbridge.gone, hbridge.nextGeneration, hpending,
      hbridge.slotted,
      .inl ⟨habsent, rfl, ?_⟩⟩
    · exact (registration_recount ..).trans (congrArg _ (hbridge.lifecycle other))
    · exact (lifecycle_recount_of_ne _ _ hother).trans (hbridge.lifecycle other)
    · exact (attached_recount_self ..).trans
        (congrArg (Lifecycle.attached · + 1) (hbridge.lifecycle id))
  | false =>
    obtain ⟨hpresent, rfl, -⟩ := houtcome
    cases owned with
    | true =>
      exact ⟨.of_newcomer hfree (fun other ↦ registration_recount first.drawn.bridge id other _)
        (fun _ ↦ rfl) fun _ _ ↦ rfl,
        hstays, fun _ hother ↦ lifecycle_recount_of_ne first.drawn.bridge _ hother, rfl, rfl,
        fun _ ↦ rfl, fun h ↦ h,
        .inr ⟨hpresent, rfl, attached_recount_self first.drawn.bridge id _⟩⟩
    | false =>
      exact ⟨within_drawn first, hstays, fun _ _ ↦ rfl, rfl, rfl, fun _ ↦ rfl, fun h ↦ h,
        .inr ⟨hpresent, rfl, rfl⟩⟩

theorem Drafts.append {owned : Bool} {id : LifecycleId} {vm : VmId} {thread : Nat}
    {begun rest : List (Exchange Presence)} {prepared : Moment Presence}
    (hdrafts : Drafts owned id vm thread first begun prepared) (hrest : AllStay first rest) :
    Drafts owned id vm thread first (begun ++ rest) prepared :=
  { hdrafts with stays := allStay_append.2 ⟨hdrafts.stays, hrest⟩ }

theorem ensures_register_drafts (id : LifecycleId) (vm : VmId) (version : Version)
    (owned : Bool) (hfree : ¬ first.bridge.Hosts vm) :
    Ensures Exchange.KeepsPresence thread (id.register vm version owned).run first
      fun exchanges result last ↦ match result with
        | .error _ => last = first.drawn ∧ AllQuiet first exchanges
        | .ok registration => registration.vm = vm ∧ registration.creator = thread.id ∧
          registration.generation = first.bridge.nextGeneration ∧
          Drafts owned id vm thread.id first exchanges last := by
  rw [LifecycleId.ensures_register_iff]
  refine (@ensures_attachTo_attempted _ thread.manner thread first.drawn id _ { }
    thread.isBrief_manner).weaken ?_
  rintro begun (error | ⟨pointer, attachedHere⟩) attached hattempted
  · obtain ⟨rfl, hquiet⟩ := hattempted
    exact ⟨rfl, hquiet.of_within (within_drawn first)⟩
  · obtain ⟨hwithin, hdrafts⟩ := Attempted.drafts hfree hattempted
    refine (ensures_env pointer .getVersion).weaken ?_
    rintro rest reported _ ⟨rfl, hquiet⟩
    exact ⟨rfl, rfl, rfl, hdrafts.append (hquiet.of_within hwithin).allStay⟩

/-- Nobody is attached later than the thread that prepares the registration. -/
theorem Drafts.past {owned : Bool} {id : LifecycleId} {vm : VmId} {thread : Nat}
    {exchanges : List (Exchange Presence)} {prepared : Moment Presence}
    (hdrafts : Drafts owned id vm thread first exchanges prepared)
    (hnewcomers : Newcomers owned vm thread first.bridge.nextGeneration first.outside) :
    ∀ caller since, prepared.outside vm caller = some since →
      since ≤ prepared.bridge.nextGeneration := by
  intro caller since hsince
  rw [hdrafts.nextGeneration]
  have hbefore : first.outside vm caller = some since →
      since ≤ first.bridge.nextGeneration + 1 := by
    intro hbegun
    have hcaller := hnewcomers caller since hbegun
    split at hcaller
    · omega
    · omega
  rcases hdrafts.outcome with ⟨-, hpresence, -⟩ | ⟨-, hpresence, -⟩
  · rw [hpresence] at hsince
    by_cases hcaller : caller = thread
    · rw [hcaller, Presence.put_self, Option.some.injEq] at hsince
      omega
    · rw [Presence.put_of_thread_ne _ _ hcaller] at hsince
      exact hbefore hsince
  · rw [hpresence] at hsince
    exact hbefore hsince

/-- Exactly the thread that prepares the registration counts, if it counts. -/
theorem Drafts.residents {owned : Bool} {id : LifecycleId} {registration : Registration}
    {thread : Nat} {exchanges : List (Exchange Presence)} {prepared : Moment Presence}
    (hdrafts : Drafts owned id registration.vm thread first exchanges prepared)
    (hgeneration : registration.generation = first.bridge.nextGeneration)
    (hnewcomers : Newcomers owned registration.vm thread registration.generation first.outside)
    (hnone : (first.bridge.lifecycle id).attached = 0) :
    prepared.outside.residents registration = {thread} ∧
        (prepared.bridge.lifecycle id).attached = 1 ∨
      prepared.outside.residents registration = ∅ ∧
        (prepared.bridge.lifecycle id).attached = 0 := by
  obtain ⟨habsent, hpresent⟩ := hnewcomers.counted
  rcases hdrafts.outcome with ⟨hnobody, hpresence, hattached⟩ | ⟨hsomebody, hpresence, hattached⟩
  · rw [hattached, hpresence, hnone, ← hgeneration]
    exact .inl ⟨habsent hnobody, rfl⟩
  · rw [hattached, hpresence, hnone, hpresent hsomebody]
    cases owned with
    | true => exact .inl ⟨rfl, rfl⟩
    | false => exact .inr ⟨rfl, rfl⟩

/-- What was prepared is put into the lifecycle.  The machine may have been created just before. -/
theorem Drafts.registers {owned : Bool} {id : LifecycleId} (registration : Registration)
    {thread : Nat} {exchanges : List (Exchange Presence)} {middle prepared : Moment Presence}
    (hdrafts : Drafts owned id registration.vm thread middle exchanges prepared)
    (hcreator : registration.creator = thread)
    (hgeneration : registration.generation = middle.bridge.nextGeneration)
    (hnewcomers : Newcomers owned registration.vm thread registration.generation middle.outside)
    (hbridge : middle.bridge = first.bridge)
    (hothers : ∀ other, other ≠ registration.vm → middle.outside other = first.outside other)
    (hvacant : (first.bridge.lifecycle id).registration = none) (hextant : id ∉ first.bridge.gone)
    (hnone : (first.bridge.lifecycle id).attached = 0)
    (hfree : ¬ first.bridge.Hosts registration.vm) :
    Registers id registration first
      ⟨prepared.bridge.install id registration, prepared.outside⟩ := by
  unfold Bridge.install
  have hresidents := hdrafts.residents hgeneration hnewcomers (hbridge ▸ hnone)
  rw [hgeneration] at hnewcomers
  constructor
  · exact hvacant
  · exact hextant
  · exact hfree
  · rw [hgeneration, hbridge]
  · simp
  · intro other hother
    rw [Bridge.lifecycle_setLifecycle_of_ne _ _ hother, hdrafts.lifecycle other hother, hbridge]
  · exact hdrafts.gone.trans (by rw [hbridge])
  · exact hdrafts.nextGeneration.trans (by rw [hbridge])
  · intro caller
    exact (hdrafts.pending caller).trans (by rw [hbridge])
  · intro hslotted
    rw [← hbridge] at hslotted
    exact hdrafts.slotted hslotted
  · intro vm hvm
    rcases hdrafts.outcome with ⟨-, hpresence, -⟩ | ⟨-, hpresence, -⟩
    · funext caller
      rw [hpresence, Presence.put_of_vm_ne _ _ hvm, hothers vm hvm]
    · rw [hpresence, hothers vm hvm]
  · exact hdrafts.past hnewcomers
  · intro caller hcaller
    rcases hresidents with ⟨hself, -⟩ | ⟨hnobody, -⟩
    · exact (Set.mem_singleton_iff.1 (hself.subset hcaller)).trans hcreator.symm
    · exact (hnobody.subset hcaller).elim
  · rcases hresidents with ⟨hself, -⟩ | ⟨hnobody, -⟩
    · exact hself ▸ Set.finite_singleton thread
    · exact hnobody ▸ Set.finite_empty
  · rw [Bridge.lifecycle_setLifecycle_self]
    rcases hresidents with ⟨hself, hattached⟩ | ⟨hnobody, hattached⟩
    · exact hattached.trans (hself ▸ (Set.ncard_singleton thread).symm)
    · exact hattached.trans (hnobody ▸ (Set.ncard_empty Nat).symm)

/-! ## Adopting machines -/

theorem ensures_adopt_moves (id : LifecycleId) (vm : Option VmId) (version : Version)
    (hextant : id ∉ first.bridge.gone)
    (hnone : (first.bridge.lifecycle id).registration = none →
      (first.bridge.lifecycle id).attached = 0)
    (hpast : ∀ vm caller since, first.outside vm caller = some since →
      since ≤ first.bridge.nextGeneration)
    (hfree : (first.bridge.lifecycle id).registration = none →
      ∀ adopted, vm = some adopted → ¬ first.bridge.Hosts adopted) :
    Ensures Exchange.KeepsPresence thread (id.adopt vm version).run first
      fun exchanges _ last ↦ Moves manner thread.id first exchanges last := by
  refine LifecycleId.ensures_adopt_of (fun _ ↦ .done first) (fun _ _ ↦ .done first)
    (fun _ _ _ ↦ .done first) fun adopted hvm _ hvacant ↦ ?_
  have hfree' := hfree hvacant adopted hvm
  refine (ensures_register_drafts id adopted version false hfree').weaken ?_
  rintro exchanges (error | registration) prepared hprepared
  · obtain ⟨rfl, hquiet⟩ := hprepared
    exact .single (.aside (aside_drawn _) hquiet)
  · obtain ⟨rfl, hcreator, hgeneration, hdrafts⟩ := hprepared
    have hnewcomers : Newcomers false registration.vm thread.id registration.generation
        first.outside := by
      intro caller since hsince
      rw [hgeneration]
      exact hpast registration.vm caller since hsince
    have hregisters := hdrafts.registers { registration with version := version } hcreator
      hgeneration hnewcomers rfl (fun _ _ ↦ rfl) hvacant hextant (hnone hvacant) hfree'
    exact .single (.register hregisters hdrafts.stays)

/-! ## Creating machines -/

/-- A machine was created.  It is registered nowhere, and only its creator is attached to it. -/
structure Created (vm : VmId) (thread : Nat) (first last : Moment Presence) : Prop where
  bridge : last.bridge = first.bridge
  free : ¬ first.bridge.Hosts vm
  others : ∀ other, other ≠ vm → last.outside other = first.outside other
  only : ∀ caller since, last.outside vm caller = some since →
    caller = thread ∧ since = first.bridge.nextGeneration + 1

theorem Exchange.KeepsPresence.of_create {arguments : Startup.Arguments}
    {answer : (Call.create arguments).Reply} {last : Moment Presence}
    (hkeeps : Exchange.KeepsPresence ⟨thread, .create arguments, answer, first, last⟩) :
    AllQuiet first [⟨thread, .create arguments, answer, first, last⟩] ∧
      (∀ vm, answer = .ok (some vm) → Created vm thread.id first last) ∧
      ((∀ vm, answer ≠ .ok (some vm)) → last = first) := by
  obtain ⟨bridge, outside⟩ := last
  obtain ⟨hbridge, hcreated, hfailed⟩ := hkeeps
  change bridge = first.bridge at hbridge
  subst hbridge
  refine ⟨List.forall_mem_singleton.2 ⟨⟨fun _ h ↦ h, fun _ h ↦ h⟩, .refl _⟩, fun vm hvm ↦ ?_,
    fun hnone ↦ congrArg _ (hfailed hnone)⟩
  obtain ⟨hfree, hothers, honly⟩ := hcreated vm hvm
  exact ⟨rfl, hfree, hothers, honly⟩

namespace Created

variable {vm : VmId} {thread : Nat} {created : Moment Presence}

theorem within (hcreated : Created vm thread first created) : Within first created := by
  apply Within.of_newcomer hcreated.free _ _ hcreated.others
  · intro id
    rw [hcreated.bridge]
  · intro caller
    rw [hcreated.bridge]

theorem newcomers (hcreated : Created vm thread first created) :
    Newcomers true vm thread first.bridge.nextGeneration created.outside := by
  intro caller since hsince
  rw [if_pos rfl]
  exact hcreated.only caller since hsince

/-- A machine that could not be registered has been created in vain. -/
theorem aside (hcreated : Created vm thread first created) : Aside first created.drawn := by
  unfold Moment.drawn
  rw [hcreated.bridge]
  refine ⟨fun _ ↦ rfl, fun _ ↦ .inl, Nat.le_succ _, fun _ ↦ rfl, fun h ↦ h,
    fun other caller ↦ ?_⟩
  by_cases hother : other = vm
  · subst hother
    exact .inr ⟨hcreated.free, fun since hsince ↦ (hcreated.only caller since hsince).2.le⟩
  · exact .inl (congrFun (hcreated.others other hother) caller)

end Created

theorem ensures_create_moves (id : LifecycleId) (version : Version) (options : Startup.OptionList)
    (hextant : id ∉ first.bridge.gone)
    (hnone : (first.bridge.lifecycle id).registration = none →
      (first.bridge.lifecycle id).attached = 0) :
    Ensures Exchange.KeepsPresence thread (id.create version options).run first
      fun exchanges _ last ↦ Moves manner thread.id first exchanges last := by
  refine LifecycleId.ensures_create_of (fun _ ↦ .done first) (fun _ _ _ ↦ .done first)
    (fun arguments status created _ _ hasked ↦ ?_) (fun arguments created _ _ hasked ↦ ?_)
    (fun arguments vm created hvacant _ hasked ↦ ?_)
  · obtain ⟨hquiet, -, hfailed⟩ := hasked.of_create
    obtain rfl := hfailed nofun
    exact .still hquiet
  · obtain ⟨hquiet, -, hfailed⟩ := hasked.of_create
    obtain rfl := hfailed nofun
    exact .still hquiet
  · obtain ⟨hasked, hanswered, -⟩ := hasked.of_create
    have hcreated := hanswered vm rfl
    have hfree : ¬ created.bridge.Hosts vm := hcreated.bridge ▸ hcreated.free
    refine (ensures_register_drafts id vm version true hfree).weaken ?_
    rintro exchanges (error | registration) prepared hprepared
    · -- The machine is shut down again.
      obtain ⟨rfl, hquiet⟩ := hprepared
      have hall := allQuiet_append.2 ⟨hasked, hquiet.of_within hcreated.within⟩
      refine (@ensures_destroy _ manner thread created.drawn vm hfree).weaken ?_
      rintro rest answer last ⟨-, hdestroyed⟩
      have hboth := Moves.step (.aside hcreated.aside hall) (.single hdestroyed)
      simpa using hboth
    · obtain ⟨rfl, hcreator, hgeneration, hdrafts⟩ := hprepared
      have hall := allStay_append.2 ⟨hasked.allStay, hdrafts.stays.of_within hcreated.within⟩
      have hnewcomers := hcreated.newcomers
      rw [← hcreated.bridge, ← hgeneration] at hnewcomers
      have hregisters := hdrafts.registers registration hcreator hgeneration hnewcomers
        hcreated.bridge hcreated.others hvacant hextant (hnone hvacant) hcreated.free
      exact .single (.register hregisters hall)

end

end JavaInterop
