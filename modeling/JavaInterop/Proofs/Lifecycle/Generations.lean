import JavaInterop.Lifecycle.Registration
import JavaInterop.Lifecycle.ThreadExit
import JavaInterop.Proofs.Lifecycle.Attachments

/-!
# Generations

A registration has a generation of its own, and so whoever knows the generation of a machine will
not take a later machine for it.  `Bridge.Advances` says what every operation keeps of this: what
is registered afterwards was registered before, or it has a generation that is new.

The operations of a lifecycle delete no global reference, as long as no thread has a class loader
that it would give up when it exits.
-/

namespace JavaInterop

variable [Host]

/-! ## What operations do to the bridge -/

/-- No thread has a class loader. -/
def Bridge.Unloaded (bridge : Bridge) : Prop := ∀ thread, (bridge.thread thread).loader = none

/-- A later state of the bridge: a registration that was not there before has a generation that was
not given to anyone before. -/
structure Bridge.Advances (before after : Bridge) : Prop where
  generation : before.nextGeneration ≤ after.nextGeneration
  registration : ∀ id registration, (after.lifecycle id).registration = some registration →
    (before.lifecycle id).registration = some registration ∨
      before.nextGeneration ≤ registration.generation ∧
        registration.generation < after.nextGeneration

namespace Bridge.Advances

theorem refl (bridge : Bridge) : bridge.Advances bridge :=
  ⟨Nat.le_refl _, fun _ _ hregistration ↦ .inl hregistration⟩

theorem trans {first middle last : Bridge} (hfirst : first.Advances middle)
    (hlast : middle.Advances last) : first.Advances last := by
  refine ⟨Nat.le_trans hfirst.generation hlast.generation, fun id registration hregistration ↦ ?_⟩
  rcases hlast.registration id registration hregistration with hmiddle | ⟨hlow, hhigh⟩
  · rcases hfirst.registration id registration hmiddle with hold | ⟨hlow, hhigh⟩
    · exact .inl hold
    · exact .inr ⟨hlow, Nat.lt_of_lt_of_le hhigh hlast.generation⟩
  · exact .inr ⟨Nat.le_trans hfirst.generation hlow, hhigh⟩

/-- Nothing is registered anew. -/
theorem of_registration {before after : Bridge}
    (hgeneration : after.nextGeneration = before.nextGeneration)
    (hregistration : ∀ id, (after.lifecycle id).registration = none ∨
      (after.lifecycle id).registration = (before.lifecycle id).registration) :
    before.Advances after := by
  refine ⟨Nat.le_of_eq hgeneration.symm, fun id registration hafter ↦ .inl ?_⟩
  rcases hregistration id with hnone | hsame
  · cases hnone.symm.trans hafter
  · exact hsame.symm.trans hafter

end Bridge.Advances

/-- The program deletes no global reference, if it is `clean`, and the bridge goes from its first
state to the last one as `relation` says. -/
def Follows {α : Type} (clean : Bool) (relation : Bridge → α → Bridge → Prop)
    (program : Program α) : Prop :=
  ∀ thread (first : Moment Attachments), first.bridge.Unloaded →
    Program.Ensures Exchange.KeepsAttachments thread program first fun exchanges result last ↦
      (clean = true → deletions exchanges = []) ∧ last.bridge.Unloaded ∧
        relation first.bridge result last.bridge

namespace Follows

open Program (Ensures)

variable {α β : Type} {clean : Bool} {relation : Bridge → α → Bridge → Prop}

theorem weaken {program : Program α} {weaker : Bridge → α → Bridge → Prop}
    (hfollows : Follows clean relation program)
    (himplies : ∀ before result after, relation before result after →
      weaker before result after) : Follows clean weaker program := by
  intro thread first hunloaded
  refine (hfollows thread first hunloaded).weaken ?_
  rintro exchanges result last ⟨hdeletions, hunloaded', hrelation⟩
  exact ⟨hdeletions, hunloaded', himplies _ _ _ hrelation⟩

theorem done {result : α} (hrelation : ∀ bridge, relation bridge result bridge) :
    Follows clean relation (pure result) := by
  intro thread first hunloaded
  rw [Program.ensures_pure]
  exact ⟨fun _ ↦ rfl, hunloaded, hrelation _⟩

/-- One program after another. -/
theorem bind {program : Program α} {next : α → Program β} {later : α → Bridge → β → Bridge → Prop}
    (hprogram : Follows clean relation program)
    (hnext : ∀ value, Follows clean (later value) (next value)) :
    Follows clean (fun before result after ↦ ∃ value middle, relation before value middle ∧
      later value middle result after) (program >>= next) := by
  intro thread first hunloaded
  rw [Program.ensures_bind]
  refine (hprogram thread first hunloaded).weaken ?_
  rintro begun value middle ⟨hdeletions, hunloaded', hrelation⟩
  refine (hnext value thread middle hunloaded').weaken ?_
  rintro rest result last ⟨hdeletions', hunloaded'', hlater⟩
  refine ⟨fun hclean ↦ ?_, hunloaded'', value, middle.bridge, hrelation, hlater⟩
  rw [deletions_append, hdeletions hclean, hdeletions' hclean, List.append_nil]

/-- A call leaves the bridge as it is. -/
theorem perform {request : Call} (hrequest : clean = true → request.deleted? = none) :
    Follows clean (fun before _ after ↦ after = before) (Program.perform request) := by
  intro thread first hunloaded
  refine ensures_request fun reply outside _ ↦ ⟨fun hclean ↦ ?_, hunloaded, rfl⟩
  simp [deletions, hrequest hclean]

/-- What comes after a look at the bridge may depend on what was seen. -/
theorem state {next : Bridge → Program α}
    (hnext : ∀ bridge : Bridge, bridge.Unloaded →
      Follows clean (fun before result after ↦ before = bridge → relation before result after)
        (next bridge)) :
    Follows clean relation (Program.state >>= next) := by
  intro thread first hunloaded
  rw [Program.ensures_bind, Program.ensures_state]
  refine (hnext first.bridge hunloaded thread first hunloaded).weaken ?_
  rintro exchanges result last ⟨hdeletions, hunloaded', hrelation⟩
  exact ⟨hdeletions, hunloaded', hrelation rfl⟩

/-- A change of the bridge that gives no thread a class loader. -/
theorem update {change : Bridge → Bridge}
    (hchange : ∀ bridge : Bridge, bridge.Unloaded → (change bridge).Unloaded) :
    Follows clean (fun before _ after ↦ after = change before) (Program.update change) := by
  intro thread first hunloaded
  rw [Program.ensures_update]
  exact ⟨fun _ ↦ rfl, hchange _ hunloaded, rfl⟩

end Follows

/-- The program only brings the bridge forward. -/
def Tame {α : Type} (clean : Bool) (program : Program α) : Prop :=
  Follows clean (fun before _ after ↦ before.Advances after) program

namespace Tame

variable {α β : Type} {clean : Bool}

theorem done {result : α} : Tame clean (pure result) := Follows.done fun bridge ↦ .refl bridge

theorem bind {program : Program α} {next : α → Program β} (hprogram : Tame clean program)
    (hnext : ∀ value, Tame clean (next value)) : Tame clean (program >>= next) := by
  refine (Follows.bind hprogram hnext).weaken ?_
  rintro before result after ⟨value, middle, hmiddle, hafter⟩
  exact hmiddle.trans hafter

theorem still {program : Program α}
    (hprogram : Follows clean (fun before _ after ↦ after = before) program) :
    Tame clean program :=
  hprogram.weaken fun before _ _ hafter ↦ hafter ▸ .refl before

theorem perform {request : Call} (hrequest : clean = true → request.deleted? = none) :
    Tame clean (Program.perform request) :=
  still (Follows.perform hrequest)

theorem state {next : Bridge → Program α}
    (hnext : ∀ bridge : Bridge, bridge.Unloaded → Tame clean (next bridge)) :
    Tame clean (Program.state >>= next) :=
  Follows.state fun bridge hunloaded ↦ (hnext bridge hunloaded).weaken
    fun _ _ _ hadvances _ ↦ hadvances

theorem look {view : Bridge → α} : Tame clean (Program.look view) := by
  intro thread first hunloaded
  rw [Program.ensures_look]
  exact ⟨fun _ ↦ rfl, hunloaded, .refl _⟩

theorem current : Tame clean Program.current := by
  intro thread first hunloaded
  rw [Program.ensures_current]
  exact ⟨fun _ ↦ rfl, hunloaded, .refl _⟩

theorem warn (text : String) : Tame clean (Program.warn text) := by
  intro thread first hunloaded
  rw [Program.ensures_warn]
  exact ⟨fun _ ↦ rfl, hunloaded, .refl _⟩

theorem complain (text : String) : Tame clean (Program.complain text) := by
  intro thread first hunloaded
  rw [Program.ensures_complain]
  exact ⟨fun _ ↦ rfl, hunloaded, .refl _⟩

theorem update {change : Bridge → Bridge}
    (hchange : ∀ bridge : Bridge, bridge.Unloaded → (change bridge).Unloaded)
    (hadvances : ∀ bridge : Bridge, bridge.Advances (change bridge)) :
    Tame clean (Program.update change) :=
  (Follows.update hchange).weaken fun before _ _ hafter ↦ hafter ▸ hadvances before

/-! ### Programs that may fail -/

theorem throw {error : Error} : Tame clean (throw error : Fallible α).run := by
  rw [ExceptT.run_throw]
  exact done

theorem andThen {body : Fallible α} {next : α → Fallible β} (hbody : Tame clean body.run)
    (hnext : ∀ value, Tame clean (next value).run) : Tame clean (body >>= next).run := by
  rw [ExceptT.run_bind]
  refine hbody.bind ?_
  rintro (error | value)
  · exact done
  · exact hnext value

theorem liftThen {program : Program α} {next : α → Fallible β} (hprogram : Tame clean program)
    (hnext : ∀ value, Tame clean (next value).run) :
    Tame clean (liftM program >>= next : Fallible β).run := by
  rw [Fallible.run_lift_bind]
  exact hprogram.bind hnext

theorem ofStatus {status : Except Status α} {error : Status → Error} :
    Tame clean (Fallible.ofStatus status error).run := by
  cases status with
  | ok value => exact done
  | error code => exact done

theorem nonNull {reference : Option α} {place : String} :
    Tame clean (Fallible.nonNull reference place).run := by
  cases reference with
  | none => exact done
  | some present => exact done

end Tame

/-! ## Attaching and detaching -/

theorem Bridge.Unloaded.setThread {bridge : Bridge} (hunloaded : bridge.Unloaded) (id : Nat)
    {thread : ThreadState} (hloader : thread.loader = none) :
    (bridge.setThread id thread).Unloaded := by
  intro other
  by_cases hother : other = id
  · rw [hother, Bridge.thread_setThread_self, hloader]
  · rw [Bridge.thread_setThread_of_ne _ _ hother, hunloaded]

theorem advances_setThread (bridge : Bridge) (id : Nat) (thread : ThreadState) :
    bridge.Advances (bridge.setThread id thread) :=
  .of_registration rfl fun _ ↦ .inr rfl

theorem advances_recount (bridge : Bridge) (id : LifecycleId) (change : Nat → Nat) :
    bridge.Advances (bridge.recount id change) :=
  .of_registration rfl fun other ↦ .inr (registration_recount bridge id other change)

namespace Tame

variable {clean : Bool}

theorem countAttached (id : LifecycleId) (change : Nat → Nat) :
    Tame clean (id.countAttached change) :=
  update (fun _ hunloaded ↦ hunloaded) fun bridge ↦ advances_recount bridge id change

theorem deferDetach (id : LifecycleId) (generation : Nat) :
    Tame clean (id.deferDetach generation) := by
  refine current.bind fun running ↦ ?_
  split
  · exact warn _
  · refine update ?_ fun bridge ↦ advances_setThread bridge _ _
    intro bridge hunloaded
    exact hunloaded.setThread _ ((touch_loader _ _).trans (hunloaded _))

theorem cancelDetach (id : LifecycleId) (generation : Nat) :
    Tame clean (id.cancelDetach generation) := by
  refine current.bind fun running ↦ update ?_ fun bridge ↦ advances_setThread bridge _ _
  intro bridge hunloaded
  exact hunloaded.setThread _ ((touch_loader _ _).trans (hunloaded _))

theorem attachTo (id : LifecycleId) (registration : Registration) (config : AttachConfig) :
    Tame clean (id.attachTo registration config).run := by
  refine liftThen (perform fun _ ↦ rfl) fun answer ↦ ?_
  cases answer with
  | ok pointer => exact done
  | error status =>
    cases status with
    | threadDetached =>
      refine liftThen current fun running ↦ ?_
      refine liftThen (perform fun _ ↦ rfl) fun answer ↦ ?_
      refine andThen ofStatus fun pointer ↦ liftThen (countAttached id _) fun _ ↦ ?_
      split
      · exact liftThen (deferDetach id _) fun _ ↦ done
      · exact done
    | _ =>
      dsimp only
      rw [Fallible.run_throw_bind]
      exact done

theorem detachAttached (id : LifecycleId) (registration : Registration) :
    Tame clean (id.detachAttached registration) := by
  refine (perform fun _ ↦ rfl).bind ?_
  rintro (status | _)
  · exact current.bind fun _ ↦ complain _
  · exact countAttached id _

theorem detachFrom (id : LifecycleId) (registration : Registration) :
    Tame clean (id.detachFrom registration) := by
  refine (cancelDetach id _).bind fun _ ↦ ?_
  refine (perform fun _ ↦ rfl).bind ?_
  rintro (status | pointer)
  · exact done
  · exact detachAttached id registration

theorem enter (id : LifecycleId) (config : AttachConfig) : Tame clean (id.enter config).run := by
  refine liftThen look ?_
  rintro (_ | registration)
  · exact throw
  · exact andThen (attachTo id registration config) fun _ ↦ done

theorem leave (id : LifecycleId) (config : AttachConfig) (env : Env) (attachedHere : Bool) :
    Tame clean (id.leave config env attachedHere) := by
  unfold LifecycleId.leave
  split
  · refine look.bind ?_
    rintro (_ | registration)
    · exact done
    · exact detachFrom id registration
  · exact done

theorem attach (id : LifecycleId) (config : AttachConfig) : Tame clean (id.attach config).run :=
  andThen (enter id _) fun _ ↦ done

theorem detach (id : LifecycleId) : Tame clean id.detach := by
  refine look.bind ?_
  rintro (_ | registration)
  · exact done
  · exact detachFrom id registration

/-! ### Global references -/

theorem newGlobal (env : Env) (object : Option Handle) : Tame clean (env.newGlobal object).run := by
  refine andThen nonNull fun object ↦ ?_
  refine liftThen (perform fun _ ↦ rfl) ?_
  rintro (_ | handle)
  · exact throw
  · exact done

theorem deleteGlobal (id : LifecycleId) (generation : Nat) (handle : Handle) :
    Tame false (id.deleteGlobal generation handle) := by
  refine look.bind ?_
  rintro (_ | registration)
  · exact done
  · refine (attachTo id registration _).bind ?_
    rintro (error | ⟨pointer, attachedHere⟩)
    · exact warn _
    · have hdelete : ∀ rest : Program Unit, Tame false rest → Tame false (do
          Program.perform (.env pointer (.deleteGlobalRef handle))
          rest) := by
        intro rest hrest
        refine bind (perform fun hclean ↦ ?_) fun _ ↦ hrest
        cases hclean
      dsimp only
      split
      · exact (warn _).bind fun _ ↦ hdelete _ (detachFrom id registration)
      · exact hdelete _ done

theorem release (reference : GlobalReference) : Tame false reference.release := by
  unfold GlobalReference.release
  cases reference.raw with
  | none => exact done.bind fun _ ↦ done
  | some handle => exact (deleteGlobal _ _ handle).bind fun _ ↦ done

end Tame

/-! ## Registering and forgetting a machine -/

theorem advances_forget (bridge : Bridge) (id : LifecycleId) :
    bridge.Advances (bridge.setLifecycle id { registration := none, attached := 0 }) := by
  refine .of_registration rfl fun other ↦ ?_
  by_cases hother : other = id
  · rw [hother, Bridge.lifecycle_setLifecycle_self]
    exact .inl rfl
  · rw [Bridge.lifecycle_setLifecycle_of_ne _ _ hother]
    exact .inr rfl

namespace Tame

variable {clean : Bool}

theorem takeRegistration (id : LifecycleId) : Tame clean id.takeRegistration := by
  refine look.bind fun registration ↦ ?_
  dsimp only
  split
  · refine bind (update (fun bridge hunloaded ↦ ?_) fun bridge ↦ ?_) fun _ ↦ done
    · exact hunloaded
    · exact advances_forget bridge id
  · exact done

theorem teardown (id : LifecycleId) : Tame clean id.teardown.run := by
  refine liftThen (takeRegistration id) ?_
  rintro (_ | registration)
  · exact done
  · dsimp only
    split
    · refine liftThen (perform fun _ ↦ rfl) ?_
      rintro (status | _)
      · dsimp only
        split
        · exact done
        · exact throw
      · exact done
    · exact done

theorem reset (id : LifecycleId) : Tame clean id.reset := by
  refine (takeRegistration id).bind fun _ ↦ done

theorem cleanup (id : LifecycleId) : Tame clean id.cleanup := by
  refine look.bind fun registration ↦ ?_
  split
  · refine (teardown id).bind ?_
    rintro (error | _)
    · exact (complain _).bind fun _ ↦ reset id
    · exact done
  · exact reset id

end Tame

/-- A registration is prepared under a generation that nobody has had. -/
def Prepares (before : Bridge) (result : Except Error Registration) (after : Bridge) : Prop :=
  before.Advances after ∧ ∀ registration, result = .ok registration →
    before.nextGeneration ≤ registration.generation ∧
      registration.generation < after.nextGeneration

theorem Bridge.Unloaded.enroll {bridge : Bridge} (hunloaded : bridge.Unloaded) (id : LifecycleId)
    (owned attachedHere : Bool) : (bridge.enroll id owned attachedHere).Unloaded := by
  unfold Bridge.enroll
  split
  · exact hunloaded
  · exact hunloaded

theorem advances_enroll (bridge : Bridge) (id : LifecycleId) (owned attachedHere : Bool) :
    bridge.Advances (bridge.enroll id owned attachedHere) := by
  unfold Bridge.enroll
  split
  · exact advances_recount bridge id _
  · exact .refl bridge

theorem follows_register {clean : Bool} (id : LifecycleId) (vm : VmId) (version : Version)
    (owned : Bool) : Follows clean Prepares (id.register vm version owned).run := by
  intro thread first hunloaded
  let drawn : Bridge := { first.bridge with nextGeneration := first.bridge.nextGeneration + 1 }
  have hdrawn : first.bridge.Advances drawn := ⟨Nat.le_succ _, fun _ _ ↦ .inl⟩
  rw [LifecycleId.ensures_register_iff]
  have hattach : ∀ registration, Tame clean (id.attachTo registration { }).run :=
    fun registration ↦ .attachTo id registration { }
  refine (hattach _ thread ⟨drawn, first.outside⟩ hunloaded).weaken ?_
  rintro begun (error | ⟨pointer, attachedHere⟩) middle ⟨hbegun, hunloaded', hadvances⟩
  · exact ⟨hbegun, hunloaded', hdrawn.trans hadvances, nofun⟩
  · have hask : Tame clean (Program.perform (.env pointer .getVersion)) := .perform fun _ ↦ rfl
    refine (hask thread _ (hunloaded'.enroll id owned attachedHere)).weaken ?_
    rintro rest reported last ⟨hrest, hunloaded'', hasked⟩
    have hlast := hadvances.trans ((advances_enroll ..).trans hasked)
    refine ⟨fun hclean ↦ ?_, hunloaded'', hdrawn.trans hlast, ?_⟩
    · rw [deletions_append, hbegun hclean, hrest hclean, List.append_nil]
    · rintro _ ⟨rfl⟩
      exact ⟨Nat.le_refl _, hlast.generation⟩

/-- A failure may still do something that brings the bridge forward. -/
theorem Follows.mapFailure {clean : Bool} {body : Fallible Registration}
    {change : Error → Program Error} (hbody : Follows clean Prepares body.run)
    (hchange : ∀ error, Tame clean (change error)) :
    Follows clean Prepares (body.mapFailure change).run := by
  intro thread first hunloaded
  rw [Fallible.ensures_mapFailure]
  refine (hbody thread first hunloaded).weaken ?_
  rintro begun (error | registration) middle ⟨hdeletions, hunloaded', hprepares⟩
  · refine (hchange error thread middle hunloaded').weaken ?_
    rintro rest changed last ⟨hdeletions', hunloaded'', hadvances⟩
    refine ⟨fun hclean ↦ ?_, hunloaded'', hprepares.1.trans hadvances, ?_⟩
    · rw [deletions_append, hdeletions hclean, hdeletions' hclean, List.append_nil]
    · rintro _ ⟨⟩
  · exact ⟨hdeletions, hunloaded', hprepares⟩

/-- What was prepared may be registered. -/
theorem Tame.setRegistration {clean : Bool} {body : Fallible Registration}
    {change : Registration → Registration} (id : LifecycleId)
    (hbody : Follows clean Prepares body.run)
    (hchange : ∀ registration, (change registration).generation = registration.generation) :
    Tame clean (do
      let registration ← body
      id.setRegistration (change registration) : Fallible Unit).run := by
  intro thread first hunloaded
  rw [Fallible.ensures_bind]
  refine (hbody thread first hunloaded).weaken ?_
  rintro begun (error | registration) middle ⟨hdeletions, hunloaded', hadvances, hprepared⟩
  · exact ⟨hdeletions, hunloaded', hadvances⟩
  · obtain ⟨hlow, hhigh⟩ := hprepared registration rfl
    rw [Fallible.continues_ok, Fallible.ensures_lift, LifecycleId.ensures_setRegistration_iff,
      List.append_nil]
    refine ⟨hdeletions, hunloaded', hadvances.generation, fun other found hfound ↦ ?_⟩
    unfold Bridge.install at hfound
    by_cases hother : other = id
    · subst hother
      rw [Bridge.lifecycle_setLifecycle_self] at hfound
      cases hfound
      rw [hchange]
      exact .inr ⟨hlow, hhigh⟩
    · rw [Bridge.lifecycle_setLifecycle_of_ne _ _ hother] at hfound
      exact hadvances.registration other found hfound

namespace Tame

variable {clean : Bool}

theorem refuseSecond (id : LifecycleId) : Tame clean id.refuseSecond.run := by
  refine liftThen look fun registration ↦ ?_
  split
  · exact throw
  · exact done

theorem create (id : LifecycleId) (version : Version) (options : Startup.OptionList) :
    Tame clean (id.create version options).run := by
  refine andThen (refuseSecond id) fun _ ↦ andThen done fun arguments ↦ ?_
  refine liftThen (perform fun _ ↦ rfl) fun answer ↦ andThen ofStatus fun vm ↦ ?_
  refine andThen nonNull fun vm ↦ setRegistration id ?_ fun _ ↦ rfl
  refine (follows_register id vm version true).mapFailure fun error ↦ ?_
  refine (perform fun _ ↦ rfl).bind ?_
  rintro (status | _)
  · exact (complain _).bind fun _ ↦ done
  · exact done

theorem adopt (id : LifecycleId) (vm : Option VmId) (version : Version) :
    Tame clean (id.adopt vm version).run := by
  refine andThen nonNull fun vm ↦ ?_
  dsimp only
  split
  · rw [Fallible.run_throw_bind]
    exact done
  · refine andThen (refuseSecond id) fun _ ↦ ?_
    exact setRegistration id (follows_register id vm version false) fun _ ↦ rfl

end Tame

/-! ## The exit of a thread -/

theorem Bridge.Unloaded.erase {bridge : Bridge} (hunloaded : bridge.Unloaded) (id : Nat) :
    ({ bridge with threads := bridge.threads.erase id } : Bridge).Unloaded := by
  intro other
  by_cases hother : other = id
  · simp [Bridge.thread, hother]
  · have hthread := hunloaded other
    simpa [Bridge.thread, Store.find?_erase_of_ne _ hother] using hthread

namespace Tame

variable {clean : Bool}

theorem forM {α : Type} {items : List α} {each : α → Program Unit}
    (heach : ∀ item, Tame clean (each item)) : Tame clean (items.forM each) := by
  induction items with
  | nil => exact done
  | cons item items ih => exact (heach item).bind fun _ ↦ ih

theorem runPending (pending : PendingDetach) (heldOutside : LifecycleId → Bool) :
    Tame clean (pending.run heldOutside) := by
  refine state fun bridge _ ↦ ?_
  split
  · refine look.bind ?_
    rintro (_ | registration)
    · exact done
    · refine (perform fun _ ↦ rfl).bind ?_
      rintro (status | pointer)
      · exact done
      · exact detachAttached _ registration
  · exact done

/-- Without a class loader a thread has only its pending detaches to give up. -/
theorem vacate (slot : ThreadSlot) (heldOutside : LifecycleId → Bool) :
    Tame clean (slot.vacate heldOutside) := by
  refine current.bind fun running ↦ state fun bridge hunloaded ↦ ?_
  have hthread := hunloaded running.id
  cases slot with
  | classLoader =>
    refine bind (update (fun bridge' hunloaded' ↦ ?_) fun bridge' ↦ ?_) fun _ ↦ ?_
    · exact hunloaded'.setThread _ rfl
    · exact advances_setThread bridge' _ _
    · rw [hthread]
      exact done
  | pendingDetaches =>
    refine bind (update (fun bridge' hunloaded' ↦ ?_) fun bridge' ↦ ?_) fun _ ↦ ?_
    · exact hunloaded'.setThread _ hthread
    · exact advances_setThread bridge' _ _
    · exact forM fun pending ↦ runPending pending heldOutside

theorem exitThread (heldOutside : LifecycleId → Bool) :
    Tame clean (JavaInterop.exitThread heldOutside) := by
  refine current.bind fun running ↦ state fun bridge _ ↦ ?_
  refine (forM fun slot ↦ vacate slot heldOutside).bind fun _ ↦ update ?_ fun bridge ↦ ?_
  · exact fun bridge hunloaded ↦ hunloaded.erase running.id
  · exact .of_registration rfl fun _ ↦ .inr rfl

end Tame

/-! ## What an environment and a reference know -/

/-- Whoever holds something of this generation knows the machine that it belongs to. -/
structure Bridge.Knows (bridge : Bridge) (id : LifecycleId) (generation : Nat) (vm : VmId) :
    Prop where
  given : generation < bridge.nextGeneration
  machine : ∀ registration, bridge.registered? id generation = some registration →
    registration.vm = vm

/-- Every registration has been given its generation. -/
def Bridge.Numbered (bridge : Bridge) : Prop :=
  ∀ id registration, (bridge.lifecycle id).registration = some registration →
    registration.generation < bridge.nextGeneration

namespace Bridge.Advances

variable {before after : Bridge}

theorem numbered (hadvances : before.Advances after) (hnumbered : before.Numbered) :
    after.Numbered := by
  intro id registration hregistration
  rcases hadvances.registration id registration hregistration with hold | ⟨-, hhigh⟩
  · exact Nat.lt_of_lt_of_le (hnumbered id registration hold) hadvances.generation
  · exact hhigh

/-- A later machine has another generation. -/
theorem knows (hadvances : before.Advances after) {id : LifecycleId} {generation : Nat} {vm : VmId}
    (hknows : before.Knows id generation vm) : after.Knows id generation vm := by
  refine ⟨Nat.lt_of_lt_of_le hknows.given hadvances.generation, ?_⟩
  intro registration hregistered
  obtain ⟨hregistration, hgeneration⟩ := Option.filter_eq_some_iff.1 hregistered
  have hgeneration : registration.generation = generation := beq_iff_eq.1 hgeneration
  rcases hadvances.registration id registration hregistration with hold | ⟨hlow, -⟩
  · exact hknows.machine registration (Option.filter_eq_some_iff.2 ⟨hold, by simp [hgeneration]⟩)
  · exact absurd hknows.given (Nat.not_lt_of_le (hgeneration ▸ hlow))

end Bridge.Advances

/-- The machine that had this generation is gone. -/
structure Bridge.Past (bridge : Bridge) (id : LifecycleId) (generation : Nat) : Prop where
  given : generation < bridge.nextGeneration
  gone : bridge.isLive id generation = false

/-- A generation does not come back. -/
theorem Bridge.Advances.past {before after : Bridge} (hadvances : before.Advances after)
    {id : LifecycleId} {generation : Nat} (hpast : before.Past id generation) :
    after.Past id generation := by
  refine ⟨Nat.lt_of_lt_of_le hpast.given hadvances.generation, ?_⟩
  rw [isLive, Option.isSome_eq_false_iff, Option.isNone_iff_eq_none,
    Option.eq_none_iff_forall_ne_some]
  intro registration hregistered
  obtain ⟨hregistration, hgeneration⟩ := Option.filter_eq_some_iff.1 hregistered
  rcases hadvances.registration id registration hregistration with hold | ⟨hlow, -⟩
  · have hlive : before.isLive id generation = true :=
      Option.isSome_iff_exists.2 ⟨registration, Option.filter_eq_some_iff.2 ⟨hold, hgeneration⟩⟩
    cases hpast.gone.symm.trans hlive
  · exact absurd hpast.given (Nat.not_lt_of_le (beq_iff_eq.1 hgeneration ▸ hlow))

theorem Bridge.past_of_vacant {bridge : Bridge} {id : LifecycleId} {generation : Nat}
    (hgiven : generation < bridge.nextGeneration)
    (hvacant : (bridge.lifecycle id).registration = none) : bridge.Past id generation :=
  ⟨hgiven, by simp [isLive, registered?, hvacant]⟩

/-- An environment is one of the machine that it is used for. -/
def Bridge.Trusts (bridge : Bridge) (env : Env) : Prop :=
  bridge.Knows env.lifecycle env.generation env.pointer.vm

open Program (Ensures)

variable {thread : NativeThread} {first : Moment Attachments}

theorem ensures_attachTo_pointer (id : LifecycleId) (registration : Registration)
    (config : AttachConfig) :
    Ensures Exchange.KeepsAttachments thread (id.attachTo registration config).run first
      fun _ result _ ↦ ∀ pointer attachedHere, result = .ok (pointer, attachedHere) →
        pointer.vm = registration.vm := by
  refine (ensures_attachTo id registration config).weaken ?_
  rintro exchanges _ last ⟨-, hattach⟩ pointer attachedHere rfl
  cases attachedHere with
  | false => exact hattach.2.1
  | true => exact hattach.2.2.1

/-- Whoever gets an environment for a lifecycle can trust it. -/
theorem ensures_enter (id : LifecycleId) (config : AttachConfig)
    (hnumbered : first.bridge.Numbered) :
    Ensures Exchange.KeepsAttachments thread (id.enter config).run first fun _ result _ ↦
      ∀ env attachedHere, result = .ok (env, attachedHere) → first.bridge.Trusts env := by
  rw [LifecycleId.ensures_enter_iff]
  cases hregistration : (first.bridge.lifecycle id).registration with
  | none =>
    rintro _ _ ⟨⟩
  | some registration =>
    refine (ensures_attachTo_pointer id registration config).weaken ?_
    rintro exchanges (error | ⟨pointer, attachedHere⟩) last hpointer
    · rintro _ _ ⟨⟩
    · rintro _ _ ⟨rfl⟩
      refine ⟨hnumbered id registration hregistration, fun found hfound ↦ ?_⟩
      obtain ⟨hsame, -⟩ := Option.filter_eq_some_iff.1 hfound
      cases hregistration.symm.trans hsame
      exact (hpointer _ _ rfl).symm

/-- A new global reference is one of the machine of the environment. -/
theorem ensures_newGlobal (env : Env) (object : Option Handle) :
    Ensures Exchange.KeepsAttachments thread (env.newGlobal object).run first fun _ result _ ↦
      ∀ reference, result = .ok reference → reference.lifecycle = env.lifecycle ∧
        reference.generation = env.generation ∧
        ∃ handle, reference.raw = some handle ∧ handle.vm = env.pointer.vm := by
  unfold Env.newGlobal Env.perform
  rw [Fallible.ensures_bind, Fallible.ensures_nonNull]
  cases object with
  | none => rintro _ ⟨⟩
  | some object =>
    rw [Option.elim_some, Fallible.continues_ok, Fallible.ensures_liftThen]
    refine ensures_request fun answer outside hlaw ↦ ?_
    cases answer with
    | none =>
      dsimp only
      rw [Fallible.ensures_throw]
      rintro _ ⟨⟩
    | some handle =>
      dsimp only
      rw [Fallible.ensures_pure]
      rintro _ ⟨rfl⟩
      exact ⟨rfl, rfl, handle, rfl, hlaw.2 handle rfl⟩

end JavaInterop
