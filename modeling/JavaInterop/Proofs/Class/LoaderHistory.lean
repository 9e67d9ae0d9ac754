import JavaInterop.Proofs.Class.Loader
import JavaInterop.Proofs.Class.Recognition
import JavaInterop.Proofs.Presence.History

/-!
# Who keeps a class loader

Any number of threads create, adopt and forget machines, attach themselves and detach, set class
loaders and exit, in any order.  Between two such activities anything may happen that leaves the
accounts of the bridge and everyone's loader alone.  The log keeps who did what, and all the calls.

The reference to a loader belongs to the thread that has set it.  Whatever a thread has stored it
has either given up or still has, and each reference is given up once, when another one takes its
place or the thread exits.  It is deleted then if its registration is still there.  No other
reference is deleted.

A thread that is attached for good is detached from the machine of its loader when it exits, unless
it has registered this machine itself.  The thread may give up its loader before its hooks run or
after that.  If it gives up the loader first and nothing else keeps the lifecycle in existence, then
the hooks do not find it, and the thread stays attached.
-/

namespace JavaInterop

section

variable [Host]

open Program (Ensures)

/-! ## What threads do -/

namespace Activity

/-- An activity that attachments or loaders depend on. -/
def Deals : Activity → Prop
  | create .. | adopt .. | teardown _ | reset _ | cleanup _ | attach .. | detach _ | enter ..
  | leave .. | exit _ | setClassLoader .. | signalShutdown => True
  | _ => False

/-- The watched thread does not work inside an environment that it leaves again, and no machine is
adopted that is registered elsewhere. -/
def Minds (watched caller : Nat) (bridge : Bridge) : Activity → Prop
  | setClassLoader .. => True
  | release _ | drop _ => False
  | enter .. | leave .. => caller ≠ watched
  | activity => activity.Attends bridge

/-- Whether a loader may be stored or given up. -/
def movesLoader : Activity → Bool
  | setClassLoader .. | exit _ => true
  | _ => false

namespace Deals

variable {activity : Activity}

/-- Every other activity leaves all loaders where they are. -/
theorem writes (hdeals : activity.Deals)
    (hother : activity.movesLoader = false) : activity.program.Writes Bridge.KeepsLoaders := by
  cases activity with
  | create id version options => exact (id.writes_create version options).map
  | adopt id vm version => exact (id.writes_adopt vm version).map
  | teardown id => exact id.writes_teardown.map
  | reset id => exact id.writes_reset.map
  | cleanup id => exact id.writes_cleanup.map
  | attach id config => exact (id.writes_attach config).map
  | detach id => exact id.writes_detach.map
  | enter id config => exact (id.writes_enter config).map
  | leave id config env attachedHere => exact (id.writes_leave config env attachedHere).map
  | signalShutdown => exact writes_signalShutdown.map
  | setClassLoader | exit => cases hother
  | _ => exact absurd hdeals id

theorem official (hdeals : activity.Deals)
    (hother : activity.movesLoader = false) : activity.program.Official := by
  cases activity with
  | create id version options => exact (id.official_create version options).map
  | adopt id vm version => exact (id.official_adopt vm version).map
  | teardown id => exact id.official_teardown.map
  | reset id => exact id.official_reset.map
  | cleanup id => exact id.official_cleanup.map
  | attach id config => exact (id.official_attach config).map
  | detach id => exact id.official_detach.map
  | enter id config => exact (id.official_enter config).map
  | leave id config env attachedHere => exact (id.official_leave config env attachedHere).map
  | signalShutdown => exact official_signalShutdown.map
  | setClassLoader | exit => cases hother
  | _ => exact absurd hdeals id

end Deals

end Activity

/-- A thread moves, and if it is the watched one it is only ever attached for good until it
exits. -/
def Dwells (watched : Nat) (thread : NativeThread) (first : Moment Presence)
    (exchanges : List (Exchange Presence)) (last : Moment Presence) : Prop :=
  ∃ manner, (watched = thread.id → thread.isExiting = false → manner = .lasting) ∧
    Moves manner thread.id first exchanges last

section

variable {watched : Nat} {thread : NativeThread} {first last : Moment Presence}
  {exchanges : List (Exchange Presence)} {activity : Activity}

theorem Moves.dwells (hmoves : Moves .lasting thread.id first exchanges last) :
    Dwells watched thread first exchanges last :=
  ⟨.lasting, fun _ _ ↦ rfl, hmoves⟩

theorem Moves.dwells_of_ne {manner : Manner}
    (hmoves : Moves manner thread.id first exchanges last) (hother : thread.id ≠ watched) :
    Dwells watched thread first exchanges last :=
  ⟨manner, fun hsame ↦ absurd hsame.symm hother, hmoves⟩

theorem ensures_activity_dwells (haccurate : Accurate first)
    (hminds : activity.Minds watched thread.id first.bridge)
    (hother : activity.movesLoader = false) :
    Ensures Exchange.KeepsPresence thread activity.program first fun exchanges _ last ↦
      Dwells watched thread first exchanges last := by
  cases activity with
  | create id version options =>
    apply ensures_attempts
    exact (ensures_create_moves .lasting id version options hminds (haccurate.vacant id)).weaken
      fun _ _ _ hmoves ↦ hmoves.dwells
  | adopt id vm version =>
    apply ensures_attempts
    exact (ensures_adopt_attended .lasting haccurate hminds).weaken fun _ _ _ hmoves ↦ hmoves.dwells
  | teardown id =>
    apply ensures_attempts
    exact (ensures_teardown_moves .lasting id haccurate.apart).weaken
      fun _ _ _ hmoves ↦ hmoves.dwells
  | reset id =>
    apply ensures_completes
    exact (ensures_reset_moves .lasting id).weaken fun _ _ _ hmoves ↦ hmoves.dwells
  | cleanup id =>
    apply ensures_completes
    exact (ensures_cleanup_moves .lasting id haccurate.apart).weaken
      fun _ _ _ hmoves ↦ hmoves.dwells
  | attach id config =>
    apply ensures_attempts
    refine (ensures_attach_joins id config).weaken fun _ _ _ hjoins ↦ ?_
    exact ⟨_, fun _ ↦ NativeThread.manner_eq_lasting, .single hjoins.move⟩
  | detach id =>
    apply ensures_completes
    refine (ensures_detach_quits .lasting id).weaken fun _ _ _ hquits ↦ ?_
    exact Moves.dwells (.single hquits.move)
  | signalShutdown =>
    apply ensures_completes
    exact (ensures_signalShutdown_moves .lasting).weaken fun _ _ _ hmoves ↦ hmoves.dwells
  | enter id config =>
    obtain ⟨manner, hmanner⟩ :
        ∃ manner : Manner, manner.isBrief = (config.isScoped || thread.isExiting) := by
      cases config.isScoped || thread.isExiting with
      | false => exact ⟨.lasting, rfl⟩
      | true => exact ⟨.brief, rfl⟩
    apply ensures_attempts
    refine (ensures_enter_joins manner id config hmanner).weaken fun _ _ _ hjoins ↦ ?_
    exact Moves.dwells_of_ne (.single hjoins.move) hminds
  | leave id config env attachedHere =>
    apply ensures_completes
    refine (ensures_leave_quits .brief id config env attachedHere).weaken fun _ _ _ hquits ↦ ?_
    exact Moves.dwells_of_ne (.single hquits.move) hminds
  | setClassLoader | exit => cases hother
  | _ => exact absurd hminds id

end

/-! ## The log -/

/-- Something that a thread has done, and whether it succeeded. -/
structure Deed extends Event where
  succeeded : Bool

namespace Deed

/-- Whether the thread has given up the loader that it had. -/
def replaces (deed : Deed) : Bool :=
  match deed.activity with
  | .setClassLoader .. => deed.succeeded
  | .exit _ => true
  | _ => false

/-- The loader that the thread has stored, which is the reference that a machine made for it. -/
def stored? (deed : Deed) : Option GlobalReference :=
  match deed.activity with
  | .setClassLoader env _ =>
    if deed.succeeded then env.loader? (issuedHandles deed.exchanges) else none
  | _ => none

/-- The loader that the thread has given up. -/
def surrendered? (deed : Deed) : Option GlobalReference :=
  if deed.replaces then (deed.first.bridge.thread deed.thread.id).loader else none

/-- What a deed comes to for the loaders. -/
structure Regular (deed : Deed) : Prop where
  /-- Whoever does not replace his loader has it still. -/
  loads : deed.first.bridge.Loads deed.thread.id
    (if deed.replaces then deed.stored? else (deed.first.bridge.thread deed.thread.id).loader)
    deed.last.bridge
  /-- A loader is stored if a thread asks for one and succeeds. -/
  stored : ∀ env loader, deed.activity = .setClassLoader env loader →
    deed.stored?.isSome = (deed.succeeded && loader.isSome)
  /-- A loader that is given up is deleted if its registration is there, and nothing else is. -/
  deleted : deletedHandles deed.exchanges = deed.first.bridge.dueOf deed.surrendered?

end Deed

section

variable {watched : Nat} {thread : NativeThread} {first : Moment Presence} {activity : Activity}

theorem attempts_setClassLoader (env : Env) (loader : Option Handle) :
    (Activity.setClassLoader env loader).program =
      Except.isOk <$> (setClassLoader env loader).run := rfl

theorem completes_exit (heldOutside : LifecycleId → Bool) :
    (Activity.exit heldOutside).program = (fun _ ↦ true) <$> exitThread heldOutside := rfl

theorem ensures_aloof_regular (hdeals : activity.Deals) (hother : activity.movesLoader = false) :
    Ensures Exchange.Welcomes thread activity.program first fun exchanges succeeded last ↦
      Deed.Regular ⟨⟨thread, activity, first, exchanges, last⟩, succeeded⟩ := by
  intro exchanges succeeded last hrun hlaw
  have hkeeps := (hdeals.writes hother).keepsLoaders.welcomed _ _ _ hrun hlaw
  have hdeleted := (hdeals.official hother).deletesNothing _ _ _ hrun hlaw
  have hreplaces : Deed.replaces ⟨⟨thread, activity, first, exchanges, last⟩, succeeded⟩ =
      false := by
    cases activity with
    | setClassLoader | exit => cases hother
    | _ => rfl
  refine ⟨?_, ?_, ?_⟩
  · rw [hreplaces]
    exact hkeeps.loads thread.id
  · rintro env loader hset
    rw [show activity = _ from hset] at hother
    cases hother
  · unfold Deed.surrendered?
    rw [hreplaces]
    exact hdeleted

/-- If everyone keeps his loader where it is looked for, every activity is regular. -/
theorem ensures_activity_regular (hplaced : first.bridge.Placed) (hdeals : activity.Deals) :
    Ensures Exchange.Welcomes thread activity.program first fun exchanges succeeded last ↦
      Deed.Regular ⟨⟨thread, activity, first, exchanges, last⟩, succeeded⟩ := by
  cases activity with
  | setClassLoader env loader =>
    rw [attempts_setClassLoader, Program.ensures_map]
    refine (ensures_setClassLoader env loader).weaken ?_
    rintro exchanges (error | _) last ⟨-, hset⟩
    · obtain ⟨hkeeps, -, hdeleted⟩ := hset
      refine ⟨hkeeps.loads thread.id, ?_, hdeleted⟩
      rintro _ _ ⟨⟩
      rfl
    · obtain ⟨hloads, hstored, hdeleted⟩ := hset
      refine ⟨hloads, ?_, hdeleted⟩
      rintro _ _ ⟨⟩
      exact hstored
  | exit heldOutside =>
    rw [completes_exit, Program.ensures_map]
    refine (ensures_exitThread_given heldOutside hplaced).weaken ?_
    rintro exchanges _ last ⟨-, -, hloads, hdeleted⟩
    refine ⟨hloads, ?_, hdeleted⟩
    rintro _ _ ⟨⟩
  | _ => exact ensures_aloof_regular hdeals rfl

/-- The thread does not exit, and has not done so. -/
def Activity.Remains (activity : Activity) (thread : NativeThread) : Prop :=
  thread.isExiting = false ∧ activity.isExit = false

/-- The books stay in order, and the watched thread owes a detach wherever it is attached. -/
theorem ensures_activity_liable (haccurate : Accurate first)
    (hminds : activity.Minds watched thread.id first.bridge) :
    Ensures Exchange.Welcomes thread activity.program first fun _ _ last ↦ Accurate last ∧
      ((watched = thread.id → activity.Remains thread) → first.Liable watched →
        last.Liable watched) := by
  have haloof : activity.movesLoader = false →
      Ensures Exchange.Welcomes thread activity.program first fun _ _ last ↦ Accurate last ∧
        ((watched = thread.id → activity.Remains thread) → first.Liable watched →
          last.Liable watched) := by
    intro hother exchanges succeeded last hrun hlaw
    obtain ⟨manner, hlasting, hmoves⟩ :=
      (ensures_activity_dwells haccurate hminds hother).welcomed _ _ _ hrun hlaw
    refine ⟨hmoves.accurate haccurate, fun hremains hliable ↦ ?_⟩
    exact hmoves.liable haccurate (Exchange.Welcomes.allOblige hlaw)
      (fun hsame ↦ hlasting hsame (hremains hsame).1) hliable
  cases activity with
  | setClassLoader env loader =>
    rw [attempts_setClassLoader, Program.ensures_map]
    refine (ensures_setClassLoader env loader).weaken ?_
    rintro exchanges _ last ⟨habides, -⟩
    obtain ⟨haside, -⟩ := habides.aside haccurate
    exact ⟨haccurate.aside haside, fun _ hliable ↦ hliable.aside haside⟩
  | exit heldOutside =>
    rw [completes_exit, Program.ensures_map]
    intro exchanges _ last hrun hlaw
    have hdeparts := (ensures_exitThread_departs heldOutside haccurate.slotted).welcomed
      _ _ _ hrun hlaw
    refine ⟨hdeparts.accurate haccurate, fun hremains hliable ↦ ?_⟩
    refine hdeparts.liable haccurate (Exchange.Welcomes.allOblige hlaw) (fun hsame ↦ ?_) hliable
    cases (hremains hsame).2
  | _ => exact haloof rfl

end

/-- The log of what has been done since the process began, and how things are now.  A thread exits
once, and has no loader any more after that. -/
inductive LoaderHistory : List Deed → Moment Presence → Prop
  | start (registry : Registry) : LoaderHistory [] ⟨{ registry := registry }, fun _ _ ↦ none⟩
  | aside {log : List Deed} {first last : Moment Presence} (hbefore : LoaderHistory log first)
      (haside : Aside first last) (hkeeps : first.bridge.KeepsLoaders last.bridge) :
      LoaderHistory log last
  | act {log : List Deed} {deed : Deed} (hbefore : LoaderHistory log deed.first)
      (hexiting : deed.thread.isExiting = true ↔
        ∃ other ∈ log, other.activity.isExit = true ∧ other.thread.id = deed.thread.id)
      (honce : deed.activity.movesLoader = true → deed.thread.isExiting = false)
      (hdeals : deed.activity.Deals)
      (hrun : deed.activity.program.Run deed.thread deed.first deed.exchanges deed.succeeded
        deed.last)
      (hlaw : ∀ exchange ∈ deed.exchanges, exchange.Welcomes) :
      LoaderHistory (log ++ [deed]) deed.last

/-! ## What threads have stored -/

namespace Deed

/-- The loader that a thread has stored when it replaced its loader last. -/
def lastStored (thread : Nat) (log : List Deed) : Option GlobalReference :=
  (log.filter fun deed ↦ deed.thread.id = thread ∧ deed.replaces).getLast?.bind stored?

/-- The loaders that turn up in what a thread has done, one after the other. -/
def gather (view : Deed → Option GlobalReference) (thread : Nat) (log : List Deed) :
    List GlobalReference :=
  (log.filter fun deed ↦ deed.thread.id = thread).flatMap fun deed ↦ (view deed).toList

variable {thread : Nat} {log : List Deed} {deed : Deed}
  {view : Deed → Option GlobalReference}

theorem stored?_of_not_replaces (hkept : deed.replaces = false) : deed.stored? = none := by
  unfold replaces at hkept
  unfold stored?
  split
  · rename_i env loader hactivity
    rw [hactivity] at hkept
    exact if_neg (Bool.eq_false_iff.1 hkept)
  · rfl

/-- A loader that is stored is a reference that a machine has made. -/
theorem raw_of_stored? {loader : GlobalReference} (hstored : deed.stored? = some loader) :
    ∃ handle, loader.raw = some handle := by
  unfold stored? at hstored
  split at hstored
  · split at hstored
    · obtain ⟨handle, -, rfl⟩ := Option.map_eq_some_iff.1 hstored
      exact ⟨handle, rfl⟩
    · cases hstored
  · cases hstored

theorem lastStored_raw {loader : GlobalReference} (hlast : lastStored thread log = some loader) :
    ∃ handle, loader.raw = some handle := by
  obtain ⟨deed, -, hstored⟩ := Option.bind_eq_some_iff.1 hlast
  exact raw_of_stored? hstored

theorem lastStored_append_of_replaces (hthread : deed.thread.id = thread)
    (hreplaces : deed.replaces = true) : lastStored thread (log ++ [deed]) = deed.stored? := by
  simp [lastStored, hthread, hreplaces]

theorem lastStored_append_of_not (hnot : deed.thread.id = thread → deed.replaces = false) :
    lastStored thread (log ++ [deed]) = lastStored thread log := by
  have hdeed : ¬ (deed.thread.id = thread ∧ deed.replaces = true) := fun ⟨hthread, hreplaces⟩ ↦
    Bool.eq_false_iff.1 (hnot hthread) hreplaces
  simp [lastStored, List.filter_append, hdeed]

theorem gather_append_self (hthread : deed.thread.id = thread) :
    gather view thread (log ++ [deed]) = gather view thread log ++ (view deed).toList := by
  simp [gather, hthread]

theorem gather_append_of_ne (hthread : deed.thread.id ≠ thread) :
    gather view thread (log ++ [deed]) = gather view thread log := by
  simp [gather, hthread]

end Deed

/-! ## What holds throughout -/

namespace LoaderHistory

variable {log : List Deed} {moment : Moment Presence}

/-- What is true of the loaders at every moment. -/
structure Invariant (log : List Deed) (moment : Moment Presence) : Prop where
  placed : moment.bridge.Placed
  loader : ∀ thread, (moment.bridge.thread thread).loader = Deed.lastStored thread log
  conserved : ∀ thread, Deed.gather Deed.stored? thread log =
    Deed.gather Deed.surrendered? thread log ++ (moment.bridge.thread thread).loader.toList
  regular : ∀ deed ∈ log, deed.Regular

theorem Invariant.aside {first last : Moment Presence} (hfirst : Invariant log first)
    (hkeeps : first.bridge.KeepsLoaders last.bridge) : Invariant log last where
  placed := hkeeps.placed hfirst.placed
  loader thread := (hkeeps.loader thread).trans (hfirst.loader thread)
  conserved thread := by
    rw [hkeeps.loader]
    exact hfirst.conserved thread
  regular := hfirst.regular

/-- A deed of the thread itself. -/
theorem conserved_self {deed : Deed} (hregular : deed.Regular) {given stored : List GlobalReference}
    (hconserved : stored = given ++ (deed.first.bridge.thread deed.thread.id).loader.toList) :
    stored ++ deed.stored?.toList = given ++ deed.surrendered?.toList ++
      (deed.last.bridge.thread deed.thread.id).loader.toList := by
  rw [hregular.loads.self, hconserved, Deed.surrendered?]
  cases hreplaces : deed.replaces with
  | true => rfl
  | false => simp [Deed.stored?_of_not_replaces hreplaces]

theorem Invariant.act {deed : Deed} (hfirst : Invariant log deed.first)
    (hregular : deed.Regular) : Invariant (log ++ [deed]) deed.last := by
  have hloads := hregular.loads
  refine ⟨hloads.placed hfirst.placed, fun thread ↦ ?_, fun thread ↦ ?_, ?_⟩
  · by_cases hthread : deed.thread.id = thread
    · subst hthread
      rw [hloads.self]
      cases hreplaces : deed.replaces with
      | true => exact (Deed.lastStored_append_of_replaces rfl hreplaces).symm
      | false =>
        rw [Deed.lastStored_append_of_not fun _ ↦ hreplaces]
        exact hfirst.loader _
    · rw [hloads.others thread (Ne.symm hthread),
        Deed.lastStored_append_of_not fun hsame ↦ absurd hsame hthread]
      exact hfirst.loader thread
  · by_cases hthread : deed.thread.id = thread
    · subst hthread
      rw [Deed.gather_append_self rfl, Deed.gather_append_self rfl]
      exact conserved_self hregular (hfirst.conserved _)
    · rw [Deed.gather_append_of_ne hthread, Deed.gather_append_of_ne hthread,
        hloads.others thread (Ne.symm hthread)]
      exact hfirst.conserved thread
  · rw [List.forall_mem_append, List.forall_mem_singleton]
    exact ⟨hfirst.regular, hregular⟩

theorem invariant (hhistory : LoaderHistory log moment) : Invariant log moment := by
  induction hhistory with
  | start registry =>
    refine ⟨fun _ hloader ↦ ?_, fun _ ↦ rfl, fun _ ↦ rfl, fun _ hmem ↦
      absurd hmem List.not_mem_nil⟩
    cases hloader
  | aside _ _ hkeeps ih => exact ih.aside hkeeps
  | act _ _ _ hdeals hrun hlaw ih =>
    exact ih.act (ensures_activity_regular ih.placed hdeals _ _ _ hrun hlaw)

/-- The books are in order if no machine was ever registered twice, and the watched thread owes a
detach wherever it is attached, until it exits. -/
theorem liable (hhistory : LoaderHistory log moment) {watched : Nat}
    (hminds : ∀ deed ∈ log, deed.activity.Minds watched deed.thread.id deed.first.bridge) :
    Accurate moment ∧ ((∀ deed ∈ log, deed.activity.isExit = true → deed.thread.id ≠ watched) →
      moment.Liable watched) := by
  induction hhistory with
  | start registry =>
    refine ⟨accurate_start registry, fun _ id registration hregistered ↦ ?_⟩
    cases hregistered
  | aside _ haside _ ih =>
    obtain ⟨haccurate, hliable⟩ := ih hminds
    exact ⟨haccurate.aside haside, fun hthere ↦ (hliable hthere).aside haside⟩
  | act _ hexiting _ _ hrun hlaw ih =>
    rw [List.forall_mem_append, List.forall_mem_singleton] at hminds
    obtain ⟨haccurate, hliable⟩ := ih hminds.1
    obtain ⟨hlast, hkeeps⟩ := ensures_activity_liable haccurate hminds.2 _ _ _ hrun hlaw
    refine ⟨hlast, fun hthere ↦ ?_⟩
    rw [List.forall_mem_append, List.forall_mem_singleton] at hthere
    refine hkeeps (fun hsame ↦ ⟨Bool.eq_false_of_not_eq_true fun hexited ↦ ?_,
      Bool.eq_false_of_not_eq_true fun hexit ↦ hthere.2 hexit hsame.symm⟩) (hliable hthere.1)
    obtain ⟨other, hmem, hexit, hthread⟩ := hexiting.1 hexited
    exact hthere.1 other hmem hexit (hthread.trans hsame.symm)

end LoaderHistory

/-! ## What a thread leaves behind -/

/-- The thread has used its slots in another order. -/
def Moment.reordered (moment : Moment Presence) (thread : Nat) (slots : List ThreadSlot) :
    Moment Presence :=
  ⟨moment.bridge.setThread thread { moment.bridge.thread thread with slots := slots },
    moment.outside⟩

/-- What the exit of a thread comes to.  The registration of its loader is still there. -/
structure LoaderExit (thread : Nat) (loader : GlobalReference) (registration : Registration)
    (exchanges : List (Exchange Presence)) (last : Moment Presence) : Prop where
  gone : last.bridge.thread thread = { }
  registered : last.bridge.registered? loader.lifecycle loader.generation = some registration
  /-- The loader is deleted, and nothing else is. -/
  deleted : ∃ handle, loader.raw = some handle ∧ deletedHandles exchanges = [handle]

/-- A thread that has not exited has only been attached for good.  It has not registered the machine
itself, and has not been attached there since before the machine was registered. -/
structure Lodges (thread : Nat) (registration : Registration) (log : List Deed)
    (moment : Moment Presence) : Prop where
  minds : ∀ deed ∈ log, deed.activity.Minds thread deed.thread.id deed.first.bridge
  there : ∀ deed ∈ log, deed.activity.isExit = true → deed.thread.id ≠ thread
  creator : thread ≠ registration.creator
  joined : (moment.outside registration.vm thread).isSome →
    thread ∈ moment.outside.residents registration

/-- How loaders are kept.  The log says what has been done so far. -/
structure LoaderOwnership (log : List Deed) (moment : Moment Presence) : Prop where
  /-- Every thread has the loader that it has stored last, if its registration is there. -/
  current : ∀ thread : NativeThread,
    Ensures (fun _ ↦ True) thread currentClassLoader moment fun exchanges loader _ ↦
      exchanges = [] ∧ loader = (Deed.lastStored thread.id log).filter fun reference ↦
        moment.bridge.isLive reference.lifecycle reference.generation
  loader : ∀ thread, (moment.bridge.thread thread).loader = Deed.lastStored thread log
  /-- Everything that was stored has been given up once, apart from the loader that is there. -/
  conserved : ∀ thread, Deed.gather Deed.stored? thread log =
    Deed.gather Deed.surrendered? thread log ++ (Deed.lastStored thread log).toList
  regular : ∀ deed ∈ log, deed.Regular
  /-- A thread exits, whichever of its slots is the newer one. -/
  exits : ∀ (thread : NativeThread) (loader : GlobalReference) (registration : Registration)
      (slots : List ThreadSlot) (heldOutside : LifecycleId → Bool),
    Deed.lastStored thread.id log = some loader →
    moment.bridge.registered? loader.lifecycle loader.generation = some registration →
    slots.Perm (moment.bridge.thread thread.id).slots →
      Ensures Exchange.Welcomes thread (exitThread heldOutside)
        (moment.reordered thread.id slots) fun exchanges _ last ↦
          LoaderExit thread.id loader registration exchanges last
  /-- The thread is not attached then and does not count, if its hooks find the lifecycle. -/
  departs : ∀ (thread : NativeThread) (loader : GlobalReference) (registration : Registration)
      (slots : List ThreadSlot) (heldOutside : LifecycleId → Bool),
    Deed.lastStored thread.id log = some loader →
    moment.bridge.registered? loader.lifecycle loader.generation = some registration →
    slots.Perm (moment.bridge.thread thread.id).slots →
    Lodges thread.id registration log moment →
      Ensures Exchange.Welcomes thread (exitThread heldOutside)
        (moment.reordered thread.id slots) fun _ _ last ↦
          HooksFind heldOutside loader.lifecycle registration thread.id
              (moment.reordered thread.id slots) last →
            last.tally loader.lifecycle registration thread.id =
              (moment.tally loader.lifecycle registration thread.id).depart

namespace LoaderHistory

variable {thread : NativeThread} {log : List Deed} {moment : Moment Presence}

/-- The order of the slots does not matter to the books. -/
theorem reordered (hhistory : LoaderHistory log moment) {caller : Nat} {slots : List ThreadSlot}
    (hperm : slots.Perm (moment.bridge.thread caller).slots) :
    LoaderHistory log (moment.reordered caller slots) := by
  refine hhistory.aside (aside_setThread rfl fun hslotted ↦ ?_) ?_
  · exact ⟨hperm.nodup_iff.2 hslotted.nodup, fun howes ↦ hperm.mem_iff.2 (hslotted.mem howes)⟩
  · exact .setThread rfl hperm.symm.subset

section

variable {heldOutside : LifecycleId → Bool} {loader : GlobalReference}
  {registration : Registration}

theorem ensures_loaderExit (hhistory : LoaderHistory log moment)
    (hlast : Deed.lastStored thread.id log = some loader)
    (hlive : moment.bridge.registered? loader.lifecycle loader.generation = some registration) :
    Ensures Exchange.Welcomes thread (exitThread heldOutside) moment fun exchanges _ last ↦
      LoaderExit thread.id loader registration exchanges last := by
  have hinvariant := hhistory.invariant
  obtain ⟨handle, hraw⟩ := Deed.lastStored_raw hlast
  refine (ensures_exitThread_given heldOutside hinvariant.placed).weaken ?_
  rintro exchanges _ last ⟨hgone, hsame, -, hdeleted⟩
  refine ⟨hgone, ?_, handle, hraw, ?_⟩
  · unfold Bridge.registered? at hlive ⊢
    rw [hsame]
    exact hlive
  · rw [hdeleted, hinvariant.loader, hlast]
    simp [Bridge.dueOf, Bridge.due, Bridge.isUsable, Bridge.isLive, GlobalReference.isReleased,
      hraw, hlive]

theorem ensures_departed (hhistory : LoaderHistory log moment)
    (hlast : Deed.lastStored thread.id log = some loader)
    (hlive : moment.bridge.registered? loader.lifecycle loader.generation = some registration)
    (hlodges : Lodges thread.id registration log moment) :
    Ensures Exchange.Welcomes thread (exitThread heldOutside) moment fun _ _ last ↦
      HooksFind heldOutside loader.lifecycle registration thread.id moment last →
        last.tally loader.lifecycle registration thread.id =
          (moment.tally loader.lifecycle registration thread.id).depart := by
  obtain ⟨haccurate, hliable⟩ := hhistory.liable hlodges.minds
  obtain ⟨hregistered, -⟩ := Option.filter_eq_some_iff.1 hlive
  have hloader : (moment.bridge.thread thread.id).loader = some loader :=
    (hhistory.invariant.loader thread.id).trans hlast
  have howes : moment.Owes loader.lifecycle registration thread.id := fun hpresent ↦
    hliable hlodges.there loader.lifecycle registration hregistered (hlodges.joined hpresent)
      hlodges.creator
  exact ensures_exitThread_departs_loader haccurate hhistory.invariant.placed hloader hregistered
    howes

end

/-- Loaders are kept safe through everything that threads do. -/
theorem owns_loader (hhistory : LoaderHistory log moment) : LoaderOwnership log moment where
  current thread := by
    refine ensures_currentClassLoader.weaken ?_
    rintro _ _ last ⟨rfl, -, -, rfl⟩
    refine ⟨rfl, ?_⟩
    rw [hhistory.invariant.loader]
    cases hlast : Deed.lastStored thread.id log with
    | none => rfl
    | some loader =>
      obtain ⟨handle, hraw⟩ := Deed.lastStored_raw hlast
      simp [Option.filter, Bridge.isUsable, GlobalReference.isReleased, hraw]
  loader := hhistory.invariant.loader
  conserved thread := by
    rw [← hhistory.invariant.loader]
    exact hhistory.invariant.conserved thread
  regular := hhistory.invariant.regular
  exits thread loader registration slots heldOutside hlast hlive hperm :=
    (hhistory.reordered hperm).ensures_loaderExit hlast hlive
  departs thread loader registration slots heldOutside hlast hlive hperm hlodges := by
    obtain ⟨hminds, hthere, hcreator, hjoined⟩ := hlodges
    exact (hhistory.reordered hperm).ensures_departed hlast hlive
      ⟨hminds, hthere, hcreator, hjoined⟩

end LoaderHistory

end

/-! ## A thread that leaves its loader behind -/

namespace Sample

section

variable [Host]

/-- A machine that has a new reference for every object but one. -/
def furnishing (caller : Nat) : Program.Machine Presence
  | .env _ (.newGlobalRef object), before =>
    (if object.number = 0 then none else some ⟨object.vm, object.number + 10⟩, before)
  | request, before => residing caller request before

theorem welcomes_furnishing (thread : NativeThread) (request : Call) (before : Moment Presence) :
    Exchange.Welcomes ⟨thread, request, (furnishing thread.id request before).1, before,
      (furnishing thread.id request before).2⟩ := by
  cases request with
  | env pointer function =>
    cases function with
    | newGlobalRef object => exact ⟨⟨rfl, rfl⟩, trivial⟩
    | _ => exact ⟨⟨rfl, rfl⟩, trivial⟩
  | getEnv vm version =>
    refine ⟨keepsPresence_residing thread (.getEnv vm version) before, ?_, ?_⟩
    · exact obliging_residing thread (.getEnv vm version) before
    · intro habsent
      simp [furnishing, residing, habsent]
  | attach vm request =>
    exact ⟨keepsPresence_residing thread (.attach vm request) before, ⟨_, rfl⟩⟩
  | detach vm => exact ⟨keepsPresence_residing thread (.detach vm) before, rfl⟩
  | create arguments => exact ⟨keepsPresence_residing thread (.create arguments) before, trivial⟩
  | destroy vm => exact ⟨keepsPresence_residing thread (.destroy vm) before, trivial⟩
  | list size => exact ⟨keepsPresence_residing thread (.list size) before, trivial⟩

/-- How far a process has come. -/
structure LoaderProcess where
  log : List Deed
  now : Moment Presence

/-- A thread does one more thing. -/
def LoaderProcess.act (process : LoaderProcess) (thread : NativeThread) (activity : Activity) :
    LoaderProcess :=
  let played := activity.program.play (furnishing thread.id) thread process.now
  ⟨process.log ++ [⟨⟨thread, activity, process.now, played.1, played.2.2⟩, played.2.1⟩], played.2.2⟩

theorem LoaderProcess.history_act {process : LoaderProcess}
    (hhistory : LoaderHistory process.log process.now)
    (thread : NativeThread) (activity : Activity) (hstays : thread.isExiting = false)
    (hthere : ∀ other ∈ process.log, other.activity.isExit = true → other.thread.id ≠ thread.id)
    (hdeals : activity.Deals) :
    LoaderHistory (process.act thread activity).log (process.act thread activity).now :=
  @LoaderHistory.act _ process.log ⟨⟨thread, activity, process.now, _, _⟩, _⟩ hhistory
    (iff_of_false (Bool.not_eq_true _ ▸ hstays)
      fun ⟨other, hmem, hexit, hthread⟩ ↦ hthere other hmem hexit hthread)
    (fun _ ↦ hstays) hdeals (Program.run_play _ _)
    (Program.lawful_play _ (welcomes_furnishing thread))

/-- What has been done so far.  The watched thread has only been attached for good. -/
structure LoaderProcess.Orderly (watched : Nat) (process : LoaderProcess) : Prop where
  history : LoaderHistory process.log process.now
  minds : ∀ deed ∈ process.log, deed.activity.Minds watched deed.thread.id deed.first.bridge

theorem LoaderProcess.Orderly.act {watched : Nat} {process : LoaderProcess}
    (hprocess : process.Orderly watched)
    (thread : NativeThread) (activity : Activity) (hstays : thread.isExiting = false)
    (hthere : ∀ other ∈ process.log, other.activity.isExit = true → other.thread.id ≠ thread.id)
    (hdeals : activity.Deals) (hminds : activity.Minds watched thread.id process.now.bridge) :
    (process.act thread activity).Orderly watched where
  history := LoaderProcess.history_act hprocess.history thread activity hstays hthere hdeals
  minds := by
    unfold LoaderProcess.act
    rw [List.forall_mem_append, List.forall_mem_singleton]
    exact ⟨hprocess.minds, hminds⟩

theorem exits_furnishing (heldOutside : LifecycleId → Bool) (first : Moment Presence) :
    ∃ (exchanges : List (Exchange Presence)) (last : Moment Presence),
      (exitThread heldOutside).Run worker first exchanges () last ∧
        ∀ exchange ∈ exchanges, exchange.Welcomes :=
  ⟨_, _, Program.run_play (furnishing worker.id) _,
    Program.lawful_play _ (welcomes_furnishing worker)⟩

/-- A lifecycle besides the shared one. -/
def separate : LifecycleId := ⟨1⟩

def issuer : Registration := ⟨vm, .v1_8, thread.id, false, 1⟩

/-- The environment of the second thread. -/
def quarters : Env := Env.of separate issuer ⟨vm, worker.id⟩

/-- The reference that is made for an object with this number. -/
def kept (number : Nat) : GlobalReference := ⟨some ⟨vm, number + 10⟩, separate, 1⟩

/-- Nobody has done anything. -/
def untouched : LoaderProcess := ⟨[], empty.now⟩

/-- A thread has adopted a machine, and another one is attached. -/
def settled : LoaderProcess :=
  (untouched.act thread (.adopt separate (some vm) .v1_8)).act worker (.attach separate { })

/-- The second thread has set a class loader. -/
def furnished : LoaderProcess := settled.act worker (.setClassLoader quarters (some ⟨vm, 1⟩))

/-- It fails to set another one, and sets a third one. -/
def refurnished : LoaderProcess :=
  (furnished.act worker (.setClassLoader quarters (some ⟨vm, 0⟩))).act worker
    (.setClassLoader quarters (some ⟨vm, 2⟩))

/-- The machine is registered in the shared lifecycle as well.  The second thread is attached
through this one, sets a class loader while it works with the other one, and the shared lifecycle
forgets the machine. -/
def disowned : LoaderProcess :=
  let twice := (untouched.act thread (.adopt separate (some vm) .v1_8)).act thread
    (.adopt .shared (some vm) .v1_8)
  ((twice.act worker (.attach .shared { })).act worker
    (.setClassLoader quarters (some ⟨vm, 1⟩))).act thread (.reset .shared)

/-- The exit of the second thread, whose slots are in a certain order. -/
def leaving (process : LoaderProcess) (heldOutside : LifecycleId → Bool) (slots : List ThreadSlot) :
    List (Exchange Presence) × Unit × Moment Presence :=
  (exitThread heldOutside).play (furnishing worker.id) worker
    (process.now.reordered worker.id slots)

theorem leaves {process : LoaderProcess} {heldOutside : LifecycleId → Bool}
    {slots : List ThreadSlot} {deleted : List Handle} {tally : Tally}
    (hdeleted : deletedHandles (leaving process heldOutside slots).1 = deleted)
    (htally : (leaving process heldOutside slots).2.2.tally separate issuer worker.id = tally) :
    ∃ (exchanges : List (Exchange Presence)) (last : Moment Presence),
      (exitThread heldOutside).Run worker (process.now.reordered worker.id slots) exchanges ()
        last ∧
      (∀ exchange ∈ exchanges, exchange.Welcomes) ∧ deletedHandles exchanges = deleted ∧
      last.tally separate issuer worker.id = tally :=
  ⟨_, _, Program.run_play (furnishing worker.id) _,
    Program.lawful_play _ (welcomes_furnishing worker), hdeleted, htally⟩

end

theorem orderly_furnished :
    let _ := host
    furnished.Orderly worker.id := by
  intro _
  have huntouched : untouched.Orderly worker.id :=
    ⟨.start .builtins, fun _ hmem ↦ absurd hmem List.not_mem_nil⟩
  have hfree : (Activity.adopt separate (some vm) .v1_8).Attends untouched.now.bridge :=
    Activity.attends_adopt List.not_mem_nil (by decide)
  have hadopted := huntouched.act thread (.adopt separate (some vm) .v1_8) rfl (by decide) trivial
    hfree
  have hsettled := hadopted.act worker (.attach separate { }) rfl (by decide +kernel) trivial
    trivial
  exact hsettled.act worker (.setClassLoader quarters (some ⟨vm, 1⟩)) rfl (by decide +kernel)
    trivial trivial

theorem history_disowned :
    let _ := host
    LoaderHistory disowned.log disowned.now := by
  intro _
  have huntouched : LoaderHistory untouched.log untouched.now := .start .builtins
  have hadopted := LoaderProcess.history_act huntouched thread (.adopt separate (some vm) .v1_8) rfl
    (by decide) trivial
  have htwice := LoaderProcess.history_act hadopted thread (.adopt .shared (some vm) .v1_8) rfl
    (by decide +kernel) trivial
  have hattached := LoaderProcess.history_act htwice worker (.attach .shared { }) rfl
    (by decide +kernel) trivial
  have hfurnished := LoaderProcess.history_act hattached worker
    (.setClassLoader quarters (some ⟨vm, 1⟩)) rfl (by decide +kernel) trivial
  exact LoaderProcess.history_act hfurnished thread (.reset .shared) rfl (by decide +kernel) trivial

theorem orderly_refurnished :
    let _ := host
    refurnished.Orderly worker.id := by
  intro _
  have hfailed := orderly_furnished.act worker (.setClassLoader quarters (some ⟨vm, 0⟩)) rfl
    (by decide +kernel) trivial trivial
  exact hfailed.act worker (.setClassLoader quarters (some ⟨vm, 2⟩)) rfl (by decide +kernel)
    trivial trivial

end Sample

/-- A thread sets a class loader, fails to set another one and sets a third one.  When it exits, the
third one is deleted and the thread is detached, whichever of its slots is the newer one. -/
theorem LoaderHistory.owns_loader_refurnished :
    let _ := Sample.host
    ∃ (log : List Deed) (moment : Moment Presence),
      LoaderHistory log moment ∧
      log.map Deed.succeeded = [true, true, true, false, true] ∧
      Deed.gather Deed.stored? Sample.worker.id log = [Sample.kept 1, Sample.kept 2] ∧
      Deed.gather Deed.surrendered? Sample.worker.id log = [Sample.kept 1] ∧
      log.flatMap (fun deed ↦ deletedHandles deed.exchanges) = [⟨Sample.vm, 11⟩] ∧
      moment.tally Sample.separate Sample.issuer Sample.worker.id = ⟨2, some 2⟩ ∧
      ∀ slots ∈ [[ThreadSlot.classLoader, .pendingDetaches], [.pendingDetaches, .classLoader]],
        ∃ (exchanges : List (Exchange Presence)) (last : Moment Presence),
          (exitThread fun _ ↦ true).Run Sample.worker (moment.reordered Sample.worker.id slots)
            exchanges () last ∧
          deletedHandles exchanges = [⟨Sample.vm, 12⟩] ∧
          last.tally Sample.separate Sample.issuer Sample.worker.id = ⟨1, none⟩ := by
  intro _
  have hhistory : LoaderHistory Sample.refurnished.log Sample.refurnished.now :=
    Sample.orderly_refurnished.history
  have hminds : ∀ deed ∈ Sample.refurnished.log,
      deed.activity.Minds Sample.worker.id deed.thread.id deed.first.bridge :=
    Sample.orderly_refurnished.minds
  have hsucceeded : Sample.refurnished.log.map Deed.succeeded =
      [true, true, true, false, true] := by decide +kernel
  have hstored : Deed.gather Deed.stored? Sample.worker.id Sample.refurnished.log =
      [Sample.kept 1, Sample.kept 2] := by decide +kernel
  have hsurrendered : Deed.gather Deed.surrendered? Sample.worker.id Sample.refurnished.log =
      [Sample.kept 1] := by decide +kernel
  have hdeleted : Sample.refurnished.log.flatMap (fun deed ↦ deletedHandles deed.exchanges) =
      [⟨Sample.vm, 11⟩] := by decide +kernel
  have hthere : ∀ deed ∈ Sample.refurnished.log,
      deed.activity.isExit = true → deed.thread.id ≠ Sample.worker.id := by decide +kernel
  have hlast : Deed.lastStored Sample.worker.id Sample.refurnished.log = some (Sample.kept 2) := by
    decide +kernel
  have hlive : Sample.refurnished.now.bridge.registered? Sample.separate 1 =
      some Sample.issuer := by decide +kernel
  have htally : Sample.refurnished.now.tally Sample.separate Sample.issuer Sample.worker.id =
      ⟨2, some 2⟩ := by decide +kernel
  have hpresent : Sample.refurnished.now.outside Sample.vm Sample.worker.id = some 2 := by
    decide +kernel
  have hslots : (Sample.refurnished.now.bridge.thread Sample.worker.id).slots =
      [.classLoader, .pendingDetaches] := by decide +kernel
  generalize Sample.refurnished.log = log at *
  generalize Sample.refurnished.now = moment at *
  refine ⟨log, moment, hhistory, hsucceeded, hstored, hsurrendered, hdeleted, htally, ?_⟩
  intro slots hmem
  have hperm : slots.Perm (moment.bridge.thread Sample.worker.id).slots := by
    rw [hslots]
    rcases List.mem_pair.1 hmem with rfl | rfl
    · exact .refl _
    · exact .swap _ _ []
  have hlodges : Lodges Sample.worker.id Sample.issuer log moment :=
    ⟨hminds, hthere, by decide, fun _ ↦ ⟨2, hpresent, by decide⟩⟩
  obtain ⟨exchanges, last, hrun, hlaw⟩ := Sample.exits_furnishing (fun _ ↦ true)
    (moment.reordered Sample.worker.id slots)
  obtain ⟨-, -, handle, hraw, hdropped⟩ := hhistory.owns_loader.exits Sample.worker
    (Sample.kept 2) Sample.issuer slots (fun _ ↦ true) hlast hlive hperm _ _ _ hrun hlaw
  have hdeparted := hhistory.owns_loader.departs Sample.worker (Sample.kept 2) Sample.issuer slots
    (fun _ ↦ true) hlast hlive hperm hlodges _ _ _ hrun hlaw (.inr (.inr rfl))
  refine ⟨exchanges, last, hrun, ?_, hdeparted.trans (congrArg Tally.depart htally)⟩
  rw [hdropped]
  exact congrArg ([·]) (Option.some.inj hraw).symm

/-- A thread that is attached sets a class loader, and nothing but this loader keeps the lifecycle
in existence.  If the loader is the newer slot, the thread is still attached after its exit.  If the
hooks are, it is detached. -/
theorem LoaderHistory.exit_of_last_holder :
    let _ := Sample.host
    ∃ (log : List Deed) (moment : Moment Presence),
      LoaderHistory log moment ∧
      Deed.lastStored Sample.worker.id log = some (Sample.kept 1) ∧
      moment.bridge.registered? Sample.separate 1 = some Sample.issuer ∧
      Lodges Sample.worker.id Sample.issuer log moment ∧
      moment.tally Sample.separate Sample.issuer Sample.worker.id = ⟨2, some 2⟩ ∧
      (∃ (exchanges : List (Exchange Presence)) (last : Moment Presence),
        (exitThread (· = .shared)).Run Sample.worker
          (moment.reordered Sample.worker.id [.classLoader, .pendingDetaches]) exchanges () last ∧
        (∀ exchange ∈ exchanges, exchange.Welcomes) ∧
        deletedHandles exchanges = [⟨Sample.vm, 11⟩] ∧
        last.tally Sample.separate Sample.issuer Sample.worker.id = ⟨2, some 2⟩) ∧
      ∃ (exchanges : List (Exchange Presence)) (last : Moment Presence),
        (exitThread (· = .shared)).Run Sample.worker
          (moment.reordered Sample.worker.id [.pendingDetaches, .classLoader]) exchanges () last ∧
        (∀ exchange ∈ exchanges, exchange.Welcomes) ∧
        deletedHandles exchanges = [⟨Sample.vm, 11⟩] ∧
        last.tally Sample.separate Sample.issuer Sample.worker.id = ⟨1, none⟩ := by
  intro _
  have hhistory : LoaderHistory Sample.furnished.log Sample.furnished.now :=
    Sample.orderly_furnished.history
  have hminds : ∀ deed ∈ Sample.furnished.log,
      deed.activity.Minds Sample.worker.id deed.thread.id deed.first.bridge :=
    Sample.orderly_furnished.minds
  have hthere : ∀ deed ∈ Sample.furnished.log,
      deed.activity.isExit = true → deed.thread.id ≠ Sample.worker.id := by decide +kernel
  have hlast : Deed.lastStored Sample.worker.id Sample.furnished.log = some (Sample.kept 1) := by
    decide +kernel
  have hlive : Sample.furnished.now.bridge.registered? Sample.separate 1 =
      some Sample.issuer := by decide +kernel
  have hpresent : Sample.furnished.now.outside Sample.vm Sample.worker.id = some 2 := by
    decide +kernel
  have htally : Sample.furnished.now.tally Sample.separate Sample.issuer Sample.worker.id =
      ⟨2, some 2⟩ := by decide +kernel
  -- The lifecycle is gone before the hooks run.
  have hstays : (Sample.leaving Sample.furnished (· = .shared)
      [.classLoader, .pendingDetaches]).2.2.tally Sample.separate Sample.issuer
        Sample.worker.id = ⟨2, some 2⟩ := by decide +kernel
  have hdeleted : deletedHandles (Sample.leaving Sample.furnished (· = .shared)
      [.classLoader, .pendingDetaches]).1 = [⟨Sample.vm, 11⟩] := by decide +kernel
  -- The loader keeps the lifecycle until the hooks have run.
  have hleaves : (Sample.leaving Sample.furnished (· = .shared)
      [.pendingDetaches, .classLoader]).2.2.tally Sample.separate Sample.issuer
        Sample.worker.id = ⟨1, none⟩ := by decide +kernel
  have hdeleted' : deletedHandles (Sample.leaving Sample.furnished (· = .shared)
      [.pendingDetaches, .classLoader]).1 = [⟨Sample.vm, 11⟩] := by decide +kernel
  have hloaderFirst := Sample.leaves hdeleted hstays
  have hhooksFirst := Sample.leaves hdeleted' hleaves
  generalize Sample.furnished.log = log at *
  generalize Sample.furnished.now = moment at *
  have hlodges : Lodges Sample.worker.id Sample.issuer log moment :=
    ⟨hminds, hthere, by decide, fun _ ↦ ⟨2, hpresent, by decide⟩⟩
  exact ⟨log, moment, hhistory, hlast, hlive, hlodges, htally, hloaderFirst, hhooksFirst⟩

/-- A machine is registered in two lifecycles.  A thread is attached to it through one of them,
which then forgets the machine, while the loader belongs to the other one.  When the thread exits,
its loader is deleted, but it stays attached, whichever of its slots is the newer one. -/
theorem LoaderHistory.exit_after_other_lifecycle :
    let _ := Sample.host
    ∃ (log : List Deed) (moment : Moment Presence),
      LoaderHistory log moment ∧
      Deed.lastStored Sample.worker.id log = some (Sample.kept 1) ∧
      moment.bridge.registered? Sample.separate 1 = some Sample.issuer ∧
      Sample.worker.id ≠ Sample.issuer.creator ∧
      moment.tally Sample.separate Sample.issuer Sample.worker.id = ⟨1, some 3⟩ ∧
      ∀ slots ∈ [[ThreadSlot.classLoader, .pendingDetaches], [.pendingDetaches, .classLoader]],
        ∃ (exchanges : List (Exchange Presence)) (last : Moment Presence),
          (exitThread fun _ ↦ true).Run Sample.worker (moment.reordered Sample.worker.id slots)
            exchanges () last ∧
          (∀ exchange ∈ exchanges, exchange.Welcomes) ∧
          deletedHandles exchanges = [⟨Sample.vm, 11⟩] ∧
          last.tally Sample.separate Sample.issuer Sample.worker.id = ⟨1, some 3⟩ := by
  intro _
  let leaving := Sample.leaving Sample.disowned fun _ ↦ true
  have hdeleted : ∀ slots ∈ [[ThreadSlot.classLoader, .pendingDetaches],
      [.pendingDetaches, .classLoader]], deletedHandles (leaving slots).1 = [⟨Sample.vm, 11⟩] := by
    decide +kernel
  have hstays : ∀ slots ∈ [[ThreadSlot.classLoader, .pendingDetaches],
      [.pendingDetaches, .classLoader]], (leaving slots).2.2.tally Sample.separate Sample.issuer
        Sample.worker.id = ⟨1, some 3⟩ := by
    decide +kernel
  exact ⟨_, Sample.disowned.now, Sample.history_disowned, by decide +kernel, by decide +kernel,
    by decide, by decide +kernel,
    fun slots hmem ↦ Sample.leaves (hdeleted slots hmem) (hstays slots hmem)⟩

end JavaInterop
