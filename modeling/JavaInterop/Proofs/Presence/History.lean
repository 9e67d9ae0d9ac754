import JavaInterop.Proofs.Lifecycle.Course
import JavaInterop.Proofs.Presence.Registering
import JavaInterop.Proofs.Presence.Departure

/-!
# How many threads are attached

Any number of threads create, adopt and forget machines, attach themselves and detach, give up
references and exit, in any order.  A thread whose hooks have run may still use the bridge while it
exits, but no more hooks are left with it.  Lifecycles cease to exist when nobody refers to them any
more.  Between two such activities anything may happen that leaves the accounts of the bridge alone,
and threads may come and go at machines that are not registered.  The log keeps who did what, and
all the calls.

Every activity is one step: no other thread sees a machine that is forgotten while the number of its
threads is not.

A machine is registered in one lifecycle at a time.  Whoever is attached to a registered machine was
attached before the machine was registered, or under the registration.

The number that a lifecycle tells is zero without a registered machine.  With one it counts the
threads that were attached under the registration, as long as nobody is detached who was attached
before.  At the end there is a process in which this happens: a thread that had been attached in an
earlier registration is detached, and then a thread that is still attached is not counted.
-/

namespace JavaInterop

section

variable [Host]

open Program (Ensures)

/-! ## What threads do -/

namespace Activity

/-- The lifecycle through which a thread is attached for good. -/
def joins? : Activity → Option LifecycleId
  | attach id _ => some id
  | enter id config => if config.isScoped then none else some id
  | _ => none

/-- An activity that attachments depend on.  No machine is adopted that is registered elsewhere, and
none is registered in a lifecycle that has ceased to exist. -/
def Attends (bridge : Bridge) : Activity → Prop
  | teardown _ | reset _ | cleanup _ | attach .. | detach _ | enter .. | leave .. | exit _
  | release _ | drop _ | signalShutdown => True
  | create id .. => id ∉ bridge.gone
  | adopt id vm _ => id ∉ bridge.gone ∧ ∀ other registration,
    (bridge.lifecycle other).registration = some registration → vm = some registration.vm →
      other = id
  | _ => False

def isExit : Activity → Bool
  | exit _ => true
  | _ => false

/-- What comes of it: the thread exits, it is attached for good, or it moves in some other way. -/
def Comes (activity : Activity) (thread : NativeThread) (first : Moment Presence)
    (exchanges : List (Exchange Presence)) (last : Moment Presence) : Prop :=
  match activity with
  | exit heldOutside => Departs heldOutside thread first exchanges last
  | activity =>
    match activity.joins? with
    | some id => Joins thread.manner id thread.id first exchanges last
    | none => Moves .brief thread.id first exchanges last

/-- A machine that is registered nowhere may be adopted. -/
theorem attends_adopt {bridge : Bridge} {id : LifecycleId} {vm : VmId} {version : Version}
    (hextant : id ∉ bridge.gone)
    (hfree : ∀ other ∈ bridge.lifecycles.keys,
      (bridge.lifecycle other).registration.map Registration.vm ≠ some vm) :
    (adopt id (some vm) version).Attends bridge := by
  refine ⟨hextant, fun other registration hregistered hvm ↦ ?_⟩
  have hunused : other ∈ bridge.lifecycles.keys := by
    by_contra hnew
    have hnone : bridge.lifecycles.find? other = none := by
      unfold Store.find?
      rw [Option.map_eq_none_iff, List.find?_eq_none]
      intro entry hmem hother
      exact hnew (of_decide_eq_true hother ▸ List.mem_map_of_mem hmem)
    rw [Bridge.lifecycle, hnone] at hregistered
    cases hregistered
  refine absurd ?_ (hfree other hunused)
  rw [hregistered]
  exact hvm.symm

end Activity

theorem ensures_signalShutdown_moves (manner : Manner) {thread : NativeThread}
    {first : Moment Presence} :
    Ensures Exchange.KeepsPresence thread signalShutdown first fun exchanges _ last ↦
      Moves manner thread.id first exchanges last := by
  unfold signalShutdown
  rw [Program.ensures_bind, Program.ensures_state, Program.ensures_bind, Program.ensures_update]
  have hunhooked : Aside first ⟨{ first.bridge with hooked := none }, first.outside⟩ :=
    ⟨fun _ ↦ rfl, fun _ ↦ .inl, Nat.le_refl _, fun _ ↦ rfl, fun h ↦ h, fun _ _ ↦ .inl rfl⟩
  have hmove : Move manner thread.id first []
      ⟨{ first.bridge with hooked := none }, first.outside⟩ :=
    .aside hunhooked allQuiet_nil
  cases first.bridge.hooked with
  | none =>
    dsimp only
    rw [Program.ensures_pure]
    exact .single hmove
  | some hook =>
    dsimp only
    split
    · refine (ensures_reset_moves manner hook.1).weaken ?_
      intro exchanges _ last hreset
      exact .step hmove hreset
    · rw [Program.ensures_pure]
      exact .single hmove

section

variable {thread : NativeThread} {first : Moment Presence}

theorem ensures_completes {α : Type} {program : Program α}
    {post : List (Exchange Presence) → Moment Presence → Prop}
    (hprogram : Ensures Exchange.KeepsPresence thread program first
      fun exchanges _ last ↦ post exchanges last) :
    Ensures Exchange.KeepsPresence thread (Activity.completes program) first
      fun exchanges _ last ↦ post exchanges last :=
  Program.ensures_map.2 hprogram

theorem ensures_attempts {α : Type} {operation : Fallible α}
    {post : List (Exchange Presence) → Moment Presence → Prop}
    (hoperation : Ensures Exchange.KeepsPresence thread operation.run first
      fun exchanges _ last ↦ post exchanges last) :
    Ensures Exchange.KeepsPresence thread (Activity.attempts operation) first
      fun exchanges _ last ↦ post exchanges last :=
  Program.ensures_map.2 hoperation

/-- No machine is adopted that is registered elsewhere. -/
theorem ensures_adopt_attended (manner : Manner) (haccurate : Accurate first) {id : LifecycleId}
    {vm : Option VmId} {version : Version}
    (hattends : (Activity.adopt id vm version).Attends first.bridge) :
    Ensures Exchange.KeepsPresence thread (id.adopt vm version).run first
      fun exchanges _ last ↦ Moves manner thread.id first exchanges last := by
  apply ensures_adopt_moves manner id vm version hattends.1 (haccurate.vacant id) haccurate.past
  rintro hvacant adopted rfl ⟨other, registration, hregistered, rfl⟩
  obtain rfl := hattends.2 other registration hregistered rfl
  cases hvacant.symm.trans hregistered

/-- If the books are in order, every activity comes to one of these. -/
theorem ensures_activity_comes (haccurate : Accurate first) {activity : Activity}
    (hattends : activity.Attends first.bridge) :
    Ensures Exchange.KeepsPresence thread activity.program first
      fun exchanges _ last ↦ activity.Comes thread first exchanges last := by
  cases activity with
  | create id version options =>
    exact ensures_attempts
      (ensures_create_moves .brief id version options hattends (haccurate.vacant id))
  | adopt id vm version => exact ensures_attempts (ensures_adopt_attended .brief haccurate hattends)
  | teardown id => exact ensures_attempts (ensures_teardown_moves .brief id haccurate.apart)
  | reset id => exact ensures_completes (ensures_reset_moves .brief id)
  | cleanup id => exact ensures_completes (ensures_cleanup_moves .brief id haccurate.apart)
  | attach id config => exact ensures_attempts (ensures_attach_joins id config)
  | detach id =>
    apply ensures_completes
    exact (ensures_detach_quits .brief id).weaken fun _ _ _ hquits ↦ .single hquits.move
  | enter id config =>
    apply ensures_attempts
    cases hscoped : config.isScoped with
    | true =>
      simp only [Activity.Comes, Activity.joins?, hscoped, ↓reduceIte]
      refine (ensures_enter_joins .brief id config (by rw [hscoped]; rfl)).weaken ?_
      exact fun _ _ _ hjoins ↦ .single hjoins.move
    | false =>
      simp only [Activity.Comes, Activity.joins?, hscoped, Bool.false_eq_true, ↓reduceIte]
      refine ensures_enter_joins thread.manner id config ?_
      rw [hscoped, Bool.false_or, thread.isBrief_manner]
  | leave id config env attachedHere =>
    apply ensures_completes
    exact (ensures_leave_quits .brief id config env attachedHere).weaken
      fun _ _ _ hquits ↦ .single hquits.move
  | exit heldOutside =>
    exact ensures_completes (ensures_exitThread_departs heldOutside haccurate.slotted)
  | release reference =>
    apply ensures_completes
    exact (ensures_release_restores .brief reference rfl).weaken
      fun _ _ _ hrestores ↦ hrestores.moves
  | drop reference =>
    apply ensures_completes
    exact (ensures_drop_restores .brief reference rfl).weaken
      fun _ _ _ hrestores ↦ hrestores.moves
  | signalShutdown => exact ensures_completes (ensures_signalShutdown_moves .brief)
  | _ => exact absurd hattends id

end

namespace Activity.Comes

variable {activity : Activity} {thread : NativeThread} {first last : Moment Presence}
  {exchanges : List (Exchange Presence)}

/-- Whoever does not exit is attached for good, or moves in some other way. -/
theorem joins_or_moves (hcomes : activity.Comes thread first exchanges last)
    (hstays : activity.isExit = false) :
    (∃ id, activity.joins? = some id ∧ Joins thread.manner id thread.id first exchanges last) ∨
      activity.joins? = none ∧ Moves .brief thread.id first exchanges last := by
  unfold Activity.Comes at hcomes
  split at hcomes
  · cases hstays
  · split at hcomes
    · rename_i id hjoins
      exact .inl ⟨id, hjoins, hcomes⟩
    · rename_i hjoins
      exact .inr ⟨hjoins, hcomes⟩

theorem departs (hcomes : activity.Comes thread first exchanges last)
    (hexit : activity.isExit = true) :
    ∃ heldOutside, Departs heldOutside thread first exchanges last := by
  cases activity with
  | exit heldOutside => exact ⟨heldOutside, hcomes⟩
  | _ => cases hexit

/-- Whoever does not exit moves. -/
theorem departs_or_moves (hcomes : activity.Comes thread first exchanges last) :
    (∃ heldOutside, activity = .exit heldOutside ∧
      Departs heldOutside thread first exchanges last) ∨
    ∃ manner, Moves manner thread.id first exchanges last := by
  unfold Activity.Comes at hcomes
  split at hcomes
  · rename_i heldOutside
    exact .inl ⟨heldOutside, rfl, hcomes⟩
  · split at hcomes
    · exact .inr ⟨_, .single hcomes.move⟩
    · exact .inr ⟨.brief, hcomes⟩

theorem accurate (hcomes : activity.Comes thread first exchanges last)
    (haccurate : Accurate first) : Accurate last := by
  rcases hcomes.departs_or_moves with ⟨_, -, hdeparts⟩ | ⟨_, hmoves⟩
  · exact hdeparts.accurate haccurate
  · exact hmoves.accurate haccurate

theorem proceeds (hcomes : activity.Comes thread first exchanges last) :
    Proceeds first.bridge last.bridge := by
  rcases hcomes.departs_or_moves with ⟨_, -, hdeparts⟩ | ⟨_, hmoves⟩
  · exact hdeparts.proceeds
  · exact hmoves.proceeds

theorem inOrder (hcomes : activity.Comes thread first exchanges last)
    (haccurate : Accurate first) : ∀ exchange ∈ exchanges, HooksInOrder exchange.before := by
  rcases hcomes.departs_or_moves with ⟨_, -, hdeparts⟩ | ⟨_, hmoves⟩
  · exact hdeparts.inOrder haccurate
  · exact hmoves.inOrder haccurate

theorem pending_of_ne (hcomes : activity.Comes thread first exchanges last) {caller : Nat}
    (hcaller : caller ≠ thread.id) :
    (last.bridge.thread caller).pending = (first.bridge.thread caller).pending := by
  rcases hcomes.departs_or_moves with ⟨_, -, hdeparts⟩ | ⟨_, hmoves⟩
  · exact hdeparts.pending_of_ne hcaller
  · exact hmoves.pending_of_ne hcaller

/-- No hooks are left with a thread that is exiting. -/
theorem pending_of_exiting (hcomes : activity.Comes thread first exchanges last)
    (hexiting : thread.isExiting = true) :
    (last.bridge.thread thread.id).pending.Sublist (first.bridge.thread thread.id).pending := by
  cases hexit : activity.isExit with
  | true =>
    obtain ⟨heldOutside, hdeparts⟩ := hcomes.departs hexit
    rw [hdeparts.pending_self]
    exact List.nil_sublist _
  | false =>
    have hbrief : thread.manner = .brief := if_pos hexiting
    rcases hcomes.joins_or_moves hexit with ⟨_, -, hjoins⟩ | ⟨-, hmoves⟩
    · rw [hbrief] at hjoins
      exact hjoins.move.pending_sublist thread.id
    · exact hmoves.pending_sublist thread.id

theorem exact (hcomes : activity.Comes thread first exchanges last) (haccurate : Accurate first)
    {id : LifecycleId} {registration : Registration}
    (hregistered : (last.bridge.lifecycle id).registration = some registration)
    (hfirst : (first.bridge.lifecycle id).registration = some registration →
      first.Exact id registration)
    (hnone : ∀ exchange ∈ exchanges, ¬ exchange.Dismisses id registration) :
    last.Exact id registration := by
  rcases hcomes.departs_or_moves with ⟨_, -, hdeparts⟩ | ⟨_, hmoves⟩
  · have hbefore := hregistered
    rw [hdeparts.registered] at hbefore
    exact hdeparts.exact haccurate hregistered (hfirst hbefore) hnone
  · exact hmoves.exact haccurate hregistered hfirst hnone

end Activity.Comes

/-! ## The log -/

/-- Something that a thread has done. -/
structure Event where
  thread : NativeThread
  activity : Activity
  first : Moment Presence
  exchanges : List (Exchange Presence)
  last : Moment Presence

/-- The thread has run its hooks. -/
def Exited (log : List Event) (thread : Nat) : Prop :=
  ∃ event ∈ log, event.activity.isExit = true ∧ event.thread.id = thread

theorem not_exited_iff {log : List Event} {thread : Nat} :
    ¬ Exited log thread ↔
      ∀ event ∈ log, event.activity.isExit = true → event.thread.id ≠ thread := by
  simp [Exited]

theorem exited_snoc {log : List Event} {event : Event} {thread : Nat} :
    Exited (log ++ [event]) thread ↔
      Exited log thread ∨ event.activity.isExit = true ∧ event.thread.id = thread := by
  simp [Exited, or_and_right, exists_or]

/-- The log of what has been done since the process began, and how things are now.  A thread exits
once.  What it does after that it does while the rest of it is taken down. -/
inductive AttachmentHistory : List Event → Moment Presence → Prop
  | start (registry : Registry) : AttachmentHistory [] ⟨{ registry := registry }, fun _ _ ↦ none⟩
  | aside {log : List Event} {first last : Moment Presence} (hbefore : AttachmentHistory log first)
      (haside : Aside first last) : AttachmentHistory log last
  | cease {log : List Event} {first : Moment Presence} (id : LifecycleId)
      (hbefore : AttachmentHistory log first) :
      AttachmentHistory log ⟨first.bridge.cease id, first.outside⟩
  | act {log : List Event} {first last : Moment Presence} {thread : NativeThread}
      {activity : Activity} {exchanges : List (Exchange Presence)} {succeeded : Bool}
      (hbefore : AttachmentHistory log first)
      (hexiting : thread.isExiting = true ↔ Exited log thread.id)
      (honce : activity.isExit = true → thread.isExiting = false)
      (hattends : activity.Attends first.bridge)
      (hrun : activity.program.Run thread first exchanges succeeded last)
      (hlaw : ∀ exchange ∈ exchanges, exchange.KeepsPresence) :
      AttachmentHistory (log ++ [⟨thread, activity, first, exchanges, last⟩]) last

/-- A lifecycle that ceases to exist is forgotten like any other. -/
theorem moves_cease (manner : Manner) (thread : Nat) (first : Moment Presence) (id : LifecycleId) :
    Moves manner thread first [] ⟨first.bridge.cease id, first.outside⟩ := by
  have haside : Aside ⟨first.bridge.forget id, first.outside⟩
      ⟨first.bridge.cease id, first.outside⟩ := by
    refine ⟨fun _ ↦ rfl, fun other hgone ↦ ?_, Nat.le_refl _, fun _ ↦ rfl, fun h ↦ h,
      fun _ _ ↦ .inl rfl⟩
    rcases List.mem_cons.1 hgone with rfl | hbefore
    · right
      unfold Bridge.forget
      rw [Bridge.lifecycle_setLifecycle_self]
    · exact .inl hbefore
  exact .step .forget (.single (.aside haside allQuiet_nil))

namespace AttachmentHistory

variable {log : List Event} {moment : Moment Presence}

theorem accurate (hhistory : AttachmentHistory log moment) : Accurate moment := by
  induction hhistory with
  | start registry => exact accurate_start registry
  | aside _ haside ih => exact ih.aside haside
  | cease id _ ih => exact (moves_cease .brief 0 _ id).accurate ih
  | act _ _ _ hattends hrun hlaw ih =>
    exact (ensures_activity_comes ih hattends _ _ _ hrun hlaw).accurate ih

/-- The number stays right until someone is detached who was attached before. -/
theorem exact (hhistory : AttachmentHistory log moment) {id : LifecycleId}
    {registration : Registration}
    (hregistered : (moment.bridge.lifecycle id).registration = some registration)
    (hnone : ∀ event ∈ log, ∀ exchange ∈ event.exchanges, ¬ exchange.Dismisses id registration) :
    moment.Exact id registration := by
  induction hhistory with
  | start => cases hregistered
  | aside _ haside ih =>
    unfold Moment.Exact
    rw [haside.lifecycle] at hregistered ⊢
    rw [haside.residents hregistered]
    exact ih hregistered hnone
  | cease ceased hbefore ih =>
    exact (moves_cease .brief 0 _ ceased).exact hbefore.accurate hregistered
      (fun hfirst ↦ ih hfirst hnone) fun _ hmem ↦ absurd hmem List.not_mem_nil
  | act hbefore _ _ hattends hrun hlaw ih =>
    rw [List.forall_mem_append, List.forall_mem_singleton] at hnone
    have haccurate := hbefore.accurate
    have hcomes := ensures_activity_comes haccurate hattends _ _ _ hrun hlaw
    exact hcomes.exact haccurate hregistered (fun hfirst ↦ ih hfirst hnone.1) hnone.2

theorem split {earlier later : List Event} {event : Event}
    (hhistory : AttachmentHistory (earlier ++ event :: later) moment) :
    AttachmentHistory earlier event.first ∧
      (event.activity.isExit = true → ¬ Exited earlier event.thread.id) ∧
      event.activity.Attends event.first.bridge ∧
      (∃ succeeded, event.activity.program.Run event.thread event.first event.exchanges succeeded
        event.last) ∧
      (∀ exchange ∈ event.exchanges, exchange.KeepsPresence) ∧
      Proceeds event.first.bridge moment.bridge := by
  generalize hlog : earlier ++ event :: later = log at hhistory
  induction hhistory generalizing later with
  | start => cases List.append_eq_nil_iff.1 hlog |>.2
  | aside _ haside ih =>
    obtain ⟨hbefore, honce, hattends, hrun, hlaw, hproceeds⟩ := ih hlog
    exact ⟨hbefore, honce, hattends, hrun, hlaw, hproceeds.trans haside.proceeds⟩
  | cease id _ ih =>
    obtain ⟨hbefore, honce, hattends, hrun, hlaw, hproceeds⟩ := ih hlog
    exact ⟨hbefore, honce, hattends, hrun, hlaw,
      hproceeds.trans (moves_cease .brief 0 _ id).proceeds⟩
  | act hbefore hexiting honce hattends hrun hlaw ih =>
    have hcomes := ensures_activity_comes hbefore.accurate hattends _ _ _ hrun hlaw
    rcases List.eq_nil_or_concat later with rfl | ⟨later, last, rfl⟩
    · obtain ⟨rfl, hsame⟩ := List.append_inj' hlog rfl
      cases hsame
      refine ⟨hbefore, fun hexit hexited ↦ ?_, hattends, ⟨_, hrun⟩, hlaw, hcomes.proceeds⟩
      cases (honce hexit).symm.trans (hexiting.2 hexited)
    · rw [List.concat_eq_append, ← List.cons_append, ← List.append_assoc] at hlog
      obtain ⟨hbegun, -⟩ := List.append_inj' hlog rfl
      obtain ⟨hbefore', honce', hattends', hrun', hlaw', hproceeds⟩ := ih hbegun
      exact ⟨hbefore', honce', hattends', hrun', hlaw', hproceeds.trans hcomes.proceeds⟩

end AttachmentHistory

/-- A number of attached threads, compared with what the machine knows. -/
structure Headcount (log : List Event) (moment : Moment Presence) (id : LifecycleId)
    (number : Nat) : Prop where
  vacant : (moment.bridge.lifecycle id).registration = none → number = 0
  finite : ∀ registration, (moment.bridge.lifecycle id).registration = some registration →
    (moment.outside.residents registration).Finite
  le : ∀ registration, (moment.bridge.lifecycle id).registration = some registration →
    number ≤ (moment.outside.residents registration).ncard
  /-- Nobody was detached who had not been attached under the registration. -/
  exact : ∀ registration, (moment.bridge.lifecycle id).registration = some registration →
    (∀ event ∈ log, ∀ exchange ∈ event.exchanges, ¬ exchange.Dismisses id registration) →
      number = (moment.outside.residents registration).ncard

/-- A lifecycle tells how many threads were attached under its registration and still are, unless
somebody else was detached; then it may tell less.  Without a registered machine it tells zero. -/
theorem AttachmentHistory.headcount {log : List Event} {moment : Moment Presence}
    (hhistory : AttachmentHistory log moment) (id : LifecycleId) (thread : NativeThread) :
    Ensures Exchange.KeepsPresence thread id.threadsAttached moment fun exchanges number last ↦
      exchanges = [] ∧ last = moment ∧ Headcount log moment id number := by
  have haccurate := hhistory.accurate
  unfold LifecycleId.threadsAttached
  rw [Program.ensures_look]
  refine ⟨rfl, rfl, haccurate.vacant id, haccurate.finite id, haccurate.counted id, ?_⟩
  intro registration hregistered hnone
  exact hhistory.exact hregistered hnone

end

/-! ## A thread that is not counted -/

namespace Sample

section

variable [Host]

/-- A machine that attaches and detaches whoever asks for it, and tells everyone the truth. -/
def residing (caller : Nat) : Program.Machine Presence
  | .getEnv vm _, before =>
    match before.outside vm caller with
    | some _ => (.ok ⟨vm, caller⟩, before)
    | none => (.error .threadDetached, before)
  | .attach vm _, before =>
    (.ok ⟨vm, caller⟩, ⟨before.bridge,
      before.outside.put vm caller (some before.bridge.nextGeneration)⟩)
  | .detach vm, before => (.ok (), ⟨before.bridge, before.outside.put vm caller none⟩)
  | request, before => (nothing request, before)

theorem keepsPresence_residing (thread : NativeThread) (request : Call)
    (before : Moment Presence) :
    Exchange.KeepsPresence ⟨thread, request, (residing thread.id request before).1, before,
      (residing thread.id request before).2⟩ := by
  cases request with
  | getEnv vm version =>
    cases hattached : before.outside vm thread.id with
    | none => constructor <;> simp [residing, PresenceLaw, hattached]
    | some since => constructor <;> simp [residing, PresenceLaw, hattached]
  | attach vm request => exact ⟨rfl, fun _ _ ↦ rfl, nofun⟩
  | detach vm => exact ⟨rfl, fun _ ↦ rfl, nofun⟩
  | create arguments => exact ⟨rfl, nofun, fun _ ↦ rfl⟩
  | destroy vm => exact ⟨rfl, fun _ _ ↦ .inl rfl⟩
  | list size => exact ⟨rfl, rfl⟩
  | env pointer function => exact ⟨rfl, rfl⟩

theorem obliging_residing (thread : NativeThread) (request : Call) (before : Moment Presence) :
    Exchange.Obliging ⟨thread, request, (residing thread.id request before).1, before,
      (residing thread.id request before).2⟩ := by
  cases request with
  | getEnv vm version =>
    intro hattached
    obtain ⟨since, hsince⟩ := Option.isSome_iff_exists.1 hattached
    exact ⟨⟨vm, thread.id⟩, by simp [residing, hsince]⟩
  | detach vm => rfl
  | _ => trivial

/-- What a thread does against a machine. -/
def event (machine : Nat → Program.Machine Presence) (thread : NativeThread) (activity : Activity)
    (first : Moment Presence) : Event :=
  let played := activity.program.play (machine thread.id) thread first
  ⟨thread, activity, first, played.1, played.2.2⟩

theorem history_event {log : List Event} {first : Moment Presence}
    (machine : Nat → Program.Machine Presence) (hbefore : AttachmentHistory log first)
    (thread : NativeThread) (activity : Activity)
    (hexiting : thread.isExiting = true ↔ Exited log thread.id)
    (honce : activity.isExit = true → thread.isExiting = false)
    (hattends : activity.Attends first.bridge)
    (hmachine : ∀ request before, Exchange.KeepsPresence ⟨thread, request,
      (machine thread.id request before).1, before, (machine thread.id request before).2⟩) :
    AttachmentHistory (log ++ [event machine thread activity first])
      (event machine thread activity first).last :=
  .act hbefore hexiting honce hattends (Program.run_play _ _) (Program.lawful_play _ hmachine)

/-- The thread has not exited yet. -/
theorem history_event_of_stays {log : List Event} {first : Moment Presence}
    (machine : Nat → Program.Machine Presence) (hbefore : AttachmentHistory log first)
    (thread : NativeThread) (activity : Activity) (hstays : thread.isExiting = false)
    (hthere : ∀ event ∈ log, event.activity.isExit = true → event.thread.id ≠ thread.id)
    (hattends : activity.Attends first.bridge)
    (hmachine : ∀ request before, Exchange.KeepsPresence ⟨thread, request,
      (machine thread.id request before).1, before, (machine thread.id request before).2⟩) :
    AttachmentHistory (log ++ [event machine thread activity first])
      (event machine thread activity first).last :=
  history_event machine hbefore thread activity
    (iff_of_false (Bool.not_eq_true _ ▸ hstays) (not_exited_iff.2 hthere)) (fun _ ↦ hstays) hattends
    hmachine

theorem lawful_event {law : Exchange Presence → Prop}
    (machine : Nat → Program.Machine Presence) (thread : NativeThread) (activity : Activity)
    (first : Moment Presence) (hmachine : ∀ request before, law ⟨thread, request,
      (machine thread.id request before).1, before, (machine thread.id request before).2⟩) :
    ∀ exchange ∈ (event machine thread activity first).exchanges, law exchange :=
  Program.lawful_play _ hmachine

/-- How far a process has come. -/
structure Scene where
  log : List Event
  now : Moment Presence

/-- A thread does one more thing. -/
def Scene.act (scene : Scene) (thread : NativeThread) (activity : Activity) : Scene :=
  let done := event residing thread activity scene.now
  ⟨scene.log ++ [done], done.last⟩

theorem Scene.history_act {scene : Scene} (hscene : AttachmentHistory scene.log scene.now)
    (thread : NativeThread) (activity : Activity) (hstays : thread.isExiting = false)
    (hthere : ∀ event ∈ scene.log,
      event.activity.isExit = true → event.thread.id ≠ thread.id)
    (hattends : activity.Attends scene.now.bridge) :
    AttachmentHistory (scene.act thread activity).log (scene.act thread activity).now :=
  history_event_of_stays residing hscene thread activity hstays hthere hattends
    (keepsPresence_residing thread)

/-- Nobody has done anything. -/
def empty : Scene := ⟨[], ⟨{ registry := .builtins }, fun _ _ ↦ none⟩⟩

/-- A second thread. -/
def worker : NativeThread := { id := 1, name := none }

/-- A thread has adopted the machine. -/
def adopted : Scene := empty.act thread (.adopt .shared (some vm) .v1_8)

/-- The other thread is attached, too. -/
def manned : Scene := adopted.act worker (.attach .shared { })

/-- The machine is forgotten, and the other thread adopts it anew. -/
def renewed : Scene :=
  (adopted.act thread (.reset .shared)).act worker (.adopt .shared (some vm) .v1_8)

/-- The first thread, which is still attached, is detached. -/
def bereft : Scene := renewed.act thread (.detach .shared)

end

theorem history_adopted :
    let _ := host
    AttachmentHistory adopted.log adopted.now := by
  intro _
  have hempty : AttachmentHistory empty.log empty.now := .start .builtins
  exact Scene.history_act hempty thread (.adopt .shared (some vm) .v1_8) rfl (by decide)
    (Activity.attends_adopt List.not_mem_nil (by decide))

theorem history_manned :
    let _ := host
    AttachmentHistory manned.log manned.now := by
  intro _
  exact Scene.history_act history_adopted worker (.attach .shared { }) rfl
    (by decide +kernel) trivial

theorem history_bereft :
    let _ := host
    AttachmentHistory bereft.log bereft.now := by
  intro _
  have hreset := Scene.history_act history_adopted thread (.reset .shared) rfl
    (by decide +kernel) trivial
  have hrenewed := Scene.history_act hreset worker (.adopt .shared (some vm) .v1_8) rfl
    (by decide +kernel) (Activity.attends_adopt (by decide +kernel) (by decide +kernel))
  exact Scene.history_act hrenewed thread (.detach .shared) rfl (by decide +kernel) trivial

end Sample

/-- Both threads count. -/
theorem AttachmentHistory.headcount_manned :
    let _ := Sample.host
    ∃ (log : List Event) (moment : Moment Presence) (registration : Registration),
      AttachmentHistory log moment ∧
      (moment.bridge.lifecycle .shared).registration = some registration ∧
      LifecycleId.shared.threadsAttached.Run Sample.worker moment [] 2 moment ∧
      (moment.outside.residents registration).ncard = 2 := by
  intro _
  have hhistory : AttachmentHistory Sample.manned.log Sample.manned.now := Sample.history_manned
  have hregistered : (Sample.manned.now.bridge.lifecycle .shared).registration =
      some ⟨Sample.vm, .v1_8, Sample.thread.id, false, 1⟩ := by decide +kernel
  have hattached : (Sample.manned.now.bridge.lifecycle .shared).attached = 2 := by decide +kernel
  have hnobody : ∀ event ∈ Sample.manned.log, ∀ exchange ∈ event.exchanges,
      exchange.detaching? = none := by decide +kernel
  generalize Sample.manned.log = log at *
  generalize Sample.manned.now = moment at *
  have hrun : LifecycleId.shared.threadsAttached.Run Sample.worker moment [] 2 moment := by
    rw [← hattached]
    exact .read (.done _ _)
  obtain ⟨-, -, hcount⟩ := hhistory.headcount .shared Sample.worker [] 2 moment hrun
    fun _ hmem ↦ absurd hmem List.not_mem_nil
  refine ⟨log, moment, _, hhistory, hregistered, hrun, ?_⟩
  refine (hcount.exact _ hregistered fun event hevent exchange hmem hdismisses ↦ ?_).symm
  cases (hnobody event hevent exchange hmem).symm.trans hdismisses.detaches.detaching?

/-- A thread that was attached before the machine was registered anew is detached, and then the
thread that is still attached is not counted. -/
theorem AttachmentHistory.headcount_of_former_thread :
    let _ := Sample.host
    ∃ (log : List Event) (moment : Moment Presence) (registration : Registration),
      AttachmentHistory log moment ∧
      (moment.bridge.lifecycle .shared).registration = some registration ∧
      LifecycleId.shared.threadsAttached.Run Sample.worker moment [] 0 moment ∧
      0 < (moment.outside.residents registration).ncard := by
  intro _
  have hhistory : AttachmentHistory Sample.bereft.log Sample.bereft.now := Sample.history_bereft
  have hregistered : (Sample.bereft.now.bridge.lifecycle .shared).registration =
      some ⟨Sample.vm, .v1_8, Sample.worker.id, false, 2⟩ := by decide +kernel
  have hattached : (Sample.bereft.now.bridge.lifecycle .shared).attached = 0 := by decide +kernel
  have hpresent : Sample.bereft.now.outside Sample.vm Sample.worker.id = some 3 := by
    decide +kernel
  generalize Sample.bereft.log = log at *
  generalize Sample.bereft.now = moment at *
  have hrun : LifecycleId.shared.threadsAttached.Run Sample.worker moment [] 0 moment := by
    rw [← hattached]
    exact .read (.done _ _)
  refine ⟨log, moment, _, hhistory, hregistered, hrun, ?_⟩
  apply (Set.ncard_pos (hhistory.accurate.finite _ _ hregistered)).2
  exact ⟨Sample.worker.id, 3, hpresent, by decide⟩

end JavaInterop
