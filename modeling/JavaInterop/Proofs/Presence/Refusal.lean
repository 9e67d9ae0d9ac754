import JavaInterop.Proofs.Lifecycle.Writes
import JavaInterop.Proofs.Presence.Detachment

/-!
# Threads that are not let go

A machine may refuse to detach a thread.  The thread then stays where it is and counts as before.
But what it owed under the registration was taken back before the machine was asked, and nobody
gives it back: the hook is lost with the first attempt, whether the attempt succeeds or not.

So a thread that exits is detached from the machines where it was attached for good and has not
asked to leave since.  Nothing is assumed here about what machines refuse before the exit.
-/

namespace JavaInterop

section

variable [Host]

open Program (Ensures)

/-! ## Asking to leave -/

/-- The registration under which an activity asks for the running thread to be detached, in any case
and whether the thread owes it or not. -/
def Activity.leaves? (bridge : Bridge) : Activity → Option (LifecycleId × Registration)
  | detach id => (bridge.lifecycle id).registration.map (id, ·)
  | leave id config env attachedHere =>
    if attachedHere && config.isScoped then
      (bridge.registered? id env.generation).map (id, ·)
    else none
  | _ => none

variable {thread : NativeThread} {first : Moment Presence}

section

variable {law : Exchange Presence → Prop}
  {post : Option (LifecycleId × Registration) → Moment Presence → Prop}

/-- A thread leaves under the registration that is there. -/
theorem ensures_detach_of (id : LifecycleId) (hstays : post none first)
    (hleaves : ∀ registration, Ensures law thread (id.detachFrom registration) first
      fun _ _ last ↦ post (some (id, registration)) last) :
    Ensures law thread id.detach first fun _ _ last ↦
      post ((Activity.detach id).leaves? first.bridge) last := by
  change Ensures law thread id.detach first fun _ _ last ↦
    post ((first.bridge.lifecycle id).registration.map (id, ·)) last
  rw [LifecycleId.ensures_detach_iff]
  cases (first.bridge.lifecycle id).registration with
  | none => exact hstays
  | some registration => exact hleaves registration

/-- A thread that was attached for a piece of work leaves at its end, if the registration that it
was attached under is still there. -/
theorem ensures_leave_of (id : LifecycleId) (config : AttachConfig) (env : Env)
    (attachedHere : Bool) (hstays : post none first)
    (hleaves : ∀ registration, Ensures law thread (id.detachFrom registration) first
      fun _ _ last ↦ post (some (id, registration)) last) :
    Ensures law thread (id.leave config env attachedHere) first fun _ _ last ↦
      post ((Activity.leave id config env attachedHere).leaves? first.bridge) last := by
  rw [LifecycleId.ensures_leave_iff]
  dsimp only [Activity.leaves?]
  cases attachedHere && config.isScoped with
  | false => exact hstays
  | true =>
    cases first.bridge.registered? id env.generation with
    | none => exact hstays
    | some registration => exact hleaves registration

/-- A thread that is not attached is attached to give up a reference, and leaves after that. -/
theorem ensures_deleteGlobal_of (hlaw : ∀ exchange, law exchange → exchange.KeepsPresence)
    {post : Moment Presence → Prop} (id : LifecycleId) (generation : Nat) (handle : Handle)
    (hstays : post first)
    (hleaves : ∀ registration bridge,
      (first.bridge.lifecycle id).registration = some registration →
      first.outside registration.vm thread.id = none →
      first.bridge.Rebooks thread.id (fun pending ↦ pending) bridge →
      Ensures law thread (id.detachFrom registration) ⟨bridge.recount id (· + 1),
        first.outside.put registration.vm thread.id (some first.bridge.nextGeneration)⟩
        fun _ _ last ↦ post last) :
    Ensures law thread (id.deleteGlobal generation handle) first fun _ _ last ↦ post last := by
  rw [LifecycleId.ensures_deleteGlobal_iff]
  cases hlive : first.bridge.registered? id generation with
  | none => exact hstays
  | some registration =>
    have hregistered := (Option.filter_eq_some_iff.1 hlive).1
    refine ((ensures_attachTo_attempted .brief id registration _ rfl).strict hlaw).weaken ?_
    rintro begun (error | ⟨pointer, _ | _⟩) attached hattempted
    · obtain ⟨rfl, -⟩ := hattempted
      exact hstays
    · obtain ⟨-, -, rfl, -⟩ := hattempted
      refine ((ensures_env pointer _).strict hlaw).weaken ?_
      rintro deleted _ last ⟨rfl, -⟩
      exact hstays
    · obtain ⟨-, habsent, -, bridge, hbridge, rfl⟩ := hattempted
      have howing : Manner.brief.owing first.bridge thread.id id registration =
          fun pending ↦ pending := funext fun _ ↦ Manner.owing_brief
      rw [howing] at hbridge
      refine ((ensures_env pointer _).strict hlaw).weaken ?_
      rintro deleted _ middle ⟨rfl, -⟩
      exact hleaves registration bridge hregistered habsent hbridge

theorem ensures_release_of {post : Moment Presence → Prop} (reference : GlobalReference)
    (hstays : post first)
    (hdeletes : ∀ handle, Ensures law thread
      (reference.lifecycle.deleteGlobal reference.generation handle) first
      fun _ _ last ↦ post last) :
    Ensures law thread reference.release first fun _ _ last ↦ post last := by
  rw [GlobalReference.ensures_release_iff]
  cases reference.raw with
  | none => exact hstays
  | some handle => exact hdeletes handle

end

/-! ## What is taken back -/

/-- What is owed after a thread has asked to leave. -/
def withdrawn (left : Option (LifecycleId × Registration)) (pending : List PendingDetach) :
    List PendingDetach :=
  match left with
  | none => pending
  | some (id, registration) => pending.filter (· ≠ ⟨id, registration.generation⟩)

omit [Host] in
theorem mem_withdrawn {left : Option (LifecycleId × Registration)} {pending : List PendingDetach}
    {id : LifecycleId} {registration : Registration}
    (hleft : ∀ registration', left = some (id, registration') →
      registration'.generation = registration.generation → registration' = registration) :
    ⟨id, registration.generation⟩ ∈ withdrawn left pending ↔
      ⟨id, registration.generation⟩ ∈ pending ∧ left ≠ some (id, registration) := by
  cases left with
  | none => simp [withdrawn]
  | some pair =>
    obtain ⟨other, registration'⟩ := pair
    have hsame : (⟨id, registration.generation⟩ : PendingDetach) ≠
        ⟨other, registration'.generation⟩ ↔
          some (other, registration') ≠ some (id, registration) := by
      rw [not_iff_not]
      constructor
      · intro hhook
        obtain ⟨rfl, hgeneration⟩ := PendingDetach.mk.inj hhook
        rw [hleft registration' rfl hgeneration.symm]
      · rintro ⟨⟩
        rfl
    rw [withdrawn, List.mem_filter, decide_eq_true_iff, hsame]

/-- The thread has left, or has tried to. -/
def Forfeits (left : Option (LifecycleId × Registration)) (thread : Nat) (before after : Bridge) :
    Prop :=
  ∀ caller, (after.thread caller).pending =
    if caller = thread then withdrawn left (before.thread caller).pending
    else (before.thread caller).pending

theorem forfeits_none {thread : Nat} {before after : Bridge} :
    Forfeits none thread before after ↔
      ∀ caller, (after.thread caller).pending = (before.thread caller).pending := by
  simp [Forfeits, withdrawn]

theorem ensures_detachFrom_forfeits (id : LifecycleId) (registration : Registration) :
    Ensures Exchange.KeepsPresence thread (id.detachFrom registration) first
      fun _ _ last ↦ Forfeits (some (id, registration)) thread.id first.bridge last.bridge := by
  have hbooks : first.bridge.Rebooks thread.id (·.filter (· ≠ ⟨id, registration.generation⟩))
      (first.bridge.excuse id registration thread.id) := .rehook
  have hexcused : Forfeits (some (id, registration)) thread.id first.bridge
      (first.bridge.excuse id registration thread.id) := hbooks.pending
  refine LifecycleId.ensures_detachFrom_parting.weaken fun exchanges _ last hparting ↦ ?_
  cases hparting with
  | absent hasked => rwa [hasked.bridge]
  | refused hasked hdetached => rwa [hdetached.bridge, hasked.bridge]
  | left hasked hdetached => rwa [hdetached.bridge, hasked.bridge]

theorem ensures_detach_forfeits (id : LifecycleId) :
    Ensures Exchange.KeepsPresence thread id.detach first fun _ _ last ↦
      Forfeits ((Activity.detach id).leaves? first.bridge) thread.id first.bridge last.bridge :=
  @ensures_detach_of _ thread first _ (fun left last ↦ Forfeits left thread.id _ last.bridge) id
    (forfeits_none.2 fun _ ↦ rfl) (ensures_detachFrom_forfeits id)

theorem ensures_leave_forfeits (id : LifecycleId) (config : AttachConfig) (env : Env)
    (attachedHere : Bool) :
    Ensures Exchange.KeepsPresence thread (id.leave config env attachedHere) first fun _ _ last ↦
      Forfeits ((Activity.leave id config env attachedHere).leaves? first.bridge) thread.id
        first.bridge last.bridge :=
  @ensures_leave_of _ thread first _ (fun left last ↦ Forfeits left thread.id _ last.bridge) id
    config env attachedHere (forfeits_none.2 fun _ ↦ rfl) (ensures_detachFrom_forfeits id)

/-- Nobody owes a detach where he is not attached. -/
theorem Accurate.not_owed (haccurate : Accurate first) {id : LifecycleId}
    {registration : Registration} {thread : Nat}
    (hregistered : (first.bridge.lifecycle id).registration = some registration)
    (habsent : first.outside registration.vm thread = none) :
    ⟨id, registration.generation⟩ ∉ (first.bridge.thread thread).pending := by
  intro howes
  have hpresent := haccurate.isSome hregistered howes
  rw [habsent] at hpresent
  cases hpresent

/-- A thread that is attached to give up a reference does not owe the detach that follows. -/
theorem ensures_release_forfeits (haccurate : Accurate first) (reference : GlobalReference) :
    Ensures Exchange.KeepsPresence thread reference.release first
      fun _ _ last ↦ Forfeits none thread.id first.bridge last.bridge := by
  have hsame : Forfeits none thread.id first.bridge first.bridge := forfeits_none.2 fun _ ↦ rfl
  refine ensures_release_of reference hsame fun handle ↦ ?_
  refine ensures_deleteGlobal_of (fun _ hkeeps ↦ hkeeps) _ _ handle hsame ?_
  intro registration bridge hregistered habsent hbridge
  refine (ensures_detachFrom_forfeits _ registration).weaken ?_
  intro exchanges _ last hforfeits
  have howes : ∀ caller, (bridge.thread caller).pending = (first.bridge.thread caller).pending :=
    fun caller ↦ (hbridge.pending caller).trans (ite_self _)
  refine forfeits_none.2 fun caller ↦ (hforfeits caller).trans ?_
  split
  · rename_i hcaller
    refine (congrArg _ (howes caller)).trans (List.filter_eq_self.2 ?_)
    rw [hcaller]
    intro hook hhook
    apply decide_eq_true
    rintro rfl
    exact haccurate.not_owed hregistered habsent hhook
  · exact howes caller

/-! ## A refused detach -/

/-- A machine that is asked to detach a thread reports a failure. -/
def Exchange.Refuses : Exchange Presence → Prop
  | ⟨_, .detach _, reply, _, _⟩ => ∃ status, reply = .error status
  | _ => True

/-- What may be relied on in a call to machines that let nobody go. -/
structure Exchange.Resists (exchange : Exchange Presence) : Prop where
  keeps : exchange.KeepsPresence
  refuses : exchange.Refuses

/-- A thread that has asked to leave and was not let go.  Everyone stays where they are and counts
as before, but what the thread owed under the registration is not owed any more. -/
structure Stranded (left : Option (LifecycleId × Registration)) (thread : Nat)
    (first last : Moment Presence) : Prop where
  presence : last.outside = first.outside
  lifecycle : ∀ id, last.bridge.lifecycle id = first.bridge.lifecycle id
  forfeits : Forfeits left thread first.bridge last.bridge

theorem ensures_detachFrom_refused (id : LifecycleId) (registration : Registration) :
    Ensures Exchange.Resists thread (id.detachFrom registration) first
      fun _ _ last ↦ Stranded (some (id, registration)) thread.id first last := by
  have hstays : Ensures Exchange.Resists thread (id.detachFrom registration) first fun _ _ last ↦
      last = ⟨first.bridge.excuse id registration thread.id, first.outside⟩ := by
    refine LifecycleId.ensures_detachFrom_parting.weaken fun exchanges _ last hparting ↦ ?_
    cases hparting with
    | absent hasked => exact hasked.keeps.of_getEnv.1
    | refused hasked hdetached =>
      exact hdetached.keeps.of_detach.1.trans hasked.keeps.of_getEnv.1
    | left _ hdetached =>
      obtain ⟨status, hstatus⟩ := hdetached.refuses
      cases hstatus
  have hforfeits : Ensures Exchange.Resists thread (id.detachFrom registration) first fun _ _ last ↦
      Forfeits (some (id, registration)) thread.id first.bridge last.bridge :=
    (ensures_detachFrom_forfeits id registration).strict fun _ ↦ Exchange.Resists.keeps
  refine (hstays.and hforfeits).weaken ?_
  rintro exchanges _ last ⟨rfl, hforfeits⟩
  exact ⟨rfl, fun _ ↦ rfl, hforfeits⟩

theorem Stranded.refl (thread : Nat) (moment : Moment Presence) :
    Stranded none thread moment moment :=
  ⟨rfl, fun _ ↦ rfl, forfeits_none.2 fun _ ↦ rfl⟩

/-- What comes of giving up a reference if the thread is not let go.  All that is owed stays owed.
If the thread had to be attached for it, it stays attached and goes on to count. -/
structure Lingers (id : LifecycleId) (thread : Nat) (first last : Moment Presence) : Prop where
  forfeits : Forfeits none thread first.bridge last.bridge
  outcome : last.outside = first.outside ∧
      (∀ other, last.bridge.lifecycle other = first.bridge.lifecycle other) ∨
    ∃ registration, (first.bridge.lifecycle id).registration = some registration ∧
      first.outside registration.vm thread = none ∧
      last.outside =
        first.outside.put registration.vm thread (some first.bridge.nextGeneration) ∧
      ∀ other, last.bridge.lifecycle other = (first.bridge.recount id (· + 1)).lifecycle other

theorem ensures_release_refused (haccurate : Accurate first) (reference : GlobalReference) :
    Ensures Exchange.Resists thread reference.release first
      fun _ _ last ↦ Lingers reference.lifecycle thread.id first last := by
  have hkeeps : ∀ exchange : Exchange Presence, exchange.Resists → exchange.KeepsPresence :=
    fun _ ↦ Exchange.Resists.keeps
  have hforfeits : Ensures Exchange.Resists thread reference.release first
      fun _ _ last ↦ Forfeits none thread.id first.bridge last.bridge :=
    (ensures_release_forfeits haccurate reference).strict hkeeps
  refine (hforfeits.and ?_).weaken fun _ _ _ hboth ↦ ⟨hboth.1, hboth.2⟩
  refine ensures_release_of reference (.inl ⟨rfl, fun _ ↦ rfl⟩) fun handle ↦ ?_
  refine ensures_deleteGlobal_of hkeeps _ _ handle (.inl ⟨rfl, fun _ ↦ rfl⟩) ?_
  intro registration bridge hregistered habsent hbridge
  refine (ensures_detachFrom_refused _ registration).weaken ?_
  rintro exchanges _ last ⟨hpresence, hlifecycle, -⟩
  refine .inr ⟨registration, hregistered, habsent, hpresence, fun other ↦ ?_⟩
  rw [hlifecycle]
  exact (hbridge.recount _ (· + 1)).lifecycle other

/-! ## What stays owed -/

/-- Nobody owes less to the lifecycles that still exist. -/
structure Bridge.OwesMore (before after : Bridge) : Prop where
  gone : after.gone = before.gone
  pending : ∀ caller, ∀ hook ∈ (before.thread caller).pending, hook.lifecycle ∉ before.gone →
    hook ∈ (after.thread caller).pending

theorem Bridge.OwesMore.refl (bridge : Bridge) : bridge.OwesMore bridge :=
  ⟨rfl, fun _ _ hhook _ ↦ hhook⟩

theorem Bridge.OwesMore.trans {before between after : Bridge} (hbegun : before.OwesMore between)
    (hrest : between.OwesMore after) : before.OwesMore after where
  gone := hrest.gone.trans hbegun.gone
  pending caller hook hhook hextant :=
    hrest.pending caller hook (hbegun.pending caller hook hhook hextant) (hbegun.gone ▸ hextant)

instance : Bridge.Enrolling Bridge.OwesMore where
  lifecycle _ _ _ := ⟨rfl, fun _ _ hhook _ ↦ hhook⟩
  deferred bridge thread hook := by
    have hbooks : bridge.Rebooks thread (bridge.alive · ++ [hook]) _ := .rehook
    refine ⟨rfl, fun caller owed howed hextant ↦ ?_⟩
    have hpending := hbooks.pending caller
    change owed ∈ ((bridge.rehook thread (bridge.alive · ++ [hook])).thread caller).pending
    rw [hpending]
    split
    · exact List.mem_append_left _ (List.mem_filter.2 ⟨howed, decide_eq_true hextant⟩)
    · exact howed
  drawn _ := ⟨rfl, fun _ _ hhook _ ↦ hhook⟩
  unhooked _ := ⟨rfl, fun _ _ hhook _ ↦ hhook⟩

/-! ## What activities leave owed -/

/-- What a thread owed to lifecycles that still exist is still owed, unless it has asked to leave.
Whether more is owed is left open. -/
def LeavesOwed (left : Option (LifecycleId × Registration)) (thread : Nat) (before after : Bridge) :
    Prop :=
  (∀ hook ∈ withdrawn left (before.thread thread).pending, hook.lifecycle ∉ before.gone →
    hook ∈ (after.thread thread).pending) ∧
    ∀ hook ∈ (after.thread thread).pending, hook ∈ (before.thread thread).pending →
      hook ∈ withdrawn left (before.thread thread).pending

theorem Forfeits.leavesOwed {left : Option (LifecycleId × Registration)} {thread : Nat}
    {before after : Bridge} (hforfeits : Forfeits left thread before after) :
    LeavesOwed left thread before after := by
  have hpending := hforfeits thread
  rw [if_pos rfl] at hpending
  unfold LeavesOwed
  rw [hpending]
  exact ⟨fun _ hmem _ ↦ hmem, fun _ hmem _ ↦ hmem⟩

theorem Program.Writes.leavesOwed {α : Type} {program : Program α}
    (hprogram : program.Writes Bridge.OwesMore) :
    Ensures Exchange.KeepsPresence thread program first fun _ _ last ↦
      LeavesOwed none thread.id first.bridge last.bridge := by
  intro exchanges result last hrun hlaw
  have hmore : first.bridge.OwesMore last.bridge := by
    refine hrun.writes .refl (fun _ _ _ ↦ .trans) (hprogram _) fun exchange hmem ↦ ?_
    rw [(hlaw exchange hmem).bridge]
    exact .refl _
  exact ⟨hmore.pending thread.id, fun _ _ hmem ↦ hmem⟩

/-- An activity of a thread that goes on takes back what it asks to leave, and nothing else. -/
theorem ensures_activity_leavesOwed (haccurate : Accurate first) {activity : Activity}
    (hattends : activity.Attends first.bridge) (hstays : activity.isExit = false)
    (hjoins : activity.joins? = none) :
    Ensures Exchange.KeepsPresence thread activity.program first fun _ _ last ↦
      LeavesOwed (activity.leaves? first.bridge) thread.id first.bridge last.bridge := by
  cases activity with
  | create id version options => exact ensures_attempts (id.writes_create _ _).leavesOwed
  | adopt id vm version => exact ensures_attempts (id.writes_adopt _ _).leavesOwed
  | teardown id => exact ensures_attempts id.writes_teardown.leavesOwed
  | reset id => exact ensures_completes id.writes_reset.leavesOwed
  | cleanup id => exact ensures_completes id.writes_cleanup.leavesOwed
  | enter id config => exact ensures_attempts (id.writes_enter config).leavesOwed
  | signalShutdown => exact ensures_completes writes_signalShutdown.leavesOwed
  | detach id =>
    apply ensures_completes
    exact (ensures_detach_forfeits id).weaken fun _ _ _ ↦ Forfeits.leavesOwed
  | leave id config env attachedHere =>
    apply ensures_completes
    exact (ensures_leave_forfeits id config env attachedHere).weaken fun _ _ _ ↦ Forfeits.leavesOwed
  | release reference =>
    apply ensures_completes
    exact (ensures_release_forfeits haccurate reference).weaken fun _ _ _ ↦ Forfeits.leavesOwed
  | drop reference =>
    have hdrop : reference.drop = (fun _ ↦ ()) <$> reference.release := rfl
    apply ensures_completes
    rw [hdrop, Program.ensures_map]
    exact (ensures_release_forfeits haccurate reference).weaken fun _ _ _ ↦ Forfeits.leavesOwed
  | attach id config => cases hjoins
  | exit heldOutside => cases hstays
  | _ => exact absurd hattends id

/-! ## Who is still to be detached -/

/-- The event attaches the thread for good under a registration that the thread has not created. -/
structure Event.Admits (event : Event) (thread : Nat) (id : LifecycleId)
    (registration : Registration) : Prop where
  notCreator : thread ≠ registration.creator
  thread : event.thread.id = thread
  joins : event.activity.joins? = some id
  registered : (event.first.bridge.lifecycle id).registration = some registration
  attaches : ∃ exchange ∈ event.exchanges, exchange.Attaches registration.vm

/-- In the event the thread does not ask to leave. -/
def Event.KeepsIn (event : Event) (thread : Nat) (id : LifecycleId) (registration : Registration) :
    Prop :=
  event.thread.id = thread → event.activity.leaves? event.first.bridge ≠ some (id, registration)

/-- The thread was attached for good under a registration that it has not created, and has not asked
to leave since. -/
def Remains (log : List Event) (thread : Nat) (id : LifecycleId) (registration : Registration) :
    Prop :=
  ∃ earlier event later, log = earlier ++ event :: later ∧
    event.Admits thread id registration ∧ ∀ other ∈ later, other.KeepsIn thread id registration

/-- The last event attached the thread, or the thread does not ask to leave in it. -/
theorem remains_snoc {log : List Event} {event : Event} {thread : Nat} {id : LifecycleId}
    {registration : Registration} :
    Remains (log ++ [event]) thread id registration ↔
      Remains log thread id registration ∧ event.KeepsIn thread id registration ∨
        event.Admits thread id registration := by
  constructor
  · rintro ⟨earlier, admitted, later, hlog, hadmits, hkeeps⟩
    rcases List.eq_nil_or_concat later with rfl | ⟨later, last, rfl⟩
    · obtain ⟨-, hsame⟩ := List.append_inj' hlog rfl
      cases hsame
      exact .inr hadmits
    · rw [List.concat_eq_append, ← List.cons_append, ← List.append_assoc] at hlog
      obtain ⟨rfl, hsame⟩ := List.append_inj' hlog rfl
      cases hsame
      rw [List.concat_eq_append, List.forall_mem_append, List.forall_mem_singleton] at hkeeps
      exact .inl ⟨⟨earlier, admitted, later, rfl, hadmits, hkeeps.1⟩, hkeeps.2⟩
  · rintro (⟨⟨earlier, admitted, later, rfl, hadmits, hkeeps⟩, hlast⟩ | hadmits)
    · refine ⟨earlier, admitted, later ++ [event], by simp, hadmits, ?_⟩
      rw [List.forall_mem_append, List.forall_mem_singleton]
      exact ⟨hkeeps, hlast⟩
    · exact ⟨log, event, [], rfl, hadmits, fun _ hmem ↦ absurd hmem List.not_mem_nil⟩

/-- Whoever is attached for good does not ask to leave. -/
theorem Activity.leaves?_of_joins {activity : Activity} {bridge : Bridge} {id : LifecycleId}
    (hjoins : activity.joins? = some id) : activity.leaves? bridge = none := by
  cases activity with
  | attach | enter => rfl
  | _ => cases hjoins

/-- Whoever asks to leave asks for it under the registration that is there. -/
theorem Activity.registered_of_leaves {activity : Activity} {bridge : Bridge} {id : LifecycleId}
    {registration : Registration} (hleaves : activity.leaves? bridge = some (id, registration)) :
    (bridge.lifecycle id).registration = some registration := by
  cases activity with
  | detach asked =>
    obtain ⟨registration', hregistered, hsame⟩ := Option.map_eq_some_iff.1 hleaves
    cases hsame
    exact hregistered
  | leave asked config env attachedHere =>
    obtain ⟨-, hlive⟩ := Option.ite_none_right_eq_some.1 hleaves
    obtain ⟨registration', hregistered, hsame⟩ := Option.map_eq_some_iff.1 hlive
    cases hsame
    exact (Option.filter_eq_some_iff.1 hregistered).1
  | _ => cases hleaves

namespace Event

variable {event : Event} {id : LifecycleId} {registration : Registration}
  (haccurate : Accurate event.first)
  (hregistered : (event.last.bridge.lifecycle id).registration = some registration)

include haccurate hregistered

/-- What a thread owes that was attached for good in the event, or was attached before. -/
theorem owes_iff_of_joins {joined : LifecycleId} (hjoined : event.activity.joins? = some joined)
    (hjoins : Joins .lasting joined event.thread.id event.first event.exchanges event.last) :
    ⟨id, registration.generation⟩ ∈ (event.last.bridge.thread event.thread.id).pending ↔
      ⟨id, registration.generation⟩ ∈ (event.first.bridge.thread event.thread.id).pending ∧
          event.KeepsIn event.thread.id id registration ∨
        event.Admits event.thread.id id registration := by
  rw [hjoins.registered] at hregistered
  have hkeeps : event.KeepsIn event.thread.id id registration := by
    intro _
    rw [Activity.leaves?_of_joins hjoined]
    exact nofun
  rw [hjoins.owes_iff haccurate hregistered, and_iff_left hkeeps]
  refine or_congr_right ⟨?_, ?_⟩
  · rintro ⟨hcreator, rfl, hattaches⟩
    exact ⟨hcreator, rfl, hjoined, hregistered, hattaches⟩
  · rintro ⟨hcreator, -, hjoined', -, hattaches⟩
    exact ⟨hcreator, Option.some.inj (hjoined.symm.trans hjoined'), hattaches⟩

/-- What a thread owes that only asked to leave in the event, or did something else. -/
theorem owes_iff_of_leavesOwed (hjoined : event.activity.joins? = none)
    (hproceeds : Proceeds event.first.bridge event.last.bridge)
    (hfewer : (event.last.bridge.thread event.thread.id).pending.Sublist
      (event.first.bridge.thread event.thread.id).pending)
    (howed : LeavesOwed (event.activity.leaves? event.first.bridge) event.thread.id
      event.first.bridge event.last.bridge) :
    ⟨id, registration.generation⟩ ∈ (event.last.bridge.thread event.thread.id).pending ↔
      ⟨id, registration.generation⟩ ∈ (event.first.bridge.thread event.thread.id).pending ∧
          event.KeepsIn event.thread.id id registration ∨
        event.Admits event.thread.id id registration := by
  obtain ⟨hmore, hless⟩ := howed
  have hnot : ¬ event.Admits event.thread.id id registration :=
    fun hadmits ↦ nomatch hjoined.symm.trans hadmits.joins
  have hkeeps : event.KeepsIn event.thread.id id registration ↔
      event.activity.leaves? event.first.bridge ≠ some (id, registration) := imp_iff_right rfl
  have hbefore := hproceeds.registered id registration hregistered
  -- A registration with this generation is the one that is there.
  have hleft : ∀ registration', event.activity.leaves? event.first.bridge =
      some (id, registration') → registration'.generation = registration.generation →
        registration' = registration := by
    intro registration' hleaves hgeneration
    have hregistered' := Activity.registered_of_leaves hleaves
    rcases hbefore with hfirst | hlater
    · exact Option.some.inj (hregistered'.symm.trans hfirst)
    · have holder := haccurate.older id registration' hregistered'
      omega
  rw [or_iff_left hnot, hkeeps, ← mem_withdrawn hleft]
  refine ⟨fun hmem ↦ hless _ hmem (hfewer.subset hmem), fun hmem ↦ hmore _ hmem fun hgone ↦ ?_⟩
  have hdrawn := haccurate.drawn event.thread.id _ ((mem_withdrawn hleft).1 hmem).1
  rcases hbefore with hfirst | hlater
  · cases (haccurate.extant id hgone).symm.trans hfirst
  · exact absurd hdrawn (Nat.not_lt.2 hlater)

end Event

namespace AttachmentHistory

variable {log : List Event} {moment : Moment Presence} {id : LifecycleId}
  {registration : Registration}

/-- Nothing has been done yet under a registration that is still to come. -/
theorem not_remains_of_le {thread : Nat} (hhistory : AttachmentHistory log moment)
    (hlater : moment.bridge.nextGeneration ≤ registration.generation) :
    ¬ Remains log thread id registration := by
  rintro ⟨earlier, event, later, rfl, hadmits, -⟩
  obtain ⟨hbefore, -, -, -, -, hproceeds⟩ := hhistory.split
  have holder := hbefore.accurate.older id registration hadmits.registered
  have hnext := hproceeds.nextGeneration
  omega

/-- As long as a thread has not exited, there is a hook for a registration exactly if the thread was
attached under it for good and has not asked to leave since.  Whether it was let go does not
matter. -/
theorem owes_iff_remains {thread : Nat} (hhistory : AttachmentHistory log moment)
    (hthere : ∀ event ∈ log, event.activity.isExit = true → event.thread.id ≠ thread)
    (hregistered : (moment.bridge.lifecycle id).registration = some registration) :
    ⟨id, registration.generation⟩ ∈ (moment.bridge.thread thread).pending ↔
      Remains log thread id registration := by
  induction hhistory with
  | start => cases hregistered
  | aside _ haside ih =>
    rw [haside.lifecycle] at hregistered
    rw [haside.pending]
    exact ih hthere hregistered
  | @cease log first ceased hbefore ih =>
    have hforgotten : ((first.bridge.forget ceased).lifecycle id).registration =
        some registration := hregistered
    have hfirst : (first.bridge.lifecycle id).registration = some registration := by
      rwa [lifecycle_forget hforgotten] at hforgotten
    exact ih hthere hfirst
  | @act log first last caller activity exchanges succeeded hbefore hexiting _ hattends hrun hlaw
      ih =>
    rw [List.forall_mem_append, List.forall_mem_singleton] at hthere
    have haccurate := hbefore.accurate
    have hcomes := ensures_activity_comes haccurate hattends _ _ _ hrun hlaw
    have hfirst : ⟨id, registration.generation⟩ ∈ (first.bridge.thread thread).pending ↔
        Remains log thread id registration := by
      rcases hcomes.proceeds.registered id registration hregistered with hfirst | hlater
      · exact ih hthere.1 hfirst
      · refine iff_of_false (fun howes ↦ ?_) (hbefore.not_remains_of_le hlater)
        have hdrawn := haccurate.drawn thread _ howes
        dsimp only at hdrawn
        omega
    rw [remains_snoc, ← hfirst]
    dsimp only at hthere
    by_cases hcaller : caller.id = thread
    · subst hcaller
      have hstays : activity.isExit = false := by
        by_contra hexit
        exact hthere.2 (Bool.eq_true_of_not_eq_false hexit) rfl
      let event : Event := ⟨caller, activity, first, exchanges, last⟩
      rcases hcomes.joins_or_moves hstays with ⟨joined, hjoined, hjoins⟩ | ⟨hjoined, hmoves⟩
      · rw [NativeThread.manner_eq_lasting (Bool.eq_false_of_not_eq_true
          (hexiting.not.2 (not_exited_iff.2 hthere.1)))] at hjoins
        exact @Event.owes_iff_of_joins _ event _ _ haccurate hregistered _ hjoined hjoins
      · exact @Event.owes_iff_of_leavesOwed _ event _ _ haccurate hregistered hjoined
          hcomes.proceeds (hmoves.pending_sublist caller.id)
          (ensures_activity_leavesOwed haccurate hattends hstays hjoined _ _ _ hrun hlaw)
    · rw [hcomes.pending_of_ne (Ne.symm hcaller)]
      have hkeeps : Event.KeepsIn ⟨caller, activity, first, exchanges, last⟩ thread id
          registration := fun hsame ↦ absurd hsame hcaller
      have hnot : ¬ Event.Admits ⟨caller, activity, first, exchanges, last⟩ thread id
          registration := fun hadmits ↦ hcaller hadmits.thread
      rw [and_iff_left hkeeps, or_iff_left hnot]

end AttachmentHistory

/-- What becomes of threads that machines do not let go.  Whoever asks to leave and is refused stays
where he is and counts as before, but is not detached at his exit any more, unless he is attached
again: what he owes are the registrations under which he was attached for good and has not asked to
leave since. -/
structure RefusedDetach (log : List Event) (moment : Moment Presence) : Prop where
  detach : ∀ (thread : NativeThread) (id : LifecycleId),
    Ensures Exchange.Resists thread id.detach moment fun _ _ last ↦
      Stranded ((Activity.detach id).leaves? moment.bridge) thread.id moment last
  leave : ∀ (thread : NativeThread) (id : LifecycleId) (config : AttachConfig) (env : Env)
    (attachedHere : Bool),
    Ensures Exchange.Resists thread (id.leave config env attachedHere) moment fun _ _ last ↦
      Stranded ((Activity.leave id config env attachedHere).leaves? moment.bridge) thread.id moment
        last
  release : ∀ (thread : NativeThread) (reference : GlobalReference),
    Ensures Exchange.Resists thread reference.release moment fun _ _ last ↦
      Lingers reference.lifecycle thread.id moment last
  owes : ∀ thread, (∀ event ∈ log, event.activity.isExit = true → event.thread.id ≠ thread) →
    ∀ id registration, (moment.bridge.lifecycle id).registration = some registration →
      (⟨id, registration.generation⟩ ∈ (moment.bridge.thread thread).pending ↔
        Remains log thread id registration)
  /-- Only at the exit itself the machines must be obliging. -/
  exits : ∀ earlier event later heldOutside, log = earlier ++ event :: later →
    event.activity = .exit heldOutside → AllOblige event.exchanges →
      RunsHooks heldOutside event.thread (Remains earlier event.thread.id) event.first
        event.exchanges event.last

/-- However the process got here, a thread that is not let go keeps its place in the count, and has
lost its hook. -/
theorem AttachmentHistory.refused_detach {log : List Event} {moment : Moment Presence}
    (hhistory : AttachmentHistory log moment) : RefusedDetach log moment where
  detach thread id :=
    @ensures_detach_of _ thread moment _ (fun left last ↦ Stranded left thread.id moment last) id
      (.refl thread.id moment) (ensures_detachFrom_refused id)
  leave thread id config env attachedHere :=
    @ensures_leave_of _ thread moment _ (fun left last ↦ Stranded left thread.id moment last) id
      config env attachedHere (.refl thread.id moment) (ensures_detachFrom_refused id)
  release thread reference := ensures_release_refused hhistory.accurate reference
  owes _ hthere _ _ := hhistory.owes_iff_remains hthere
  exits := by
    rintro earlier event later heldOutside rfl hexit hoblige
    obtain ⟨hbefore, honce, hattends, ⟨succeeded, hrun⟩, hlaw, -⟩ := hhistory.split
    have hcomes := ensures_activity_comes hbefore.accurate hattends _ _ _ hrun hlaw
    rw [hexit] at hcomes
    refine (Departs.runsHooks hcomes hbefore.accurate hoblige).congr ?_
    intro id registration hregistered
    exact hbefore.owes_iff_remains (not_exited_iff.1 (honce (by rw [hexit]; rfl))) hregistered

end

/-! ## A thread that stays attached for ever -/

namespace Sample

section

variable [Host]

/-- A machine that attaches whoever asks for it and lets nobody go. -/
def resisting (caller : Nat) : Program.Machine Presence
  | .detach _, before => (.error .unknown, before)
  | request, before => residing caller request before

theorem resists_resisting (thread : NativeThread) (request : Call) (before : Moment Presence) :
    Exchange.Resists ⟨thread, request, (resisting thread.id request before).1, before,
      (resisting thread.id request before).2⟩ := by
  cases request with
  | detach vm => exact ⟨⟨rfl, nofun, fun _ _ ↦ rfl⟩, .unknown, rfl⟩
  | getEnv | attach | create | destroy | list | env =>
    exact ⟨keepsPresence_residing thread _ before, trivial⟩

/-- The second thread, which is attached for good, asks to leave. -/
def refusal : Event := event resisting worker (.detach .shared) manned.now

/-- It exits, and the machine would let it go now. -/
def departure : Event := event residing worker (.exit fun _ ↦ true) refusal.last

end

theorem history_refusal :
    let _ := host
    AttachmentHistory (manned.log ++ [refusal]) refusal.last := by
  intro _
  exact history_event_of_stays resisting history_manned worker (.detach .shared) rfl
    (by decide +kernel) trivial fun request before ↦ (resists_resisting worker request before).keeps

theorem history_departure :
    let _ := host
    AttachmentHistory (manned.log ++ [refusal] ++ [departure]) departure.last := by
  intro _
  exact history_event_of_stays residing history_refusal worker (.exit fun _ ↦ true) rfl
    (by decide +kernel) trivial (keepsPresence_residing worker)

end Sample

/-- A thread is attached and counted, but owes nothing, since it has asked to leave. -/
theorem AttachmentHistory.refused_detach_owes_nothing :
    let _ := Sample.host
    ∃ (log : List Event) (moment : Moment Presence), AttachmentHistory log moment ∧
      RefusedDetach log moment ∧ (moment.bridge.lifecycle .shared).attached = 2 ∧
      (moment.outside Sample.vm Sample.worker.id).isSome ∧
      (moment.bridge.thread Sample.worker.id).pending = [] := by
  intro _
  have hhistory : AttachmentHistory (Sample.manned.log ++ [Sample.refusal]) Sample.refusal.last :=
    Sample.history_refusal
  have hattached : (Sample.refusal.last.bridge.lifecycle .shared).attached = 2 := by
    decide +kernel
  have hpresent : (Sample.refusal.last.outside Sample.vm Sample.worker.id).isSome := by
    decide +kernel
  have hnothing : (Sample.refusal.last.bridge.thread Sample.worker.id).pending = [] := by
    decide +kernel
  exact ⟨_, _, hhistory, hhistory.refused_detach, hattached, hpresent, hnothing⟩

/-- A thread that is attached for good asks to leave and is refused.  This takes away its hook, and
when it exits, no machine is asked to detach it, although it is attached and would be let go. -/
theorem AttachmentHistory.refused_detach_loses_hook :
    let _ := Sample.host
    ∃ (earlier : List Event) (refused exit : Event),
      AttachmentHistory (earlier ++ [refused] ++ [exit]) exit.last ∧
      refused.activity = .detach .shared ∧ (∀ exchange ∈ refused.exchanges, exchange.Resists) ∧
      (refused.first.bridge.thread refused.thread.id).pending = [⟨.shared, 1⟩] ∧
      (refused.last.bridge.thread refused.thread.id).pending = [] ∧
      exit.activity.isExit = true ∧ exit.thread = refused.thread ∧ AllOblige exit.exchanges ∧
      detachRequests exit.exchanges = [] ∧
      (exit.last.outside Sample.vm exit.thread.id).isSome := by
  intro _
  have hresists : ∀ exchange ∈ Sample.refusal.exchanges, exchange.Resists :=
    Sample.lawful_event _ _ _ _ (Sample.resists_resisting Sample.worker)
  have hoblige : AllOblige Sample.departure.exchanges :=
    Sample.lawful_event _ _ _ _ (Sample.obliging_residing Sample.worker)
  have howed : (Sample.manned.now.bridge.thread Sample.worker.id).pending = [⟨.shared, 1⟩] := by
    decide +kernel
  have hnothing : (Sample.refusal.last.bridge.thread Sample.worker.id).pending = [] := by
    decide +kernel
  have hrequests : detachRequests Sample.departure.exchanges = [] := by decide +kernel
  have hpresent : (Sample.departure.last.outside Sample.vm Sample.departure.thread.id).isSome := by
    decide +kernel
  exact ⟨Sample.manned.log, Sample.refusal, Sample.departure, Sample.history_departure, rfl,
    hresists, howed, hnothing, rfl, rfl, hoblige, hrequests, hpresent⟩

end JavaInterop
