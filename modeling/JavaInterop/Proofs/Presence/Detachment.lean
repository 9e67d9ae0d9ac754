import JavaInterop.Proofs.Presence.History

/-!
# Who is detached at the exit of a thread

A thread that is attached for good, by a registration that it has not created, is detached when it
exits: by its hooks, once, and only if the lifecycle still exists and the registration is still
there.  The hooks detach it from no other machine, neither from one that the thread created or
adopted, nor from one at which it was for a while only.

This follows from what a thread owes at any time: as long as it has not exited, there is a hook for
a registration exactly if the thread was attached under it for good and has not been detached since.
Once its hooks have run none are left with it, so what is attached in its last moments after that is
not detached any more.  It is assumed that no machine refuses to detach a thread, and that every
machine tells a thread that is attached so; a hook is lost otherwise.

The lifecycle has to exist when the hooks run.  If nothing but the class loader of the thread refers
to it, and the loader is given up before, then it is gone by then.  At the end there are two threads
that stay attached, one for this reason and one that is attached after its hooks have run.
-/

namespace JavaInterop

section

variable [Host]

open Program (Ensures)

/-- The thread was attached for good under a registration that it has not created, and has not been
detached since. -/
def Lasts (log : List Event) (thread : Nat) (id : LifecycleId) (registration : Registration) :
    Prop :=
  thread ≠ registration.creator ∧ ∃ earlier event later, log = earlier ++ event :: later ∧
    event.thread.id = thread ∧ event.activity.joins? = some id ∧
    (event.first.bridge.lifecycle id).registration = some registration ∧
    (∃ exchange ∈ event.exchanges, exchange.Attaches registration.vm) ∧
    ∀ other ∈ later, other.thread.id = thread →
      ∀ exchange ∈ other.exchanges, ¬ exchange.Detaches registration.vm

/-- The last event attached the thread, or it left the thread attached. -/
theorem lasts_snoc {log : List Event} {event : Event} {thread : Nat} {id : LifecycleId}
    {registration : Registration} :
    Lasts (log ++ [event]) thread id registration ↔
      Lasts log thread id registration ∧ (event.thread.id = thread →
        ∀ exchange ∈ event.exchanges, ¬ exchange.Detaches registration.vm) ∨
      thread ≠ registration.creator ∧ event.thread.id = thread ∧
        event.activity.joins? = some id ∧
        (event.first.bridge.lifecycle id).registration = some registration ∧
        ∃ exchange ∈ event.exchanges, exchange.Attaches registration.vm := by
  constructor
  · rintro ⟨hcreator, earlier, joined, later, hlog, hthread, hjoins, hregistered, hattaches,
      hstays⟩
    rcases List.eq_nil_or_concat later with rfl | ⟨later, last, rfl⟩
    · obtain ⟨-, hsame⟩ := List.append_inj' hlog rfl
      cases hsame
      exact .inr ⟨hcreator, hthread, hjoins, hregistered, hattaches⟩
    · rw [List.concat_eq_append, ← List.cons_append, ← List.append_assoc] at hlog
      obtain ⟨rfl, hsame⟩ := List.append_inj' hlog rfl
      cases hsame
      rw [List.concat_eq_append, List.forall_mem_append, List.forall_mem_singleton] at hstays
      exact .inl ⟨⟨hcreator, earlier, joined, later, rfl, hthread, hjoins, hregistered, hattaches,
        hstays.1⟩, hstays.2⟩
  · rintro (⟨⟨hcreator, earlier, joined, later, rfl, hthread, hjoins, hregistered, hattaches,
      hstays⟩, hlast⟩ | ⟨hcreator, hthread, hjoins, hregistered, hattaches⟩)
    · refine ⟨hcreator, earlier, joined, later ++ [event], by simp, hthread, hjoins, hregistered,
        hattaches, ?_⟩
      rw [List.forall_mem_append, List.forall_mem_singleton]
      exact ⟨hstays, hlast⟩
    · exact ⟨hcreator, log, event, [], rfl, hthread, hjoins, hregistered, hattaches,
        fun _ hmem ↦ absurd hmem List.not_mem_nil⟩

/-- What a thread owes after it has asked for an environment. -/
theorem Joins.owes_iff {id other : LifecycleId} {thread : Nat} {first last : Moment Presence}
    {exchanges : List (Exchange Presence)} {registration : Registration}
    (hjoins : Joins .lasting id thread first exchanges last) (haccurate : Accurate first)
    (hregistered : (first.bridge.lifecycle other).registration = some registration) :
    ⟨other, registration.generation⟩ ∈ (last.bridge.thread thread).pending ↔
      ⟨other, registration.generation⟩ ∈ (first.bridge.thread thread).pending ∨
        thread ≠ registration.creator ∧ id = other ∧
          ∃ exchange ∈ exchanges, exchange.Attaches registration.vm := by
  rcases hjoins with ⟨rfl, hquiet⟩ | ⟨registration', hregistered', -, -, hattaches, bridge,
    hbridge, rfl⟩
  · refine (or_iff_left ?_).symm
    rintro ⟨-, -, exchange, hmem, hattaches⟩
    exact (hquiet exchange hmem).1.attaches _ hattaches
  · change _ ∈ (bridge.thread thread).pending ↔ _
    have hextant : other ∉ first.bridge.gone := by
      intro hgone
      cases (haccurate.extant other hgone).symm.trans hregistered
    rw [hbridge.self, Manner.mem_owing_lasting hextant]
    apply or_congr_right
    by_cases hsame : id = other
    · subst hsame
      obtain rfl := Option.some.inj (hregistered.symm.trans hregistered')
      exact and_congr_right fun _ ↦ iff_of_true rfl ⟨rfl, hattaches⟩
    · apply iff_of_false
      · exact fun hjoined ↦ hsame (congrArg PendingDetach.lifecycle hjoined.2).symm
      · exact fun hjoined ↦ hsame hjoined.2.1

theorem Joins.stays {id : LifecycleId} {manner : Manner} {thread : Nat}
    {first last : Moment Presence} {exchanges : List (Exchange Presence)}
    (hjoins : Joins manner id thread first exchanges last) : AllStay first exchanges := by
  rcases hjoins with ⟨-, hquiet⟩ | ⟨-, -, hstays, -⟩
  · exact hquiet.allStay
  · exact hstays

theorem Joins.registered {id : LifecycleId} {manner : Manner} {thread : Nat}
    {first last : Moment Presence} {exchanges : List (Exchange Presence)}
    (hjoins : Joins manner id thread first exchanges last) (other : LifecycleId) :
    (last.bridge.lifecycle other).registration = (first.bridge.lifecycle other).registration := by
  rcases hjoins with ⟨rfl, -⟩ | ⟨_, -, -, -, -, bridge, hbridge, rfl⟩
  · rfl
  · exact (registration_recount bridge id other _).trans (congrArg _ (hbridge.lifecycle other))

/-! ## What a thread owes -/

namespace AttachmentHistory

variable {log : List Event} {moment : Moment Presence} {thread : Nat} {id : LifecycleId}
  {registration : Registration}

/-- Nothing has been done yet under a registration that is still to come. -/
theorem owes_iff_of_le (hhistory : AttachmentHistory log moment)
    (hlater : moment.bridge.nextGeneration ≤ registration.generation) :
    ⟨id, registration.generation⟩ ∈ (moment.bridge.thread thread).pending ↔
      Lasts log thread id registration := by
  apply iff_of_false
  · intro howes
    have hdrawn := hhistory.accurate.drawn thread _ howes
    dsimp only at hdrawn
    omega
  · rintro ⟨-, earlier, event, later, rfl, -, -, hregistered, -⟩
    obtain ⟨hbefore, -, -, -, -, hproceeds⟩ := hhistory.split
    have holder := hbefore.accurate.older id registration hregistered
    have hnext := hproceeds.nextGeneration
    omega

/-- As long as a thread has not exited, there is a hook for a registration exactly if the thread was
attached under it for good and has not been detached since. -/
theorem owes_iff (hhistory : AttachmentHistory log moment)
    (hoblige : ∀ event ∈ log, AllOblige event.exchanges)
    (hthere : ∀ event ∈ log, event.activity.isExit = true → event.thread.id ≠ thread)
    (hregistered : (moment.bridge.lifecycle id).registration = some registration) :
    ⟨id, registration.generation⟩ ∈ (moment.bridge.thread thread).pending ↔
      Lasts log thread id registration := by
  induction hhistory with
  | start => cases hregistered
  | aside _ haside ih =>
    rw [haside.lifecycle] at hregistered
    rw [haside.pending]
    exact ih hoblige hthere hregistered
  | @cease log first ceased hbefore ih =>
    have hforgotten : ((first.bridge.forget ceased).lifecycle id).registration =
        some registration := hregistered
    have hfirst : (first.bridge.lifecycle id).registration = some registration := by
      rwa [lifecycle_forget hforgotten] at hforgotten
    exact ih hoblige hthere hfirst
  | @act log first last caller activity exchanges succeeded hbefore hexiting _ hattends hrun hlaw
      ih =>
    rw [List.forall_mem_append, List.forall_mem_singleton] at hoblige hthere
    have haccurate := hbefore.accurate
    have hcomes := ensures_activity_comes haccurate hattends _ _ _ hrun hlaw
    have hfirst : ⟨id, registration.generation⟩ ∈ (first.bridge.thread thread).pending ↔
        Lasts log thread id registration := by
      rcases hcomes.proceeds.registered id registration hregistered with hfirst | hlater
      · exact ih hoblige.1 hthere.1 hfirst
      · exact hbefore.owes_iff_of_le hlater
    rw [lasts_snoc, ← hfirst]
    dsimp only at hthere ⊢
    by_cases hcaller : caller.id = thread
    · subst hcaller
      have hstays : activity.isExit = false := by
        by_contra hexit
        exact hthere.2 (Bool.eq_true_of_not_eq_false hexit) rfl
      rcases hcomes.joins_or_moves hstays with ⟨joined, hjoined, hjoins⟩ | ⟨hjoined, hmoves⟩
      · rw [NativeThread.manner_eq_lasting (Bool.eq_false_of_not_eq_true
          (hexiting.not.2 (not_exited_iff.2 hthere.1)))] at hjoins
        rw [hjoins.registered] at hregistered
        have hattached : ∀ exchange ∈ exchanges, ¬ exchange.Detaches registration.vm :=
          fun exchange hmem ↦ (hjoins.stays exchange hmem).1 _
        rw [hjoins.owes_iff haccurate hregistered, hjoined, and_iff_left fun _ ↦ hattached]
        simp [hregistered]
      · rw [hmoves.owes_iff haccurate hoblige.2 hregistered, hjoined]
        simp
    · rw [hcomes.pending_of_ne (Ne.symm hcaller)]
      simp [hcaller]

/-- Once a thread has run its hooks, no more are left with it. -/
theorem pending_of_exited (hhistory : AttachmentHistory log moment) (hexited : Exited log thread) :
    (moment.bridge.thread thread).pending = [] := by
  induction hhistory with
  | start =>
    obtain ⟨_, hmem, -⟩ := hexited
    cases hmem
  | aside _ haside ih => exact (haside.pending thread).trans (ih hexited)
  | cease _ _ ih => exact ih hexited
  | @act log first last caller activity exchanges succeeded hbefore hexiting _ hattends hrun hlaw
      ih =>
    have hcomes := ensures_activity_comes hbefore.accurate hattends _ _ _ hrun hlaw
    rw [exited_snoc] at hexited
    rcases hexited with hearlier | ⟨hexit, rfl⟩
    · by_cases hcaller : caller.id = thread
      · subst hcaller
        have hkept := hcomes.pending_of_exiting (hexiting.2 hearlier)
        rw [ih hearlier] at hkept
        exact List.sublist_nil.1 hkept
      · rw [hcomes.pending_of_ne (Ne.symm hcaller)]
        exact ih hearlier
    · obtain ⟨heldOutside, hdeparts⟩ := hcomes.departs hexit
      exact hdeparts.pending_self

theorem inOrder {event : Event} (hhistory : AttachmentHistory log moment) (hmem : event ∈ log) :
    ∀ exchange ∈ event.exchanges, HooksInOrder exchange.before := by
  obtain ⟨earlier, later, rfl⟩ := List.append_of_mem hmem
  obtain ⟨hbefore, -, hattends, ⟨succeeded, hrun⟩, hlaw, -⟩ := hhistory.split
  have haccurate := hbefore.accurate
  exact (ensures_activity_comes haccurate hattends _ _ _ hrun hlaw).inOrder haccurate

/-- An explicit detach through one lifecycle leaves the hooks of all others alone. -/
theorem spares {event : Event} (hhistory : AttachmentHistory log moment) (hmem : event ∈ log)
    (hdetach : event.activity = .detach id) (caller : Nat) (other : LifecycleId)
    (generation : Nat) (hother : other ≠ id) :
    ⟨other, generation⟩ ∈ (event.last.bridge.thread caller).pending ↔
      ⟨other, generation⟩ ∈ (event.first.bridge.thread caller).pending := by
  obtain ⟨earlier, later, rfl⟩ := List.append_of_mem hmem
  obtain ⟨-, -, -, ⟨succeeded, hrun⟩, hlaw, -⟩ := hhistory.split
  rw [hdetach] at hrun
  have hquits : Quits .brief id event.thread.id event.first event.exchanges event.last :=
    ensures_completes (ensures_detach_quits .brief id) _ _ _ hrun hlaw
  rcases hquits with ⟨hsame, -⟩ | ⟨registration, -, hwithdraws⟩
  · rw [hsame]
  · exact hwithdraws.spares caller other generation hother

end AttachmentHistory

/-! ## Exits -/

/-- Threads are detached at their exit where they have to be, and nowhere else. -/
structure ExitDetaches (log : List Event) (moment : Moment Presence) : Prop where
  inOrder : HooksInOrder moment
  /-- Calls find the hooks in order, too. -/
  meanwhile : ∀ event ∈ log, ∀ exchange ∈ event.exchanges, HooksInOrder exchange.before
  owes : ∀ thread, (∀ event ∈ log, event.activity.isExit = true → event.thread.id ≠ thread) →
    ∀ id registration, (moment.bridge.lifecycle id).registration = some registration →
      (⟨id, registration.generation⟩ ∈ (moment.bridge.thread thread).pending ↔
        Lasts log thread id registration)
  /-- No hooks are left with a thread that has run its hooks, although it may still be attached. -/
  exited : ∀ thread, Exited log thread → (moment.bridge.thread thread).pending = []
  spares : ∀ event ∈ log, ∀ id, event.activity = .detach id →
    ∀ thread other generation, other ≠ id →
      (⟨other, generation⟩ ∈ (event.last.bridge.thread thread).pending ↔
        ⟨other, generation⟩ ∈ (event.first.bridge.thread thread).pending)
  exits : ∀ earlier event later heldOutside, log = earlier ++ event :: later →
    event.activity = .exit heldOutside →
      RunsHooks heldOutside event.thread (Lasts earlier event.thread.id) event.first event.exchanges
        event.last

/-- However threads attach and detach themselves and whatever becomes of the machines: a thread that
exits is detached by its hooks wherever it was attached for good, once and from nowhere else, if
machines let threads go and tell them the truth. -/
theorem AttachmentHistory.exit_detaches {log : List Event} {moment : Moment Presence}
    (hhistory : AttachmentHistory log moment) (hoblige : ∀ event ∈ log, AllOblige event.exchanges) :
    ExitDetaches log moment where
  inOrder := hhistory.accurate.inOrder (.refl moment)
  meanwhile event hmem := hhistory.inOrder hmem
  owes _ hthere _ _ := hhistory.owes_iff hoblige hthere
  exited _ := hhistory.pending_of_exited
  spares _ hmem _ hdetach thread other generation hother :=
    hhistory.spares hmem hdetach thread other generation hother
  exits := by
    rintro earlier event later heldOutside rfl hexit
    obtain ⟨hbefore, honce, hattends, ⟨succeeded, hrun⟩, hlaw, -⟩ := hhistory.split
    rw [List.forall_mem_append, List.forall_mem_cons] at hoblige
    have hcomes := ensures_activity_comes hbefore.accurate hattends _ _ _ hrun hlaw
    rw [hexit] at hcomes
    refine (Departs.runsHooks hcomes hbefore.accurate hoblige.2.1).congr ?_
    intro id registration hregistered
    exact hbefore.owes_iff hoblige.1 (not_exited_iff.1 (honce (by rw [hexit]; rfl))) hregistered

end

/-! ## A thread that is detached at its exit -/

namespace Sample

/-- The second thread exits. -/
def deserted [Host] : Scene := manned.act worker (.exit fun _ ↦ true)

theorem history_deserted :
    let _ := host
    AttachmentHistory deserted.log deserted.now := by
  intro _
  exact Scene.history_act history_manned worker (.exit fun _ ↦ true) rfl
    (by decide +kernel) trivial

theorem Scene.allOblige_act [Host] {scene : Scene}
    (hscene : ∀ event ∈ scene.log, AllOblige event.exchanges) (thread : NativeThread)
    (activity : Activity) :
    ∀ event ∈ (scene.act thread activity).log, AllOblige event.exchanges := by
  refine List.forall_mem_append.2 ⟨hscene, List.forall_mem_singleton.2 ?_⟩
  exact lawful_event residing thread activity scene.now (obliging_residing thread)

theorem allOblige_manned :
    let _ := host
    ∀ event ∈ manned.log, AllOblige event.exchanges := by
  intro _
  have hempty : ∀ event ∈ empty.log, AllOblige event.exchanges :=
    fun _ hmem ↦ absurd hmem List.not_mem_nil
  exact Scene.allOblige_act (Scene.allOblige_act hempty _ _) _ _

end Sample

/-- A thread is attached to a machine that another one has adopted.  It is detached once, by its
exit. -/
theorem AttachmentHistory.exit_detaches_deserted :
    let _ := Sample.host
    ∃ (log : List Event) (moment : Moment Presence), AttachmentHistory log moment ∧
      (∀ event ∈ log, AllOblige event.exchanges) ∧ ExitDetaches log moment ∧
      (log.getLast?.map fun event ↦ event.activity.isExit) = some true ∧
      (log.flatMap fun event ↦ detachRequests event.exchanges) = [Sample.vm] := by
  intro _
  have hhistory : AttachmentHistory Sample.deserted.log Sample.deserted.now :=
    Sample.history_deserted
  have hoblige : ∀ event ∈ Sample.deserted.log, AllOblige event.exchanges :=
    Sample.Scene.allOblige_act Sample.allOblige_manned _ _
  have hexit : (Sample.deserted.log.getLast?.map fun event ↦ event.activity.isExit) =
      some true := by decide +kernel
  have hrequests : (Sample.deserted.log.flatMap fun event ↦ detachRequests event.exchanges) =
      [Sample.vm] := by decide +kernel
  exact ⟨_, _, hhistory, hoblige, hhistory.exit_detaches hoblige, hexit, hrequests⟩

/-! ## Threads that stay attached -/

namespace Sample

section

variable [Host]

/-- The registration of the first thread, under which the second one is attached. -/
def adoption : Registration := ⟨vm, .v1_8, thread.id, false, 1⟩

/-- The second thread has set a class loader after it was attached, so that the loader is the newer
of its slots. -/
def withLoader : Moment Presence :=
  ⟨manned.now.bridge.setThread worker.id
    { (manned.now.bridge.thread worker.id).touch .classLoader with
      loader := some ⟨some ⟨vm, 11⟩, .shared, adoption.generation⟩ }, manned.now.outside⟩

/-- It exits, and nothing outside the bridge refers to the lifecycle. -/
def exitAsLastHolder : Event := event residing worker (.exit fun _ ↦ false) withLoader

/-- The second thread, whose hooks have run. -/
def exitingWorker : NativeThread := { worker with isExiting := true }

/-- It is attached once more while the rest of it is taken down. -/
def attachAfterHooks : Event := event residing exitingWorker (.attach .shared { }) deserted.now

end

theorem history_withLoader :
    let _ := host
    AttachmentHistory manned.log withLoader := by
  intro _
  exact .aside history_manned (aside_setLoader manned.now worker.id _)

theorem history_exitAsLastHolder :
    let _ := host
    AttachmentHistory (manned.log ++ [exitAsLastHolder]) exitAsLastHolder.last := by
  intro _
  exact history_event_of_stays residing history_withLoader worker (.exit fun _ ↦ false) rfl
    (by decide +kernel) trivial (keepsPresence_residing worker)

theorem exited_deserted :
    let _ := host
    Exited deserted.log worker.id := by
  intro _
  exact exited_snoc.2 (.inr ⟨rfl, rfl⟩)

theorem history_attachAfterHooks :
    let _ := host
    AttachmentHistory (deserted.log ++ [attachAfterHooks]) attachAfterHooks.last := by
  intro _
  exact history_event residing history_deserted exitingWorker (.attach .shared { })
    (iff_of_true rfl exited_deserted) nofun trivial (keepsPresence_residing exitingWorker)

theorem lasts_withLoader :
    let _ := host
    Lasts manned.log worker.id .shared adoption := by
  intro _
  have hregistered : (withLoader.bridge.lifecycle .shared).registration = some adoption := by
    decide +kernel
  have howes : ⟨.shared, adoption.generation⟩ ∈ (withLoader.bridge.thread worker.id).pending := by
    decide +kernel
  exact (history_withLoader.owes_iff allOblige_manned (by decide +kernel) hregistered).1 howes

theorem lasts_attachAfterHooks :
    let _ := host
    Lasts (deserted.log ++ [attachAfterHooks]) exitingWorker.id .shared adoption := by
  intro _
  have hregistered : (attachAfterHooks.first.bridge.lifecycle .shared).registration =
      some adoption := by decide +kernel
  have hattaches : ∃ exchange ∈ attachAfterHooks.exchanges,
      exchange.attaching? = some adoption.vm := by decide +kernel
  simp only [← Exchange.attaches_iff] at hattaches
  exact lasts_snoc.2 (.inr ⟨by decide, rfl, rfl, hregistered, hattaches⟩)

theorem allOblige_exitAsLastHolder :
    let _ := host
    ∀ event ∈ manned.log ++ [exitAsLastHolder], AllOblige event.exchanges := by
  intro _
  refine List.forall_mem_append.2 ⟨allOblige_manned, List.forall_mem_singleton.2 ?_⟩
  exact lawful_event residing worker _ _ (obliging_residing worker)

theorem allOblige_attachAfterHooks :
    let _ := host
    ∀ event ∈ deserted.log ++ [attachAfterHooks], AllOblige event.exchanges := by
  intro _
  refine List.forall_mem_append.2 ⟨Scene.allOblige_act allOblige_manned _ _,
    List.forall_mem_singleton.2 ?_⟩
  exact lawful_event residing exitingWorker _ _ (obliging_residing exitingWorker)

end Sample

/-- A thread that is attached for good may be attached for ever.  If nothing but its class loader
refers to the lifecycle, and the loader goes before the hooks run, then they find no lifecycle any
more.  And if it is attached when its hooks have run, then nothing detaches it. -/
theorem AttachmentHistory.exit_leaves_attached :
    let _ := Sample.host
    ∃ registration : Registration,
      (∃ (earlier : List Event) (exit : Event),
        AttachmentHistory (earlier ++ [exit]) exit.last ∧
        (∀ event ∈ earlier ++ [exit], AllOblige event.exchanges) ∧
        exit.activity.isExit = true ∧
        (exit.first.bridge.lifecycle .shared).registration = some registration ∧
        exit.first.bridge.refersTo .shared = true ∧
        Lasts earlier exit.thread.id .shared registration ∧
        detachRequests exit.exchanges = [] ∧
        (exit.last.outside registration.vm exit.thread.id).isSome) ∧
      ∃ (earlier : List Event) (attach : Event),
        AttachmentHistory (earlier ++ [attach]) attach.last ∧
        (∀ event ∈ earlier ++ [attach], AllOblige event.exchanges) ∧
        Exited earlier attach.thread.id ∧
        (attach.last.bridge.lifecycle .shared).registration = some registration ∧
        Lasts (earlier ++ [attach]) attach.thread.id .shared registration ∧
        (attach.last.bridge.thread attach.thread.id).pending = [] ∧
        (attach.last.outside registration.vm attach.thread.id).isSome := by
  intro _
  have hregistered : (Sample.exitAsLastHolder.first.bridge.lifecycle .shared).registration =
      some Sample.adoption := by decide +kernel
  have hrefers : Sample.exitAsLastHolder.first.bridge.refersTo .shared = true := by decide +kernel
  have hnothing : detachRequests Sample.exitAsLastHolder.exchanges = [] := by decide +kernel
  have hstays : (Sample.exitAsLastHolder.last.outside Sample.adoption.vm
      Sample.exitAsLastHolder.thread.id).isSome := by decide +kernel
  have hregistered' : (Sample.attachAfterHooks.last.bridge.lifecycle .shared).registration =
      some Sample.adoption := by decide +kernel
  have howes : (Sample.attachAfterHooks.last.bridge.thread
      Sample.attachAfterHooks.thread.id).pending = [] := by decide +kernel
  have hstays' : (Sample.attachAfterHooks.last.outside Sample.adoption.vm
      Sample.attachAfterHooks.thread.id).isSome := by decide +kernel
  refine ⟨Sample.adoption, ⟨Sample.manned.log, Sample.exitAsLastHolder, ?_⟩,
    ⟨Sample.deserted.log, Sample.attachAfterHooks, ?_⟩⟩
  · exact ⟨Sample.history_exitAsLastHolder, Sample.allOblige_exitAsLastHolder, rfl, hregistered,
      hrefers, Sample.lasts_withLoader, hnothing, hstays⟩
  · exact ⟨Sample.history_attachAfterHooks, Sample.allOblige_attachAfterHooks,
      Sample.exited_deserted, hregistered', Sample.lasts_attachAfterHooks, howes, hstays'⟩

end JavaInterop
