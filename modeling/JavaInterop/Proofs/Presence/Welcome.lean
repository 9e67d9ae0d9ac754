import JavaInterop.Proofs.Lifecycle.Admission
import JavaInterop.Proofs.Lifecycle.Clerical
import JavaInterop.Proofs.Presence.Refusal

/-!
# Machines that refuse nothing

If machines tell every thread whether it is attached, attach whoever asks for it and let everyone
go, then what an operation comes to is determined.  A reference that is given up is deleted if its
registration is still there, whether the thread is attached or not, and apart from that nothing has
happened in the end.  A hook detaches the thread if it is attached, and changes nothing otherwise.

Nothing that was attached for good is lost sight of.  A thread that was attached under a
registration of another thread owes a detach under this registration until it is detached or exits.
-/

namespace JavaInterop

variable [Host]

open Program (Ensures)

/-! ## What is relied on -/

/-- A thread is told whether it is attached, is attached if it asks for it, and is let go. -/
def Exchange.Grants : Exchange Presence → Prop
  | ⟨caller, .getEnv vm _, reply, before, _⟩ =>
    ((before.outside vm caller.id).isSome → ∃ pointer, reply = .ok pointer) ∧
      (before.outside vm caller.id = none → reply = .error .threadDetached)
  | ⟨_, .attach .., reply, _, _⟩ => ∃ pointer, reply = .ok pointer
  | ⟨_, .detach _, reply, _, _⟩ => reply = .ok ()
  | _ => True

/-- What may be relied on in a call to a machine that refuses nothing. -/
structure Exchange.Welcomes (exchange : Exchange Presence) : Prop where
  keeps : exchange.KeepsPresence
  grants : exchange.Grants

theorem Exchange.Welcomes.obliging {exchange : Exchange Presence} (hwelcomes : exchange.Welcomes) :
    exchange.Obliging := by
  obtain ⟨caller, request, reply, before, after⟩ := exchange
  have hgrants := hwelcomes.grants
  cases request with
  | getEnv vm version => exact hgrants.1
  | detach vm => exact hgrants
  | _ => trivial

theorem Exchange.Welcomes.allOblige {exchanges : List (Exchange Presence)}
    (hwelcomes : ∀ exchange ∈ exchanges, exchange.Welcomes) : AllOblige exchanges :=
  fun exchange hmem ↦ (hwelcomes exchange hmem).obliging

variable {thread : NativeThread} {first : Moment Presence}

/-- What is true if machines keep to the presence of threads is true if they refuse nothing. -/
theorem Program.Ensures.welcomed {α : Type} {program : Program α}
    {post : List (Exchange Presence) → α → Moment Presence → Prop}
    (hprogram : Ensures Exchange.KeepsPresence thread program first post) :
    Ensures Exchange.Welcomes thread program first post :=
  hprogram.strict fun _ ↦ Exchange.Welcomes.keeps

/-! ## Attaching and detaching -/

/-- The thread is attached in the end. -/
theorem ensures_attachTo_granted (id : LifecycleId) (registration : Registration)
    (config : AttachConfig) :
    Ensures Exchange.Welcomes thread (id.attachTo registration config).run first
      fun _ result _ ↦ result.isOk = true := by
  refine (id.ensures_attachTo_approach config).weaken fun exchanges result last happroach ↦ ?_
  cases happroach with
  | present => rfl
  | admitted => rfl
  | unclear hstatus hasked =>
    obtain ⟨hpresent, habsent⟩ := hasked.grants
    cases hattached : first.outside registration.vm thread.id with
    | none => exact absurd (Except.error.inj (habsent hattached)) hstatus
    | some since =>
      obtain ⟨pointer, hpointer⟩ := hpresent (Option.isSome_of_eq_some hattached)
      cases hpointer
  | refused _ hattached =>
    obtain ⟨pointer, hpointer⟩ := hattached.grants
    cases hpointer

/-- The moment after a thread was detached under a registration, if it was attached. -/
def Moment.released (moment : Moment Presence) (id : LifecycleId) (registration : Registration)
    (thread : Nat) : Moment Presence :=
  if (moment.outside registration.vm thread).isSome then
    ⟨moment.bridge.recount id (· - 1), moment.outside.put registration.vm thread none⟩
  else moment

theorem ensures_detach_released (id : LifecycleId) (registration : Registration) :
    Ensures Exchange.Welcomes thread (do
        match ← Program.perform (.getEnv registration.vm registration.version) with
        | .ok _ => id.detachAttached registration
        | .error _ => pure ()) first
      fun _ _ last ↦ last = first.released id registration thread.id := by
  refine ensures_parting.weaken fun exchanges _ last hparting ↦ ?_
  unfold Moment.released
  cases hparting with
  | absent hasked =>
    obtain ⟨rfl, -, -, -, habsent⟩ := hasked.keeps.of_getEnv
    have hnone := (habsent _ rfl).resolve_right (not_not_intro hasked.obliging)
    rw [if_neg (Option.not_isSome_iff_eq_none.2 hnone)]
  | refused _ hdetached => cases hdetached.grants
  | left hasked hdetached =>
    obtain ⟨rfl, -, hpresent, -⟩ := hasked.keeps.of_getEnv
    have hlast := hdetached.keeps.of_detach
    dsimp only at hlast
    rw [if_pos (hpresent _ rfl), hlast]

/-- A thread that leaves owes nothing under the registration any more. -/
theorem ensures_detachFrom_released (id : LifecycleId) (registration : Registration) :
    Ensures Exchange.Welcomes thread (id.detachFrom registration) first fun _ _ last ↦
      ∃ bridge, first.bridge.Rebooks thread.id (·.filter (· ≠ ⟨id, registration.generation⟩))
          bridge ∧
        last = Moment.released ⟨bridge, first.outside⟩ id registration thread.id := by
  rw [LifecycleId.ensures_detachFrom_iff]
  refine (ensures_detach_released id registration).weaken ?_
  rintro exchanges _ last rfl
  exact ⟨_, .rehook, rfl⟩

/-! ## Giving up references -/

/-- The global references that are deleted, one after the other. -/
def deletedHandles {ω : Type} (exchanges : List (Exchange ω)) : List Handle :=
  exchanges.filterMap fun exchange ↦ exchange.request.deleted?

@[simp]
theorem deletedHandles_append {ω : Type} (begun rest : List (Exchange ω)) :
    deletedHandles (begun ++ rest) = deletedHandles begun ++ deletedHandles rest :=
  List.filterMap_append

theorem Program.Official.deletesNothing {ω α : Type} {law : Exchange ω → Prop}
    {program : Program α} {begin : Moment ω} (hofficial : program.Official) :
    Ensures law thread program begin fun exchanges _ _ ↦ deletedHandles exchanges = [] := by
  intro exchanges _ _ hrun _
  refine List.filterMap_eq_nil_iff.2 fun exchange hmem ↦ ?_
  have hrequest := hrun.calls hofficial hmem
  generalize exchange.request = request at hrequest ⊢
  cases request with
  | env pointer function =>
    cases function with
    | deleteGlobalRef => exact hrequest.elim
    | _ => rfl
  | _ => rfl

/-- The handle that is to be deleted when a reference is given up. -/
def Bridge.due (bridge : Bridge) (reference : GlobalReference) : List Handle :=
  if bridge.isUsable reference then reference.raw.toList else []

theorem ensures_deleteGlobal_deletes (id : LifecycleId) (generation : Nat) (handle : Handle) :
    Ensures Exchange.Welcomes thread (id.deleteGlobal generation handle) first
      fun exchanges _ _ ↦
        deletedHandles exchanges = first.bridge.due ⟨some handle, id, generation⟩ := by
  have hdue : first.bridge.due ⟨some handle, id, generation⟩ =
      if (first.bridge.registered? id generation).isSome then [handle] else [] := rfl
  rw [hdue, LifecycleId.ensures_deleteGlobal_iff]
  cases first.bridge.registered? id generation with
  | none => rfl
  | some registration =>
    refine ((ensures_attachTo_granted id registration _).and
      (id.official_attachTo registration _).deletesNothing).weaken ?_
    rintro begun (error | ⟨pointer, attachedHere⟩) attached ⟨hgranted, hbegun⟩
    · cases hgranted
    · dsimp only
      rw [Program.ensures_perform]
      intro _ deleted _
      split
      · refine (id.official_detachFrom registration).deletesNothing.weaken ?_
        intro ended _ last hended
        simp only [deletedHandles_append, hbegun, hended]
        rfl
      · rw [deletedHandles_append, hbegun]
        rfl

theorem ensures_drop_deletes (reference : GlobalReference) :
    Ensures Exchange.Welcomes thread reference.drop first fun exchanges _ _ ↦
      deletedHandles exchanges = first.bridge.due reference := by
  obtain ⟨raw, id, generation⟩ := reference
  rw [GlobalReference.ensures_drop_iff]
  cases raw with
  | none => exact (ite_self _).symm
  | some handle => exact ensures_deleteGlobal_deletes id generation handle

/-- Counting a thread and not counting it any more comes to nothing. -/
theorem lifecycle_recount_back (bridge : Bridge) (id other : LifecycleId) :
    ((bridge.recount id (· + 1)).recount id (· - 1)).lifecycle other = bridge.lifecycle other := by
  by_cases hother : other = id
  · subst hother
    simp [Bridge.recount]
  · rw [lifecycle_recount_of_ne _ _ hother, lifecycle_recount_of_ne _ _ hother]

/-- Whoever has to be attached to give up a reference does not count in the end. -/
theorem ensures_release_lifecycle (reference : GlobalReference) :
    Ensures Exchange.Welcomes thread reference.release first fun _ _ last ↦
      ∀ other, last.bridge.lifecycle other = first.bridge.lifecycle other := by
  refine ensures_release_of reference (fun _ ↦ rfl) fun handle ↦ ?_
  refine ensures_deleteGlobal_of (fun _ ↦ Exchange.Welcomes.keeps) _ _ handle (fun _ ↦ rfl) ?_
  intro registration bridge hregistered habsent hbridge
  refine (ensures_detachFrom_released _ registration).weaken ?_
  rintro exchanges _ _ ⟨bridge', hbridge', rfl⟩ other
  have hpresent : ((first.outside.put registration.vm thread.id
      (some first.bridge.nextGeneration)) registration.vm thread.id).isSome = true := by
    rw [Presence.put_self]
    rfl
  unfold Moment.released
  rw [if_pos hpresent]
  calc (bridge'.recount reference.lifecycle (· - 1)).lifecycle other
    _ = _ := (hbridge'.recount reference.lifecycle (· - 1)).lifecycle other
    _ = _ := ((hbridge.recount reference.lifecycle (· + 1)).recount
        reference.lifecycle (· - 1)).lifecycle other
    _ = _ := lifecycle_recount_back first.bridge reference.lifecycle other

/-- Apart from its deletion, giving up a reference comes to nothing. -/
theorem ensures_drop_aside (haccurate : Accurate first) (reference : GlobalReference) :
    Ensures Exchange.Welcomes thread reference.drop first fun _ _ last ↦
      Aside first last ∧ last.outside = first.outside := by
  have hdrop : reference.drop = (fun _ ↦ ()) <$> reference.release := rfl
  rw [hdrop, Program.ensures_map]
  intro exchanges _ last hrun hlaw
  have hrestores := (ensures_release_restores .brief reference rfl).welcomed _ _ _ hrun hlaw
  have hpending := (ensures_release_forfeits haccurate reference).welcomed _ _ _ hrun hlaw
  have hlifecycle := ensures_release_lifecycle reference _ _ _ hrun hlaw
  have hpresence := hrestores.obliged (Exchange.Welcomes.allOblige hlaw)
  have hlast := hrestores.moves.accurate haccurate
  have hgone : ∀ id ∈ last.bridge.gone,
      id ∈ first.bridge.gone ∨ (first.bridge.lifecycle id).registration = none := by
    intro id hgone
    rw [← hlifecycle id]
    exact .inr (hlast.extant id hgone)
  refine ⟨⟨hlifecycle, hgone, hrestores.moves.proceeds.nextGeneration, forfeits_none.1 hpending,
    fun _ ↦ hlast.slotted, fun vm caller ↦ .inl ?_⟩, hpresence⟩
  rw [hpresence]

/-! ## Hooks -/

/-- How many threads count under a registration, and since when one of them has been attached. -/
structure Tally where
  attached : Nat
  since : Option Nat
deriving DecidableEq

/-- The thread is not attached any more. -/
def Tally.depart : Tally → Tally
  | ⟨attached, some _⟩ => ⟨attached - 1, none⟩
  | ⟨attached, none⟩ => ⟨attached, none⟩

omit [Host] in
theorem Tally.depart_depart (tally : Tally) : tally.depart.depart = tally.depart := by
  obtain ⟨attached, since⟩ := tally
  cases since with
  | none => rfl
  | some since => rfl

def Moment.tally (moment : Moment Presence) (id : LifecycleId) (registration : Registration)
    (thread : Nat) : Tally :=
  ⟨(moment.bridge.lifecycle id).attached, moment.outside registration.vm thread⟩

theorem tally_of_aside {last : Moment Presence} (haside : Aside first last)
    (hpresence : last.outside = first.outside) (id : LifecycleId) (registration : Registration)
    (caller : Nat) : last.tally id registration caller = first.tally id registration caller := by
  unfold Moment.tally
  rw [haside.lifecycle, hpresence]

theorem depart_tally_of_absent {registration : Registration} {caller : Nat}
    (habsent : first.outside registration.vm caller = none) (id : LifecycleId) :
    (first.tally id registration caller).depart = first.tally id registration caller := by
  unfold Moment.tally
  rw [habsent]
  rfl

/-- Among these hooks is one for the registration of a lifecycle that still exists. -/
def HookDue (heldOutside : LifecycleId → Bool) (bridge : Bridge) (hooks : List PendingDetach)
    (id : LifecycleId) (registration : Registration) : Prop :=
  ⟨id, registration.generation⟩ ∈ hooks ∧ (heldOutside id || bridge.refersTo id) = true

/-- What the hooks of a thread come to.  The thread is not attached any more where this is due, and
counts as before everywhere else. -/
structure Unhooks (heldOutside : LifecycleId → Bool) (hooks : List PendingDetach) (thread : Nat)
    (first last : Moment Presence) : Prop where
  threads : last.bridge.threads = first.bridge.threads
  registered : ∀ id, (last.bridge.lifecycle id).registration =
    (first.bridge.lifecycle id).registration
  refersTo : ∀ id, last.bridge.refersTo id = first.bridge.refersTo id
  due : ∀ id registration, (first.bridge.lifecycle id).registration = some registration →
    HookDue heldOutside first.bridge hooks id registration →
      last.tally id registration thread = (first.tally id registration thread).depart
  spared : ∀ id registration, (first.bridge.lifecycle id).registration = some registration →
    ¬ HookDue heldOutside first.bridge hooks id registration →
      last.tally id registration thread = first.tally id registration thread

section

variable {heldOutside : LifecycleId → Bool} {hooks hooks' : List PendingDetach} {caller : Nat}
  {middle last : Moment Presence}

theorem Unhooks.nothing (hnone : ∀ id registration,
    (first.bridge.lifecycle id).registration = some registration →
      ¬ HookDue heldOutside first.bridge hooks id registration) :
    Unhooks heldOutside hooks caller first first :=
  ⟨rfl, fun _ ↦ rfl, fun _ ↦ rfl,
    fun id registration hregistered hdue ↦ absurd hdue (hnone id registration hregistered),
    fun _ _ _ _ ↦ rfl⟩

theorem Unhooks.append (hfirst : Unhooks heldOutside hooks caller first middle)
    (hlast : Unhooks heldOutside hooks' caller middle last) :
    Unhooks heldOutside (hooks ++ hooks') caller first last := by
  have hdue : ∀ id registration,
      HookDue heldOutside first.bridge (hooks ++ hooks') id registration ↔
      HookDue heldOutside first.bridge hooks id registration ∨
        HookDue heldOutside middle.bridge hooks' id registration := by
    intro id registration
    unfold HookDue
    rw [hfirst.refersTo, List.mem_append, or_and_right]
  refine ⟨hlast.threads.trans hfirst.threads,
    fun id ↦ (hlast.registered id).trans (hfirst.registered id),
    fun id ↦ (hlast.refersTo id).trans (hfirst.refersTo id), ?_, ?_⟩
  · intro id registration hregistered heither
    have hregistered' := (hfirst.registered id).trans hregistered
    rw [hdue] at heither
    by_cases hlater : HookDue heldOutside middle.bridge hooks' id registration
    · rw [hlast.due id registration hregistered' hlater]
      by_cases hsooner : HookDue heldOutside first.bridge hooks id registration
      · rw [hfirst.due id registration hregistered hsooner, Tally.depart_depart]
      · rw [hfirst.spared id registration hregistered hsooner]
    · rw [hlast.spared id registration hregistered' hlater,
        hfirst.due id registration hregistered (heither.resolve_right hlater)]
  · intro id registration hregistered hneither
    have hregistered' := (hfirst.registered id).trans hregistered
    rw [hdue, not_or] at hneither
    rw [hlast.spared id registration hregistered' hneither.2,
      hfirst.spared id registration hregistered hneither.1]

/-- The thread is not attached under a registration any more if it owed a detach there. -/
theorem Unhooks.departs {id : LifecycleId} {registration : Registration}
    (hunhooks : Unhooks heldOutside hooks caller first last)
    (hregistered : (first.bridge.lifecycle id).registration = some registration)
    (howes : (first.outside registration.vm caller).isSome →
      ⟨id, registration.generation⟩ ∈ hooks)
    (hexists : (heldOutside id || first.bridge.refersTo id) = true ∨
      first.outside registration.vm caller = none) :
    last.tally id registration caller = (first.tally id registration caller).depart := by
  by_cases hdue : HookDue heldOutside first.bridge hooks id registration
  · exact hunhooks.due id registration hregistered hdue
  · have habsent : first.outside registration.vm caller = none := by
      refine hexists.elim (fun hthere ↦ ?_) (fun hnone ↦ hnone)
      apply Option.not_isSome_iff_eq_none.1
      exact fun hpresent ↦ hdue ⟨howes hpresent, hthere⟩
    rw [hunhooks.spared id registration hregistered hdue, depart_tally_of_absent habsent]

/-- What becomes of a tally when the thread is released from some machine. -/
theorem tally_released {id other : LifecycleId} {registration registration' : Registration}
    (hapart : first.bridge.Apart)
    (hregistered : (first.bridge.lifecycle id).registration = some registration)
    (hregistered' : (first.bridge.lifecycle other).registration = some registration') :
    (first.released other registration' caller).tally id registration caller =
      if id = other then (first.tally id registration caller).depart
      else first.tally id registration caller := by
  unfold Moment.released
  split
  · rename_i hpresent
    split
    · rename_i hsame
      subst hsame
      obtain rfl := Option.some.inj (hregistered.symm.trans hregistered')
      obtain ⟨since, hsince⟩ := Option.isSome_iff_exists.1 hpresent
      have htally : first.tally id registration caller =
          ⟨(first.bridge.lifecycle id).attached, some since⟩ := congrArg (Tally.mk _) hsince
      rw [htally]
      exact congrArg₂ Tally.mk (attached_recount_self _ _ _) (Presence.put_self _ _)
    · rename_i hother
      have hvm : registration.vm ≠ registration'.vm := fun hvm ↦
        hother (hapart id other _ _ hregistered hregistered' hvm)
      exact congrArg₂ Tally.mk
        (congrArg Lifecycle.attached (lifecycle_recount_of_ne _ _ hother))
        (Presence.put_of_vm_ne _ _ hvm)
  · rename_i habsent
    split
    · rename_i hsame
      subst hsame
      obtain rfl := Option.some.inj (hregistered.symm.trans hregistered')
      exact (depart_tally_of_absent (Option.not_isSome_iff_eq_none.1 habsent) id).symm
    · rfl

/-- A hook of a registration that is still there. -/
theorem Unhooks.of_released {hook : PendingDetach} {registration : Registration}
    (hapart : first.bridge.Apart)
    (hexists : (heldOutside hook.lifecycle || first.bridge.refersTo hook.lifecycle) = true)
    (hregistered : (first.bridge.lifecycle hook.lifecycle).registration = some registration)
    (hgeneration : registration.generation = hook.generation) :
    Unhooks heldOutside [hook] caller first
      (first.released hook.lifecycle registration caller) := by
  have hdue : ∀ id registration',
      (first.bridge.lifecycle id).registration = some registration' →
        (HookDue heldOutside first.bridge [hook] id registration' ↔ id = hook.lifecycle) := by
    intro id registration' hregistered'
    unfold HookDue
    rw [List.mem_singleton]
    constructor
    · rintro ⟨rfl, -⟩
      rfl
    · rintro rfl
      obtain rfl := Option.some.inj (hregistered.symm.trans hregistered')
      exact ⟨congrArg (PendingDetach.mk _) hgeneration, hexists⟩
  have hframe : ∀ post : Moment Presence → Prop, post first →
      post ⟨first.bridge.recount hook.lifecycle (· - 1),
        first.outside.put registration.vm caller none⟩ →
      post (first.released hook.lifecycle registration caller) := by
    intro post hsame hless
    unfold Moment.released
    split
    · exact hless
    · exact hsame
  refine ⟨hframe (fun last ↦ last.bridge.threads = _) rfl rfl, fun id ↦ ?_, fun id ↦ ?_, ?_, ?_⟩
  · exact hframe (fun last ↦ (last.bridge.lifecycle id).registration = _) rfl
      (registration_recount _ _ _ _)
  · exact hframe (fun last ↦ last.bridge.refersTo id = _) rfl rfl
  · intro id registration' hregistered' his
    rw [tally_released hapart hregistered' hregistered,
      if_pos ((hdue id registration' hregistered').1 his)]
  · intro id registration' hregistered' hnot
    rw [tally_released hapart hregistered' hregistered,
      if_neg fun hsame ↦ hnot ((hdue id registration' hregistered').2 hsame)]

end

section

variable (heldOutside : LifecycleId → Bool)

theorem ensures_hook_unhooks (hapart : first.bridge.Apart) (hook : PendingDetach) :
    Ensures Exchange.Welcomes thread (hook.run heldOutside) first fun _ _ last ↦
      Unhooks heldOutside [hook] thread.id first last := by
  unfold PendingDetach.run LifecycleId.registered?
  rw [Program.ensures_bind, Program.ensures_state]
  split
  · rename_i hexists
    rw [Program.ensures_bind, Program.ensures_look]
    cases hlive : first.bridge.registered? hook.lifecycle hook.generation with
    | none =>
      rw [Program.ensures_pure]
      refine .nothing fun id registration hregistered hdue ↦ ?_
      obtain rfl := List.mem_singleton.1 hdue.1
      have hfound : first.bridge.registered? id registration.generation = some registration := by
        simp [Bridge.registered?, hregistered]
      cases hlive.symm.trans hfound
    | some registration =>
      obtain ⟨hregistered, hgeneration⟩ := Option.filter_eq_some_iff.1 hlive
      refine (ensures_detach_released hook.lifecycle registration).weaken ?_
      rintro exchanges _ _ rfl
      exact .of_released hapart hexists hregistered (beq_iff_eq.1 hgeneration)
  · rename_i hgone
    rw [Program.ensures_pure]
    refine .nothing fun id registration hregistered hdue ↦ ?_
    obtain rfl := List.mem_singleton.1 hdue.1
    exact hgone hdue.2

theorem ensures_hooks_unhooks (hapart : first.bridge.Apart) (hooks : List PendingDetach) :
    Ensures Exchange.Welcomes thread (hooks.forM fun hook ↦ hook.run heldOutside) first
      fun _ _ last ↦ Unhooks heldOutside hooks thread.id first last := by
  induction hooks generalizing first with
  | nil =>
    rw [List.forM_eq_forM, List.forM_nil, Program.ensures_pure]
    exact .nothing fun _ _ _ hdue ↦ absurd hdue.1 List.not_mem_nil
  | cons hook hooks ih =>
    rw [List.forM_eq_forM, List.forM_cons, Program.ensures_bind]
    refine (ensures_hook_unhooks heldOutside hapart hook).weaken ?_
    intro begun _ middle hbegun
    have hapart' : middle.bridge.Apart := by
      intro other other'
      rw [hbegun.registered, hbegun.registered]
      exact hapart other other'
    refine (ih hapart').weaken ?_
    intro rest _ last hrest
    exact hbegun.append hrest

/-- A thread has given up its list of hooks. -/
def Bridge.unhooked (bridge : Bridge) (thread : Nat) : Bridge :=
  bridge.setThread thread { bridge.thread thread with pending := [] }

theorem ensures_vacate_unhooks (hapart : first.bridge.Apart) :
    Ensures Exchange.Welcomes thread (ThreadSlot.pendingDetaches.vacate heldOutside) first
      fun _ _ last ↦ Unhooks heldOutside (first.bridge.thread thread.id).pending thread.id
        ⟨first.bridge.unhooked thread.id, first.outside⟩ last := by
  unfold ThreadSlot.vacate
  rw [Program.ensures_bind, Program.ensures_current, Program.ensures_bind, Program.ensures_state]
  dsimp only
  rw [Program.ensures_bind, Program.ensures_update]
  have hhooks := @ensures_hooks_unhooks _ thread
    ⟨first.bridge.unhooked thread.id, first.outside⟩ heldOutside hapart
    (first.bridge.thread thread.id).pending
  exact hhooks

end

/-! ## Who owes a detach -/

/-- A thread that was attached under a registration of another thread owes a detach. -/
def Moment.Liable (moment : Moment Presence) (thread : Nat) : Prop :=
  ∀ id registration, (moment.bridge.lifecycle id).registration = some registration →
    thread ∈ moment.outside.residents registration → thread ≠ registration.creator →
    ⟨id, registration.generation⟩ ∈ (moment.bridge.thread thread).pending

section

variable {manner : Manner} {mover caller : Nat} {last : Moment Presence}
  {exchanges : List (Exchange Presence)}

theorem Moment.Liable.aside (hliable : first.Liable caller) (haside : Aside first last) :
    last.Liable caller := by
  intro id registration hregistered hresident hcreator
  rw [haside.lifecycle] at hregistered
  rw [haside.residents hregistered] at hresident
  rw [haside.pending]
  exact hliable id registration hregistered hresident hcreator

/-- What another thread owes does not matter. -/
theorem Moment.Liable.rebooks (hliable : first.Liable caller) (hcaller : caller ≠ mover)
    {change : List PendingDetach → List PendingDetach} {bridge : Bridge}
    (hbridge : first.bridge.Rebooks mover change bridge) :
    Moment.Liable ⟨bridge, first.outside⟩ caller := by
  intro id registration hregistered hresident hcreator
  dsimp only at hregistered ⊢
  rw [hbridge.lifecycle] at hregistered
  rw [hbridge.other hcaller]
  exact hliable id registration hregistered hresident hcreator

theorem Move.liable (hmove : Move manner mover first exchanges last) (haccurate : Accurate first)
    (hoblige : AllOblige exchanges) (hlasting : caller = mover → manner = .lasting)
    (hliable : first.Liable caller) : last.Liable caller := by
  cases hmove with
  | aside haside _ => exact hliable.aside haside
  | @attach _ id registration bridge hregistered habsent hbridge _ _ =>
    intro other registration' hregistered' hresident hcreator
    rw [registration_recount, hbridge.lifecycle] at hregistered'
    change _ ∈ (bridge.thread caller).pending
    by_cases hcaller : caller = mover
    · subst hcaller
      obtain rfl := hlasting rfl
      have hextant : other ∉ first.bridge.gone := by
        intro hgone
        cases (haccurate.extant other hgone).symm.trans hregistered'
      rw [hbridge.self, Manner.mem_owing_lasting hextant]
      by_cases hother : other = id
      · subst hother
        obtain rfl := Option.some.inj (hregistered.symm.trans hregistered')
        exact .inr ⟨hcreator, rfl⟩
      · rw [haccurate.residents_put_of_ne hregistered hregistered' hother] at hresident
        exact .inl (hliable other registration' hregistered' hresident hcreator)
    · rw [Presence.mem_residents_put hcaller] at hresident
      rw [hbridge.other hcaller]
      exact hliable other registration' hregistered' hresident hcreator
  | @cancel _ id registration bridge hregistered hbridge hreason hquiet =>
    by_cases hcaller : caller = mover
    · subst hcaller
      intro other registration' hregistered' hresident hcreator
      rw [hbridge.lifecycle] at hregistered'
      rw [hbridge.self, List.mem_filter, decide_eq_true_eq]
      refine ⟨hliable other registration' hregistered' hresident hcreator, fun hsame ↦ ?_⟩
      -- Only a thread that is not attached has its detach taken back.
      obtain rfl : other = id := congrArg PendingDetach.lifecycle hsame
      obtain rfl := Option.some.inj (hregistered.symm.trans hregistered')
      obtain ⟨since, hsince, -⟩ := hresident
      rcases hreason with habsent | ⟨exchange, hmem, hrefuses⟩
      · cases habsent.symm.trans hsince
      · exact hrefuses (hoblige exchange hmem)
    · exact hliable.rebooks hcaller hbridge
  | @detach begun exchange id registration bridge hregistered hbridge _ _ _ _ _ _ =>
    intro other registration' hregistered' hresident hcreator
    rw [registration_recount, hbridge.lifecycle] at hregistered'
    change _ ∈ (bridge.thread caller).pending
    by_cases hcaller : caller = mover
    · subst hcaller
      by_cases hother : other = id
      · subst hother
        obtain rfl := Option.some.inj (hregistered.symm.trans hregistered')
        rw [Presence.residents_put_none] at hresident
        exact absurd rfl hresident.2
      · rw [haccurate.residents_put_of_ne hregistered hregistered' hother] at hresident
        rw [hbridge.self, List.mem_filter, decide_eq_true_eq]
        exact ⟨hliable other registration' hregistered' hresident hcreator,
          fun hsame ↦ hother (congrArg PendingDetach.lifecycle hsame)⟩
    · rw [Presence.mem_residents_put hcaller] at hresident
      rw [hbridge.other hcaller]
      exact hliable other registration' hregistered' hresident hcreator
  | forget =>
    intro other registration hregistered hresident hcreator
    have hsame := lifecycle_forget hregistered
    rw [hsame] at hregistered
    exact hliable other registration hregistered hresident hcreator
  | register hregisters _ =>
    intro other registration' hregistered hresident hcreator
    rw [hregisters.pending]
    rcases hregisters.eq_or_same hregistered with ⟨-, rfl⟩ | ⟨hsame, -, hresidents⟩
    · exact absurd (hregisters.only caller hresident) hcreator
    · rw [hsame] at hregistered
      rw [hresidents] at hresident
      exact hliable other registration' hregistered hresident hcreator

theorem Moves.liable (hmoves : Moves manner mover first exchanges last)
    (haccurate : Accurate first) (hoblige : AllOblige exchanges)
    (hlasting : caller = mover → manner = .lasting) (hliable : first.Liable caller) :
    last.Liable caller := by
  induction hmoves with
  | done => exact hliable
  | step hmove _ ih =>
    obtain ⟨hbegun, hrest⟩ := allOblige_append.1 hoblige
    exact ih (hmove.accurate haccurate) hrest (hmove.liable haccurate hbegun hlasting hliable)

/-- The rest of the exit of another thread. -/
theorem Vanishes.liable (hvanishes : Vanishes mover first exchanges last)
    (haccurate : Accurate first) (hoblige : AllOblige exchanges) (hcaller : caller ≠ mover)
    (hliable : first.Liable caller) : last.Liable caller := by
  obtain ⟨left, hcloses, hgone, hpresence⟩ := hvanishes
  have hleft := hcloses.moves.liable haccurate hoblige (fun hsame ↦ absurd hsame hcaller) hliable
  have hlast := hleft.rebooks hcaller hgone
  rwa [← hpresence] at hlast

/-- The exit of another thread. -/
theorem Departs.liable {heldOutside : LifecycleId → Bool}
    (hdeparts : Departs heldOutside thread first exchanges last) (haccurate : Accurate first)
    (hoblige : AllOblige exchanges) (hcaller : caller ≠ thread.id) (hliable : first.Liable caller) :
    last.Liable caller := by
  have hmoves : ∀ {before after : Moment Presence} {calls : List (Exchange Presence)},
      Moves .brief thread.id before calls after → Accurate before → AllOblige calls →
        before.Liable caller → after.Liable caller :=
    fun hmoves haccurate hoblige ↦ hmoves.liable haccurate hoblige fun hsame ↦
      absurd hsame hcaller
  cases hdeparts with
  | free _ _ hvanishes => exact hvanishes.liable haccurate hoblige hcaller hliable
  | hooked _ hopens hvacates hvanishes =>
    rw [allOblige_append, allOblige_append] at hoblige
    obtain ⟨⟨hbegun, hhooks⟩, hrest⟩ := hoblige
    have hmiddle := hopens.moves.accurate haccurate
    have hdone := hvacates.accurate hmiddle
    obtain ⟨bridge, hbridge, hclears⟩ := hvacates
    have hcleared := hmiddle.owesLess hbridge fun _ ↦ List.nil_sublist _
    have hopened := hmoves hopens.moves haccurate hbegun hliable
    have hrun := hmoves hclears.moves hcleared hhooks (hopened.rebooks hcaller hbridge)
    exact hvanishes.liable hdone hrest hcaller hrun

end

end JavaInterop
