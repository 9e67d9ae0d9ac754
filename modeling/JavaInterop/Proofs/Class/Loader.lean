import JavaInterop.Class.Loader
import JavaInterop.Proofs.Environment.Setting
import JavaInterop.Proofs.Presence.Welcome

/-!
# Setting a class loader and giving it up

The class loader of a thread is a global reference that belongs to the thread.  Setting another one
makes a new reference, which takes the place of the older one, and the older one is given up.  If no
reference can be made, everything stays as it was.  A thread that exits gives up its loader before
its hooks run or after that, as its slots prescribe.

The machines refuse nothing here, except that they may be unable to make a global reference.
-/

namespace JavaInterop

variable [Host]

open Program (Ensures)

/-! ## Where loaders are kept -/

/-- Whoever has a loader keeps it where his exit looks for it. -/
def Bridge.Placed (bridge : Bridge) : Prop :=
  ∀ caller, (bridge.thread caller).loader.isSome →
    ThreadSlot.classLoader ∈ (bridge.thread caller).slots

/-- Nobody's loader has changed, and nobody has fewer slots. -/
structure Bridge.KeepsLoaders (before after : Bridge) : Prop where
  loader : ∀ caller, (after.thread caller).loader = (before.thread caller).loader
  slots : ∀ caller, (before.thread caller).slots ⊆ (after.thread caller).slots

/-- A thread has this loader now, and nobody else's has changed. -/
structure Bridge.Loads (thread : Nat) (loader : Option GlobalReference) (before after : Bridge) :
    Prop where
  self : (after.thread thread).loader = loader
  others : ∀ other, other ≠ thread →
    (after.thread other).loader = (before.thread other).loader
  placed : before.Placed → after.Placed

namespace Bridge.KeepsLoaders

variable {before middle after : Bridge}

theorem refl (bridge : Bridge) : bridge.KeepsLoaders bridge :=
  ⟨fun _ ↦ rfl, fun _ ↦ List.Subset.refl _⟩

theorem trans (hfirst : before.KeepsLoaders middle) (hlast : middle.KeepsLoaders after) :
    before.KeepsLoaders after where
  loader caller := (hlast.loader caller).trans (hfirst.loader caller)
  slots caller := List.Subset.trans (hfirst.slots caller) (hlast.slots caller)

theorem placed (hkeeps : before.KeepsLoaders after) (hplaced : before.Placed) : after.Placed := by
  intro caller hloader
  rw [hkeeps.loader] at hloader
  exact hkeeps.slots caller (hplaced caller hloader)

theorem loads (hkeeps : before.KeepsLoaders after) (thread : Nat) :
    before.Loads thread (before.thread thread).loader after :=
  ⟨hkeeps.loader thread, fun other _ ↦ hkeeps.loader other, hkeeps.placed⟩

theorem of_threads (hthreads : after.threads = before.threads) : before.KeepsLoaders after := by
  have hthread : ∀ caller, after.thread caller = before.thread caller := fun caller ↦
    congrArg (fun threads : Store Nat ThreadState ↦ (threads.find? caller).getD { }) hthreads
  exact ⟨fun caller ↦ by rw [hthread], fun caller ↦ by rw [hthread]; exact List.Subset.refl _⟩

theorem setThread {thread : Nat} {state : ThreadState}
    (hloader : state.loader = (before.thread thread).loader)
    (hslots : (before.thread thread).slots ⊆ state.slots) :
    before.KeepsLoaders (before.setThread thread state) := by
  refine ⟨fun caller ↦ ?_, fun caller ↦ ?_⟩
  · by_cases hcaller : caller = thread
    · rw [hcaller, Bridge.thread_setThread_self, hloader]
    · rw [Bridge.thread_setThread_of_ne _ _ hcaller]
  · by_cases hcaller : caller = thread
    · rw [hcaller, Bridge.thread_setThread_self]
      exact hslots
    · rw [Bridge.thread_setThread_of_ne _ _ hcaller]
      exact List.Subset.refl _

end Bridge.KeepsLoaders

instance : Bridge.Enrolling Bridge.KeepsLoaders where
  lifecycle _ _ _ := .of_threads rfl
  deferred _ _ _ := .setThread (touch_loader _ _) (subset_touch _ _)
  drawn _ := .of_threads rfl
  unhooked _ := .of_threads rfl

instance : Bridge.Bookkeeping Bridge.KeepsLoaders where
  attached _ _ _ := .of_threads rfl
  pending _ _ _ := .setThread (touch_loader _ _) (subset_touch _ _)

variable {thread : NativeThread} {first : Moment Presence}

/-- What keeps everyone's loader in all its changes does so as a whole. -/
theorem Program.Writes.keepsLoaders {α : Type} {program : Program α}
    (hprogram : program.Writes Bridge.KeepsLoaders) :
    Ensures Exchange.KeepsPresence thread program first fun _ _ last ↦
      first.bridge.KeepsLoaders last.bridge := by
  intro exchanges result last hrun hlaw
  refine hrun.writes .refl (fun _ _ _ ↦ .trans) (hprogram _) fun exchange hmem ↦ ?_
  rw [(hlaw exchange hmem).bridge]
  exact .refl _

/-! ## Making references -/

/-- The global reference that a machine has made in a call. -/
def Exchange.issued? {ω : Type} : Exchange ω → Option Handle
  | ⟨_, .env _ (.newGlobalRef _), reply, _, _⟩ => reply
  | _ => none

/-- The global references that are made, one after the other. -/
def issuedHandles {ω : Type} (exchanges : List (Exchange ω)) : List Handle :=
  exchanges.filterMap Exchange.issued?

@[simp]
theorem issuedHandles_append {ω : Type} (begun rest : List (Exchange ω)) :
    issuedHandles (begun ++ rest) = issuedHandles begun ++ issuedHandles rest :=
  List.filterMap_append

theorem Program.Clerical.issuesNothing {ω α : Type} {law : Exchange ω → Prop}
    {program : Program α} {begin : Moment ω} (hclerical : program.Clerical) :
    Ensures law thread program begin fun exchanges _ _ ↦ issuedHandles exchanges = [] := by
  intro exchanges _ _ hrun _
  refine List.filterMap_eq_nil_iff.2 fun exchange hmem ↦ ?_
  have hrequest := hrun.calls hclerical hmem
  obtain ⟨caller, request, reply, before, after⟩ := exchange
  cases request with
  | env pointer function =>
    cases function with
    | newGlobalRef => exact hrequest.elim
    | _ => rfl
  | _ => rfl

/-! ## Giving up a loader -/

/-- The handle that is to be deleted when a loader is given up, if there is one. -/
def Bridge.dueOf (bridge : Bridge) (loader : Option GlobalReference) : List Handle :=
  loader.toList.flatMap bridge.due

theorem dueOf_congr {before after : Bridge} (hregistered : ∀ id,
    (after.lifecycle id).registration = (before.lifecycle id).registration)
    (loader : Option GlobalReference) : after.dueOf loader = before.dueOf loader := by
  have hdue : after.due = before.due := by
    funext reference
    unfold Bridge.due Bridge.isUsable Bridge.isLive Bridge.registered?
    rw [hregistered]
  unfold Bridge.dueOf
  rw [hdue]

/-- Registrations and attachments are as before, and so are the books if they were in order. -/
structure Abides (first last : Moment Presence) : Prop where
  registered : ∀ id, (last.bridge.lifecycle id).registration =
    (first.bridge.lifecycle id).registration
  aside : Accurate first → Aside first last ∧ last.outside = first.outside

theorem Abides.of_aside {last : Moment Presence} (haside : Aside first last)
    (hpresence : last.outside = first.outside) : Abides first last :=
  ⟨fun id ↦ congrArg Lifecycle.registration (haside.lifecycle id), fun _ ↦ ⟨haside, hpresence⟩⟩

theorem Abides.after {middle last : Moment Presence} (haside : Aside first middle)
    (hpresence : middle.outside = first.outside) (hlast : Abides middle last) :
    Abides first last where
  registered id := (hlast.registered id).trans (congrArg Lifecycle.registration
    (haside.lifecycle id))
  aside haccurate := by
    obtain ⟨haside', hpresence'⟩ := hlast.aside (haccurate.aside haside)
    exact ⟨haside.trans haside', hpresence'.trans hpresence⟩

/-- A loader that has been given up is deleted if its registration is still there, and apart from
that nothing comes of it. -/
theorem ensures_dropLoader (loader : Option GlobalReference) :
    Ensures Exchange.Welcomes thread (loader.elim (pure ()) GlobalReference.drop) first
      fun exchanges _ last ↦ Abides first last ∧ first.bridge.KeepsLoaders last.bridge ∧
        issuedHandles exchanges = [] ∧ deletedHandles exchanges = first.bridge.dueOf loader := by
  cases loader with
  | none => exact Program.ensures_pure.2 ⟨.of_aside (.refl first) rfl, .refl _, rfl, rfl⟩
  | some reference =>
    have hdrop : reference.drop = (fun _ ↦ ()) <$> reference.release := rfl
    have hlifecycles : Ensures Exchange.Welcomes thread reference.drop first fun _ _ last ↦
        ∀ id, last.bridge.lifecycle id = first.bridge.lifecycle id := by
      rw [hdrop, Program.ensures_map]
      exact ensures_release_lifecycle reference
    intro exchanges _ last hrun hlaw
    have hlifecycle := hlifecycles _ _ _ hrun hlaw
    have hdeleted := ensures_drop_deletes reference _ _ _ hrun hlaw
    refine ⟨⟨fun id ↦ congrArg Lifecycle.registration (hlifecycle id), fun haccurate ↦ ?_⟩,
      ?_, ?_, hdeleted.trans (List.flatMap_singleton _ _).symm⟩
    · exact ensures_drop_aside haccurate reference _ _ _ hrun hlaw
    · exact (GlobalReference.writes_drop reference).keepsLoaders.welcomed _ _ _ hrun hlaw
    · exact reference.clerical_drop.issuesNothing _ _ _ hrun hlaw

/-! ## Setting a loader -/

theorem loads_setThread {bridge : Bridge} {thread : Nat} {state : ThreadState}
    {loader : Option GlobalReference} (hloader : state.loader = loader)
    (hslot : loader.isSome → ThreadSlot.classLoader ∈ state.slots) :
    bridge.Loads thread loader (bridge.setThread thread state) where
  self := by rw [Bridge.thread_setThread_self, hloader]
  others other hother := by rw [Bridge.thread_setThread_of_ne _ _ hother]
  placed hplaced caller := by
    by_cases hcaller : caller = thread
    · rw [hcaller, Bridge.thread_setThread_self, hloader]
      exact hslot
    · rw [Bridge.thread_setThread_of_ne _ _ hcaller]
      exact hplaced caller

theorem Bridge.Loads.keeps {thread : Nat} {loader : Option GlobalReference}
    {before middle after : Bridge} (hloads : before.Loads thread loader middle)
    (hkeeps : middle.KeepsLoaders after) : before.Loads thread loader after where
  self := (hkeeps.loader thread).trans hloads.self
  others other hother := (hkeeps.loader other).trans (hloads.others other hother)
  placed hplaced := hkeeps.placed (hloads.placed hplaced)

/-- A loader is given up after something else has taken its place. -/
theorem ensures_dropLoader_after {middle : Moment Presence} (haside : Aside first middle)
    (hpresence : middle.outside = first.outside) {stored : Option GlobalReference}
    (hloads : first.bridge.Loads thread.id stored middle.bridge)
    (loader : Option GlobalReference) :
    Ensures Exchange.Welcomes thread (loader.elim (pure ()) GlobalReference.drop) middle
      fun exchanges _ last ↦ Abides first last ∧
        first.bridge.Loads thread.id stored last.bridge ∧ issuedHandles exchanges = [] ∧
        deletedHandles exchanges = first.bridge.dueOf loader := by
  refine (ensures_dropLoader loader).weaken ?_
  rintro exchanges _ last ⟨habides, hkeeps, hissued, hdeleted⟩
  have hsame : middle.bridge.dueOf loader = first.bridge.dueOf loader :=
    dueOf_congr (fun id ↦ congrArg Lifecycle.registration (haside.lifecycle id)) loader
  exact ⟨habides.after haside hpresence, hloads.keeps hkeeps, hissued, hdeleted.trans hsame⟩

/-- A thread puts a loader in place of the one that it has, and gives up the older one. -/
theorem ensures_replaceLoader (loader : Option GlobalReference) :
    Ensures Exchange.Welcomes thread (do
        match ← exchangeClassLoader loader with
        | some previous => previous.drop
        | none => pure () : Fallible Unit).run first
      fun exchanges result last ↦ result = .ok () ∧ Abides first last ∧
        first.bridge.Loads thread.id loader last.bridge ∧ issuedHandles exchanges = [] ∧
        deletedHandles exchanges = first.bridge.dueOf (first.bridge.thread thread.id).loader := by
  rw [Fallible.ensures_liftThen]
  unfold exchangeClassLoader
  rw [Program.ensures_bind, Program.ensures_current, Program.ensures_bind, Program.ensures_state]
  dsimp only
  rw [Program.ensures_bind, Program.ensures_update, Program.ensures_pure]
  generalize hswapped : first.bridge.setThread thread.id
    { (first.bridge.thread thread.id).touch .classLoader with loader := loader } = swapped
  have haside : Aside first ⟨swapped, first.outside⟩ :=
    hswapped ▸ aside_setLoader first thread.id loader
  have hloads : first.bridge.Loads thread.id loader swapped :=
    hswapped ▸ loads_setThread rfl fun _ ↦ mem_touch _ _
  have hdropped := ensures_dropLoader_after haside rfl hloads
    (first.bridge.thread thread.id).loader
  rw [touch_loader]
  generalize (first.bridge.thread thread.id).loader = previous at hdropped ⊢
  cases previous with
  | none => exact Fallible.ensures_pure.2 ⟨rfl, Program.ensures_pure.1 hdropped⟩
  | some previous =>
    refine Fallible.ensures_lift.2 (hdropped.weaken ?_)
    exact fun _ _ _ hpost ↦ ⟨rfl, hpost⟩

/-- The reference that a thread keeps if a machine has made one for it. -/
def Env.loader? (env : Env) (issued : List Handle) : Option GlobalReference :=
  issued.head?.map fun handle ↦ ⟨some handle, env.lifecycle, env.generation⟩

/-- Setting a loader succeeds if the machine makes a reference or none is asked for.  The older
loader is given up then; otherwise nothing has happened. -/
theorem ensures_setClassLoader (env : Env) (loader : Option Handle) :
    Ensures Exchange.Welcomes thread (setClassLoader env loader).run first
      fun exchanges result last ↦ Abides first last ∧
        match result with
        | .ok () =>
          first.bridge.Loads thread.id (env.loader? (issuedHandles exchanges)) last.bridge ∧
          (env.loader? (issuedHandles exchanges)).isSome = loader.isSome ∧
          deletedHandles exchanges = first.bridge.dueOf (first.bridge.thread thread.id).loader
        | .error _ => first.bridge.KeepsLoaders last.bridge ∧ issuedHandles exchanges = [] ∧
          deletedHandles exchanges = [] := by
  unfold setClassLoader
  cases loader with
  | none =>
    dsimp only
    rw [pure_bind]
    refine (ensures_replaceLoader none).weaken ?_
    rintro exchanges _ last ⟨rfl, habides, hloads, hissued, hdeleted⟩
    rw [hissued]
    exact ⟨habides, hloads, rfl, hdeleted⟩
  | some handle =>
    dsimp only
    rw [Fallible.ensures_bind, ExceptT.run_map, Program.ensures_map]
    unfold Env.newGlobal Fallible.nonNull Env.perform
    rw [pure_bind, Fallible.ensures_liftThen, Program.ensures_perform]
    rintro reply ⟨bridge, outside⟩ ⟨⟨hbridge, hlaw⟩, -⟩
    obtain rfl : bridge = first.bridge := hbridge
    obtain rfl : outside = first.outside := hlaw
    cases reply with
    | none =>
      dsimp only
      rw [Fallible.ensures_throw]
      exact ⟨.of_aside (.refl first) rfl, .refl _, rfl, rfl⟩
    | some copy =>
      dsimp only
      rw [Fallible.ensures_pure]
      refine (ensures_replaceLoader (some ⟨some copy, env.lifecycle, env.generation⟩)).weaken ?_
      rintro exchanges _ last ⟨rfl, habides, hloads, hissued, hdeleted⟩
      rw [issuedHandles_append, hissued, deletedHandles_append, hdeleted]
      exact ⟨habides, hloads, rfl, rfl⟩

/-! ## The exit of a thread -/

theorem Bridge.Loads.trans {thread : Nat} {loader other : Option GlobalReference}
    {before middle after : Bridge} (hfirst : before.Loads thread loader middle)
    (hlast : middle.Loads thread other after) : before.Loads thread other after where
  self := hlast.self
  others caller hcaller := (hlast.others caller hcaller).trans (hfirst.others caller hcaller)
  placed := hlast.placed ∘ hfirst.placed

section

variable (heldOutside : LifecycleId → Bool)

/-- A thread gives up its loader. -/
theorem ensures_vacate_given :
    Ensures Exchange.Welcomes thread (ThreadSlot.classLoader.vacate heldOutside) first
      fun exchanges _ last ↦ Abides first last ∧
        first.bridge.Loads thread.id none last.bridge ∧ issuedHandles exchanges = [] ∧
        deletedHandles exchanges = first.bridge.dueOf (first.bridge.thread thread.id).loader := by
  unfold ThreadSlot.vacate
  rw [Program.ensures_bind, Program.ensures_current, Program.ensures_bind, Program.ensures_state]
  dsimp only
  rw [Program.ensures_bind, Program.ensures_update]
  have haside : Aside first ⟨first.bridge.setThread thread.id
      { first.bridge.thread thread.id with loader := none }, first.outside⟩ :=
    aside_setThread rfl fun hslotted ↦ ⟨hslotted.nodup, hslotted.mem⟩
  have hloads : first.bridge.Loads thread.id none (first.bridge.setThread thread.id
      { first.bridge.thread thread.id with loader := none }) :=
    loads_setThread rfl fun hloader ↦ absurd hloader Bool.false_ne_true
  have hdropped := ensures_dropLoader_after haside rfl hloads
    (first.bridge.thread thread.id).loader
  generalize (first.bridge.thread thread.id).loader = previous at hdropped ⊢
  cases previous with
  | none => exact hdropped
  | some previous => exact hdropped

/-- What comes of giving up some slots of a thread. -/
structure Vacated (slots : List ThreadSlot) (thread : Nat) (first : Moment Presence)
    (exchanges : List (Exchange Presence)) (last : Moment Presence) : Prop where
  registered : ∀ id, (last.bridge.lifecycle id).registration =
    (first.bridge.lifecycle id).registration
  loads : first.bridge.Loads thread
    (if ThreadSlot.classLoader ∈ slots then none else (first.bridge.thread thread).loader)
    last.bridge
  deleted : deletedHandles exchanges = if ThreadSlot.classLoader ∈ slots then
    first.bridge.dueOf (first.bridge.thread thread).loader else []

/-- A thread runs its hooks, and its loader stays where it is. -/
theorem ensures_vacate_kept :
    Ensures Exchange.Welcomes thread (ThreadSlot.pendingDetaches.vacate heldOutside) first
      fun exchanges _ last ↦ (∀ id, (last.bridge.lifecycle id).registration =
          (first.bridge.lifecycle id).registration) ∧
        first.bridge.KeepsLoaders last.bridge ∧ deletedHandles exchanges = [] := by
  have hkeeps : Ensures Exchange.KeepsPresence thread
      (ThreadSlot.pendingDetaches.vacate heldOutside) first fun _ _ last ↦
        first.bridge.KeepsLoaders last.bridge := by
    unfold ThreadSlot.vacate
    rw [Program.ensures_bind, Program.ensures_current, Program.ensures_bind,
      Program.ensures_state]
    dsimp only
    rw [Program.ensures_bind, Program.ensures_update]
    have hhooks : ((first.bridge.thread thread.id).pending.forM fun hook ↦
        hook.run heldOutside).Writes Bridge.KeepsLoaders :=
      .forM fun hook ↦ hook.writes_run heldOutside
    have hunhooked : first.bridge.KeepsLoaders (first.bridge.unhooked thread.id) :=
      .setThread rfl (List.Subset.refl _)
    exact hhooks.keepsLoaders.weaken fun _ _ _ hlast ↦ hunhooked.trans hlast
  refine ((ensures_vacate_hooks heldOutside).welcomed.and (hkeeps.welcomed.and
    (ThreadSlot.official_vacate heldOutside).deletesNothing)).weaken ?_
  rintro exchanges _ last ⟨hvacates, hloaders, hdeleted⟩
  exact ⟨hvacates.registered, hloaders, hdeleted⟩

theorem ensures_slots_vacated (slots : List ThreadSlot) :
    Ensures Exchange.Welcomes thread (slots.forM fun slot ↦ slot.vacate heldOutside) first
      fun exchanges _ last ↦ Vacated slots thread.id first exchanges last := by
  induction slots generalizing first with
  | nil =>
    rw [List.forM_eq_forM, List.forM_nil, Program.ensures_pure]
    exact ⟨fun _ ↦ rfl, (Bridge.KeepsLoaders.refl _).loads _, rfl⟩
  | cons slot slots ih =>
    rw [List.forM_eq_forM, List.forM_cons, Program.ensures_bind]
    cases slot with
    | classLoader =>
      refine (ensures_vacate_given heldOutside).weaken ?_
      rintro begun _ middle ⟨habides, hloads, -, hdeleted⟩
      refine ih.weaken ?_
      rintro rest _ last ⟨hregistered, hloads', hdeleted'⟩
      rw [hloads.self, ite_self] at hloads'
      refine ⟨fun id ↦ (hregistered id).trans (habides.registered id), ?_, ?_⟩
      · rw [if_pos List.mem_cons_self]
        exact hloads.trans hloads'
      · rw [hloads.self] at hdeleted'
        rw [if_pos List.mem_cons_self, deletedHandles_append, hdeleted, hdeleted']
        split
        · exact List.append_nil _
        · exact List.append_nil _
    | pendingDetaches =>
      refine (ensures_vacate_kept heldOutside).weaken ?_
      rintro begun _ middle ⟨hregistered, hkeeps, hdeleted⟩
      refine ih.weaken ?_
      rintro rest _ last ⟨hregistered', hloads, hdeleted'⟩
      have hmem : ThreadSlot.classLoader ∈ ThreadSlot.pendingDetaches :: slots ↔
          ThreadSlot.classLoader ∈ slots := by simp
      rw [hkeeps.loader] at hloads hdeleted'
      refine ⟨fun id ↦ (hregistered' id).trans (hregistered id), ?_, ?_⟩
      · simp only [hmem]
        exact ((hkeeps.loads _).trans hloads)
      · simp only [hmem]
        rw [deletedHandles_append, hdeleted, hdeleted', dueOf_congr hregistered]
        rfl

theorem loads_erase (bridge : Bridge) (thread : Nat) :
    bridge.Loads thread none { bridge with threads := bridge.threads.erase thread } where
  self := by simp [Bridge.thread]
  others other hother := by simp [Bridge.thread, Store.find?_erase_of_ne _ hother]
  placed hplaced caller := by
    by_cases hcaller : caller = thread
    · simp [Bridge.thread, hcaller]
    · simp only [Bridge.thread, Store.find?_erase_of_ne _ hcaller]
      exact hplaced caller

/-- A thread that exits gives up its loader, whichever of its slots is the newer one. -/
theorem ensures_exitThread_given (hplaced : first.bridge.Placed) :
    Ensures Exchange.Welcomes thread (exitThread heldOutside) first fun exchanges _ last ↦
      last.bridge.thread thread.id = { } ∧
        (∀ id, (last.bridge.lifecycle id).registration =
          (first.bridge.lifecycle id).registration) ∧
        first.bridge.Loads thread.id none last.bridge ∧
        deletedHandles exchanges = first.bridge.dueOf (first.bridge.thread thread.id).loader := by
  unfold exitThread
  rw [Program.ensures_bind, Program.ensures_current, Program.ensures_bind, Program.ensures_state,
    Program.ensures_bind]
  refine (ensures_slots_vacated heldOutside _).weaken ?_
  rintro exchanges _ left ⟨hregistered, hloads, hdeleted⟩
  rw [Program.ensures_update]
  refine ⟨?_, hregistered, hloads.trans (loads_erase left.bridge thread.id), ?_⟩
  · simp [Bridge.thread]
  simp only [List.append_nil, List.nil_append]
  refine hdeleted.trans (ite_eq_left_iff.2 fun hnoslot ↦ ?_)
  rw [Option.not_isSome_iff_eq_none.1 fun hloader ↦ hnoslot (hplaced thread.id hloader)]
  rfl

end

/-! ## The exit of a thread that has a loader -/

/-- A lifecycle that a loader was issued under exists. -/
theorem refersTo_of_loader {bridge : Bridge} {thread : Nat} {loader : GlobalReference}
    (hloader : (bridge.thread thread).loader = some loader) :
    bridge.refersTo loader.lifecycle = true := by
  unfold Bridge.thread at hloader
  cases hfind : bridge.threads.find? thread with
  | none =>
    rw [hfind] at hloader
    cases hloader
  | some state =>
    rw [hfind] at hloader
    obtain ⟨entry, hentry, rfl⟩ := Option.map_eq_some_iff.1 hfind
    have hmem : entry.2 ∈ bridge.threads.values :=
      List.mem_map_of_mem (List.mem_of_find?_eq_some hentry)
    unfold Bridge.refersTo
    rw [Bool.or_eq_true_iff, List.any_eq_true]
    refine .inr ⟨entry.2, hmem, ?_⟩
    have hsome : entry.2.loader = some loader := hloader
    simp [hsome]

/-- A thread that is gone refers to nothing. -/
theorem refersTo_of_erase {bridge : Bridge} {thread : Nat} {id : LifecycleId}
    (hrefers : ({ bridge with threads := bridge.threads.erase thread } : Bridge).refersTo id =
      true) : bridge.refersTo id = true := by
  unfold Bridge.refersTo at hrefers ⊢
  rw [Bool.or_eq_true_iff, List.any_eq_true] at hrefers ⊢
  refine hrefers.imp_right fun ⟨state, hmem, hstate⟩ ↦ ⟨state, ?_, hstate⟩
  obtain ⟨entry, hentry, rfl⟩ := List.mem_map.1 hmem
  exact List.mem_map_of_mem (List.mem_filter.1 hentry).1

omit [Host] in
/-- The orders in which a thread that has a loader may give up its slots. -/
theorem slots_cases {slots : List ThreadSlot} (hnodup : slots.Nodup)
    (hloader : ThreadSlot.classLoader ∈ slots) :
    slots = [.classLoader] ∨ slots = [.classLoader, .pendingDetaches] ∨
      slots = [.pendingDetaches, .classLoader] := by
  rcases slots with _ | ⟨newest, _ | ⟨next, _ | ⟨third, rest⟩⟩⟩
  · exact absurd hloader List.not_mem_nil
  · exact .inl (congrArg ([·]) (List.mem_singleton.1 hloader).symm)
  · right
    cases newest <;> cases next <;> simp_all
  · -- There are only two kinds of slots.
    cases newest <;> cases next <;> cases third <;> simp_all

/-- A thread is attached under a registration only if it owes a detach there. -/
def Moment.Owes (moment : Moment Presence) (id : LifecycleId) (registration : Registration)
    (thread : Nat) : Prop :=
  (moment.outside registration.vm thread).isSome →
    ⟨id, registration.generation⟩ ∈ (moment.bridge.thread thread).pending

/-- The hooks of a thread that exits find a lifecycle in existence, or have nothing to do there.
The loader of the thread keeps its lifecycle in existence until it is given up. -/
def HooksFind (heldOutside : LifecycleId → Bool) (id : LifecycleId) (registration : Registration)
    (thread : Nat) (first last : Moment Presence) : Prop :=
  first.outside registration.vm thread = none ∨
    (first.bridge.thread thread).slots.head? = some .pendingDetaches ∨
      (heldOutside id || last.bridge.refersTo id) = true

/-- A thread that has a loader is not attached under its registration in the end, if its hooks find
the lifecycle.  Apart from that it does not matter which of its slots is the newer one. -/
theorem ensures_exitThread_departs_loader {heldOutside : LifecycleId → Bool}
    {loader : GlobalReference} {registration : Registration} (haccurate : Accurate first)
    (hplaced : first.bridge.Placed)
    (hloader : (first.bridge.thread thread.id).loader = some loader)
    (hregistered : (first.bridge.lifecycle loader.lifecycle).registration = some registration)
    (howes : first.Owes loader.lifecycle registration thread.id) :
    Ensures Exchange.Welcomes thread (exitThread heldOutside) first fun _ _ last ↦
      HooksFind heldOutside loader.lifecycle registration thread.id first last →
        last.tally loader.lifecycle registration thread.id =
          (first.tally loader.lifecycle registration thread.id).depart := by
  have hslotted := haccurate.slotted thread.id
  have hslots := slots_cases hslotted.nodup
    (hplaced thread.id (Option.isSome_of_eq_some hloader))
  unfold exitThread
  rw [Program.ensures_bind, Program.ensures_current, Program.ensures_bind, Program.ensures_state,
    Program.ensures_bind, List.forM_eq_forM]
  rcases hslots with hslots | hslots | hslots
  · -- Without a place for hooks the thread owes nothing, so it is not attached.
    rw [hslots, List.forM_cons, List.forM_nil, Program.ensures_bind]
    refine (ensures_vacate_given heldOutside).weaken ?_
    rintro begun _ left ⟨habides, -, -, -⟩
    obtain ⟨haside, hpresence⟩ := habides.aside haccurate
    rw [Program.ensures_pure, Program.ensures_update]
    intro _
    have habsent : first.outside registration.vm thread.id = none := by
      apply Option.not_isSome_iff_eq_none.1
      intro hpresent
      have hslot := hslotted.mem (List.ne_nil_of_mem (howes hpresent))
      rw [hslots, List.mem_singleton] at hslot
      cases hslot
    rw [depart_tally_of_absent habsent]
    exact tally_of_aside haside hpresence _ _ _
  · -- When the hooks run, the loader does not keep the lifecycle in existence any more.
    rw [hslots, List.forM_cons, List.forM_cons, List.forM_nil, Program.ensures_bind]
    refine (ensures_vacate_given heldOutside).weaken ?_
    rintro begun _ middle ⟨habides, -, -, -⟩
    obtain ⟨haside, hpresence⟩ := habides.aside haccurate
    rw [Program.ensures_bind]
    refine (ensures_vacate_unhooks heldOutside (haccurate.aside haside).apart).weaken ?_
    intro hooks _ left hunhooks
    rw [Program.ensures_pure, Program.ensures_update]
    intro hfind
    have hregistered' : (middle.bridge.lifecycle loader.lifecycle).registration =
        some registration := by
      rw [haside.lifecycle, hregistered]
    have howes' : (middle.outside registration.vm thread.id).isSome →
        ⟨loader.lifecycle, registration.generation⟩ ∈
          (middle.bridge.thread thread.id).pending := by
      rw [haside.pending, hpresence]
      exact howes
    have hdeparts := hunhooks.departs hregistered' howes' <| by
      rcases hfind with habsent | hnewest | hthere
      · exact .inr (hpresence ▸ habsent)
      · rw [hslots] at hnewest
        cases hnewest
      · rw [Bool.or_eq_true_iff] at hthere ⊢
        exact .inl (hthere.imp_right fun hrefers ↦
          (hunhooks.refersTo _).symm.trans (refersTo_of_erase hrefers))
    exact hdeparts.trans (congrArg Tally.depart (tally_of_aside haside hpresence _ _ _))
  · rw [hslots, List.forM_cons, List.forM_cons, List.forM_nil, Program.ensures_bind]
    refine ((ensures_vacate_unhooks heldOutside haccurate.apart).and
      (ensures_vacate_hooks heldOutside).welcomed).weaken ?_
    rintro hooks _ middle ⟨hunhooks, hvacates⟩
    rw [Program.ensures_bind]
    refine (ensures_vacate_given heldOutside).weaken ?_
    rintro begun _ left ⟨habides, -, -, -⟩
    obtain ⟨haside, hpresence⟩ := habides.aside (hvacates.accurate haccurate)
    rw [Program.ensures_pure, Program.ensures_update]
    intro _
    have hkept : (((first.bridge.unhooked thread.id).thread thread.id).loader) = some loader := by
      rw [Bridge.unhooked, Bridge.thread_setThread_self, hloader]
    have hexists : (heldOutside loader.lifecycle ||
        (first.bridge.unhooked thread.id).refersTo loader.lifecycle) = true := by
      rw [refersTo_of_loader hkept, Bool.or_true]
    have hdeparts := hunhooks.departs hregistered howes (.inl hexists)
    exact (tally_of_aside haside hpresence _ _ _).trans hdeparts

end JavaInterop
