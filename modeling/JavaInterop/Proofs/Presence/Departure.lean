import JavaInterop.Lifecycle.ThreadExit
import JavaInterop.Proofs.Presence.Accounts
import JavaInterop.Proofs.Presence.Conduct

/-!
# The exit of a thread

A thread that exits gives up its class loader and runs its hooks, in the order that its slots
prescribe.  Giving up the class loader leaves everyone where they are.  The hooks detach the thread
from every machine for which it owes this, once each, if the lifecycle still exists and has not gone
over to another machine, and from no other.

A hook does not look whether the thread is still attached because of the same registration.  That it
is follows from the books being in order.
-/

namespace JavaInterop

variable [Host]

open Program (Ensures)

/-! ## The class loader -/

section

variable {thread : NativeThread} {first : Moment Presence}

theorem ensures_vacate_loader (heldOutside : LifecycleId → Bool) :
    Ensures Exchange.KeepsPresence thread (ThreadSlot.classLoader.vacate heldOutside) first
      fun exchanges _ last ↦ Restores .brief thread.id first exchanges last := by
  unfold ThreadSlot.vacate
  rw [Program.ensures_bind, Program.ensures_current, Program.ensures_bind, Program.ensures_state]
  dsimp only
  rw [Program.ensures_bind, Program.ensures_update]
  have hunloaded : Restores .brief thread.id first [] ⟨first.bridge.setThread thread.id
      { first.bridge.thread thread.id with loader := none }, first.outside⟩ := by
    have haside : Aside first ⟨first.bridge.setThread thread.id
        { first.bridge.thread thread.id with loader := none }, first.outside⟩ :=
      aside_setThread rfl fun hslotted ↦ ⟨hslotted.nodup, hslotted.mem⟩
    refine ⟨.single (.aside haside allQuiet_nil), fun _ ↦ rfl,
      fun vm _ ↦ ⟨fun _ hmem ↦ absurd hmem List.not_mem_nil, rfl⟩, fun _ ↦ rfl⟩
  cases (first.bridge.thread thread.id).loader with
  | none =>
    dsimp only
    rw [Program.ensures_pure]
    exact hunloaded
  | some loader =>
    refine (ensures_drop_restores .brief loader rfl).weaken ?_
    intro exchanges _ last hdropped
    exact hunloaded.trans hdropped

theorem ensures_vacate_loaders (heldOutside : LifecycleId → Bool) {slots : List ThreadSlot}
    (hslots : ThreadSlot.pendingDetaches ∉ slots) :
    Ensures Exchange.KeepsPresence thread (slots.forM fun slot ↦ slot.vacate heldOutside) first
      fun exchanges _ last ↦ Restores .brief thread.id first exchanges last := by
  induction slots generalizing first with
  | nil =>
    rw [List.forM_eq_forM, List.forM_nil, Program.ensures_pure]
    exact .nothing
  | cons slot slots ih =>
    rw [List.mem_cons, not_or] at hslots
    cases slot with
    | pendingDetaches => exact absurd rfl hslots.1
    | classLoader =>
      rw [List.forM_eq_forM, List.forM_cons, Program.ensures_bind]
      refine (ensures_vacate_loader heldOutside).weaken ?_
      intro begun _ middle hbegun
      refine (ih hslots.2).weaken ?_
      intro rest _ last hrest
      exact hbegun.trans hrest

/-! ## The hooks -/

/-- The machine that a hook has to detach the thread from, if its lifecycle still exists and has not
gone over to another machine. -/
def PendingDetach.due? (hook : PendingDetach) (bridge : Bridge)
    (heldOutside : LifecycleId → Bool) : Option VmId :=
  if heldOutside hook.lifecycle || bridge.refersTo hook.lifecycle then
    (bridge.registered? hook.lifecycle hook.generation).map Registration.vm
  else none

/-- The thread is detached from these machines and from no others. -/
structure Clears (vms : List VmId) (thread : Nat) (first : Moment Presence)
    (exchanges : List (Exchange Presence)) (last : Moment Presence) : Prop where
  moves : Moves .brief thread first exchanges last
  registered : ∀ id, (last.bridge.lifecycle id).registration =
    (first.bridge.lifecycle id).registration
  refersTo : ∀ id, last.bridge.refersTo id = first.bridge.refersTo id
  spares : ∀ vm ∉ vms, last.outside vm = first.outside vm
  obliged : AllOblige exchanges → vms.Nodup → (∀ vm ∈ vms, (first.outside vm thread).isSome) →
    detachRequests exchanges = vms ∧ ∀ vm ∈ vms, last.outside vm thread = none

theorem Clears.nil {thread : Nat} : Clears [] thread first [] first :=
  ⟨.done first, fun _ ↦ rfl, fun _ ↦ rfl, fun _ _ ↦ rfl,
    fun _ _ _ ↦ ⟨rfl, fun _ hmem ↦ absurd hmem List.not_mem_nil⟩⟩

theorem Clears.append {vms others : List VmId} {thread : Nat} {middle last : Moment Presence}
    {begun rest : List (Exchange Presence)} (hfirst : Clears vms thread first begun middle)
    (hlast : Clears others thread middle rest last) :
    Clears (vms ++ others) thread first (begun ++ rest) last where
  moves := hfirst.moves.trans hlast.moves
  registered id := (hlast.registered id).trans (hfirst.registered id)
  refersTo id := (hlast.refersTo id).trans (hfirst.refersTo id)
  spares vm hvm := by
    rw [List.mem_append, not_or] at hvm
    exact (hlast.spares vm hvm.2).trans (hfirst.spares vm hvm.1)
  obliged hoblige hnodup hattached := by
    obtain ⟨hbegun, hrest⟩ := allOblige_append.1 hoblige
    obtain ⟨hvms, hothers, hdistinct⟩ := List.nodup_append.1 hnodup
    rw [List.forall_mem_append] at hattached
    obtain ⟨hrequests, hcleared⟩ := hfirst.obliged hbegun hvms hattached.1
    have hattached' : ∀ vm ∈ others, (middle.outside vm thread).isSome := by
      intro vm hvm
      rw [hfirst.spares vm fun hmem ↦ hdistinct vm hmem vm hvm rfl]
      exact hattached.2 vm hvm
    obtain ⟨hrequests', hcleared'⟩ := hlast.obliged hrest hothers hattached'
    refine ⟨by rw [detachRequests_append, hrequests, hrequests'], ?_⟩
    rw [List.forall_mem_append]
    refine ⟨fun vm hvm ↦ ?_, hcleared'⟩
    rw [hlast.spares vm fun hmem ↦ hdistinct vm hvm vm hmem rfl]
    exact hcleared vm hvm

theorem Clears.of_withdraws {id : LifecycleId} {registration : Registration} {thread : Nat}
    {last : Moment Presence} {exchanges : List (Exchange Presence)}
    (hwithdraws : Withdraws .brief id registration thread first exchanges last)
    (hrefersTo : ∀ other, last.bridge.refersTo other = first.bridge.refersTo other) :
    Clears [registration.vm] thread first exchanges last where
  moves := .single hwithdraws.move
  registered := hwithdraws.registered
  refersTo := hrefersTo
  spares vm hvm := (hwithdraws.only vm fun hsame ↦ hvm (List.mem_singleton.2 hsame)).2
  obliged hoblige _ hattached := by
    obtain ⟨hlast, hrequests⟩ := hwithdraws.obliged hoblige
    rw [List.forall_mem_singleton] at hattached
    rw [if_pos hattached] at hrequests
    refine ⟨hrequests, List.forall_mem_singleton.2 ?_⟩
    rw [hlast, Presence.put_self]

theorem Clears.due? {vms : List VmId} {thread : Nat} {last : Moment Presence}
    {exchanges : List (Exchange Presence)} (hclears : Clears vms thread first exchanges last)
    (hook : PendingDetach) (heldOutside : LifecycleId → Bool) :
    hook.due? last.bridge heldOutside = hook.due? first.bridge heldOutside := by
  unfold PendingDetach.due? Bridge.registered?
  rw [hclears.refersTo, hclears.registered]

/-- A hook of a thread that has given up its list. -/
theorem ensures_hook (hook : PendingDetach) (heldOutside : LifecycleId → Bool)
    (hcleared : (first.bridge.thread thread.id).pending = []) :
    Ensures Exchange.KeepsPresence thread (hook.run heldOutside) first fun exchanges _ last ↦
      Clears (hook.due? first.bridge heldOutside).toList thread.id first exchanges last := by
  unfold PendingDetach.run PendingDetach.due? LifecycleId.registered?
  rw [Program.ensures_bind, Program.ensures_state]
  split
  · rw [Program.ensures_bind, Program.ensures_look]
    cases hlive : first.bridge.registered? hook.lifecycle hook.generation with
    | none =>
      dsimp only
      rw [Program.ensures_pure]
      exact .nil
    | some registration =>
      have hregistered := (Option.filter_eq_some_iff.1 hlive).1
      have hnothing : first.bridge.Rebooks thread.id
          (·.filter (· ≠ ⟨hook.lifecycle, registration.generation⟩)) first.bridge := by
        apply Bridge.Rebooks.of_same
        rw [hcleared, List.filter_nil]
      refine (ensures_detach_cleared .brief hregistered hnothing).weaken ?_
      rintro exchanges _ last ⟨hwithdraws, hrefersTo⟩
      exact .of_withdraws hwithdraws hrefersTo
  · rw [Program.ensures_pure]
    exact .nil

theorem ensures_hooks (hooks : List PendingDetach) (heldOutside : LifecycleId → Bool)
    (hcleared : (first.bridge.thread thread.id).pending = []) :
    Ensures Exchange.KeepsPresence thread (hooks.forM fun hook ↦ hook.run heldOutside) first
      fun exchanges _ last ↦
        Clears (hooks.filterMap (·.due? first.bridge heldOutside)) thread.id first exchanges
          last := by
  induction hooks generalizing first with
  | nil =>
    rw [List.forM_eq_forM, List.forM_nil, Program.ensures_pure]
    exact .nil
  | cons hook hooks ih =>
    rw [List.forM_eq_forM, List.forM_cons, Program.ensures_bind]
    refine (ensures_hook hook heldOutside hcleared).weaken ?_
    intro begun _ middle hbegun
    have hcleared' : (middle.bridge.thread thread.id).pending = [] := by
      have hfewer := hbegun.moves.pending_sublist thread.id
      rw [hcleared] at hfewer
      exact List.sublist_nil.1 hfewer
    refine (ih hcleared').weaken ?_
    intro rest _ last hrest
    simp only [hbegun.due?] at hrest
    have hboth := hbegun.append hrest
    rw [List.filterMap_cons]
    cases hdue : hook.due? first.bridge heldOutside with
    | none =>
      rw [hdue] at hboth
      exact hboth
    | some vm =>
      rw [hdue] at hboth
      exact hboth

/-- What the hooks of a thread come to. -/
def Vacates (heldOutside : LifecycleId → Bool) (thread : Nat) (first : Moment Presence)
    (exchanges : List (Exchange Presence)) (last : Moment Presence) : Prop :=
  ∃ bridge, first.bridge.Rebooks thread (fun _ ↦ []) bridge ∧
    Clears ((first.bridge.thread thread).pending.filterMap (·.due? bridge heldOutside)) thread
      ⟨bridge, first.outside⟩ exchanges last

theorem ensures_vacate_hooks (heldOutside : LifecycleId → Bool) :
    Ensures Exchange.KeepsPresence thread (ThreadSlot.pendingDetaches.vacate heldOutside) first
      fun exchanges _ last ↦ Vacates heldOutside thread.id first exchanges last := by
  unfold ThreadSlot.vacate
  rw [Program.ensures_bind, Program.ensures_current, Program.ensures_bind, Program.ensures_state]
  dsimp only
  rw [Program.ensures_bind, Program.ensures_update]
  have hbooks : first.bridge.Rebooks thread.id (fun _ ↦ []) (first.bridge.setThread thread.id
      { first.bridge.thread thread.id with pending := [] }) :=
    .setThread rfl fun hslotted ↦ ⟨hslotted.nodup, fun hpending ↦ absurd rfl hpending⟩
  refine (ensures_hooks _ heldOutside hbooks.self).weaken ?_
  intro exchanges _ last hclears
  exact ⟨_, hbooks, hclears⟩

/-! ## The whole exit -/

section

variable {ω : Type} {heldOutside : LifecycleId → Bool} {begun last : Moment ω}
  {exchanges : List (Exchange ω)}

/-- What is left of the exit of a thread that still has to give up some slots. -/
def exitWith (heldOutside : LifecycleId → Bool) (thread : Nat) (slots : List ThreadSlot) :
    Program Unit := do
  slots.forM fun slot ↦ slot.vacate heldOutside
  Program.update fun bridge ↦ { bridge with threads := bridge.threads.erase thread }

theorem run_exitThread (hrun : (exitThread heldOutside).Run thread begun exchanges () last) :
    (exitWith heldOutside thread.id (begun.bridge.thread thread.id).slots).Run thread begun
      exchanges () last := by
  cases hrun with
  | thread hrun =>
    cases hrun with
    | read hrun => exact hrun

/-- The parts of the exit of a thread, with the calls that its hooks make and the moment when they
have run.  Newer slots are given up before, and older ones after that. -/
inductive ExitParts (heldOutside : LifecycleId → Bool) (thread : NativeThread) (first : Moment ω) :
    List (Exchange ω) → Moment ω → List (Exchange ω) → Moment ω → Prop
  /-- The thread has no place for hooks. -/
  | free {exchanges : List (Exchange ω)} {last : Moment ω}
      (hfree : ThreadSlot.pendingDetaches ∉ (first.bridge.thread thread.id).slots)
      (hrun : (exitWith heldOutside thread.id (first.bridge.thread thread.id).slots).Run thread
        first exchanges () last) :
      ExitParts heldOutside thread first exchanges last [] last
  | hooked {newer older : List ThreadSlot} {begun hooks rest : List (Exchange ω)}
      {middle done last : Moment ω}
      (hslots : (first.bridge.thread thread.id).slots =
        newer ++ ThreadSlot.pendingDetaches :: older)
      (hnewer : ThreadSlot.pendingDetaches ∉ newer)
      (holder : ThreadSlot.pendingDetaches ∉ older)
      (hbegun : (newer.forM fun slot ↦ slot.vacate heldOutside).Run thread first begun () middle)
      (hhooks : (ThreadSlot.pendingDetaches.vacate heldOutside).Run thread middle hooks () done)
      (hrest : (exitWith heldOutside thread.id older).Run thread done rest () last) :
      ExitParts heldOutside thread first (begun ++ hooks ++ rest) last hooks done

/-- Every exit consists of these parts. -/
theorem exists_exitParts (hrun : (exitThread heldOutside).Run thread begun exchanges () last)
    (hnodup : (begun.bridge.thread thread.id).slots.Nodup) :
    ∃ hooks done, ExitParts heldOutside thread begun exchanges last hooks done := by
  replace hrun := run_exitThread hrun
  by_cases hslot : ThreadSlot.pendingDetaches ∈ (begun.bridge.thread thread.id).slots
  · obtain ⟨newer, older, hslots⟩ := List.append_of_mem hslot
    have hdistinct := hnodup
    rw [hslots, List.nodup_append] at hdistinct
    obtain ⟨-, holder, hnewer⟩ := hdistinct
    have hparts : exitWith heldOutside thread.id (begun.bridge.thread thread.id).slots = (do
        newer.forM fun slot ↦ slot.vacate heldOutside
        ThreadSlot.pendingDetaches.vacate heldOutside
        exitWith heldOutside thread.id older) := by
      unfold exitWith
      rw [hslots]
      simp only [List.forM_eq_forM, List.forM_append, List.forM_cons, bind_assoc]
    rw [hparts] at hrun
    obtain ⟨calls, _, middle, _, hbegun, hlater, rfl⟩ := hrun.of_bind
    obtain ⟨hooks, _, done, rest, hhooks, hrest, rfl⟩ := hlater.of_bind
    rw [← List.append_assoc]
    exact ⟨hooks, done, .hooked hslots (fun hmem ↦ hnewer _ hmem _ List.mem_cons_self rfl)
      (List.nodup_cons.1 holder).1 hbegun hhooks hrest⟩
  · exact ⟨[], last, .free hslot hrun⟩

end

/-- A thread without hooks is gone, and everyone is where they were. -/
def Vanishes (thread : Nat) (first : Moment Presence) (exchanges : List (Exchange Presence))
    (last : Moment Presence) : Prop :=
  ∃ left, Restores .brief thread first exchanges left ∧
    left.bridge.Rebooks thread (fun _ ↦ []) last.bridge ∧ last.outside = left.outside

/-- What a thread does that exits.  A thread that has no place for hooks owes nothing. -/
inductive Departs (heldOutside : LifecycleId → Bool) (thread : NativeThread)
    (first : Moment Presence) : List (Exchange Presence) → Moment Presence → Prop
  | free {exchanges : List (Exchange Presence)} {last : Moment Presence}
      (hparts : ExitParts heldOutside thread first exchanges last [] last)
      (hfree : ThreadSlot.pendingDetaches ∉ (first.bridge.thread thread.id).slots)
      (hvanishes : Vanishes thread.id first exchanges last) :
      Departs heldOutside thread first exchanges last
  | hooked {begun hooks rest : List (Exchange Presence)} {middle done last : Moment Presence}
      (hparts : ExitParts heldOutside thread first (begun ++ hooks ++ rest) last hooks done)
      (hopens : Restores .brief thread.id first begun middle)
      (hvacates : Vacates heldOutside thread.id middle hooks done)
      (hvanishes : Vanishes thread.id done rest last) :
      Departs heldOutside thread first (begun ++ hooks ++ rest) last

/-- Nothing is left of a thread. -/
theorem rebooks_erase (bridge : Bridge) (thread : Nat) :
    bridge.Rebooks thread (fun _ ↦ []) { bridge with threads := bridge.threads.erase thread } := by
  have hself : ({ bridge with threads := bridge.threads.erase thread } : Bridge).thread thread =
      { } := by
    simp [Bridge.thread]
  have hother : ∀ other, other ≠ thread →
      ({ bridge with threads := bridge.threads.erase thread } : Bridge).thread other =
        bridge.thread other := by
    intro other hne
    simp [Bridge.thread, Store.find?_erase_of_ne _ hne]
  refine ⟨fun _ ↦ rfl, rfl, rfl, fun other ↦ ?_, fun hslotted other ↦ ?_⟩
  · split
    · rename_i hsame
      rw [hsame, hself]
    · rename_i hne
      rw [hother other hne]
  · by_cases hsame : other = thread
    · rw [hsame, hself]
      exact ⟨List.nodup_nil, fun hpending ↦ absurd rfl hpending⟩
    · rw [hother other hsame]
      exact hslotted other

theorem ensures_exitWith_vanishes (heldOutside : LifecycleId → Bool) {slots : List ThreadSlot}
    (hslots : ThreadSlot.pendingDetaches ∉ slots) :
    Ensures Exchange.KeepsPresence thread (exitWith heldOutside thread.id slots) first
      fun exchanges _ last ↦ Vanishes thread.id first exchanges last := by
  unfold exitWith
  rw [Program.ensures_bind]
  refine (ensures_vacate_loaders heldOutside hslots).weaken ?_
  intro exchanges _ left hrestores
  rw [Program.ensures_update, List.append_nil]
  exact ⟨left, hrestores, rebooks_erase _ _, rfl⟩

theorem ensures_exitThread_departs (heldOutside : LifecycleId → Bool)
    (hslotted : first.bridge.Slotted) :
    Ensures Exchange.KeepsPresence thread (exitThread heldOutside) first
      fun exchanges _ last ↦ Departs heldOutside thread first exchanges last := by
  intro exchanges _ last hrun hlaw
  obtain ⟨hooks, done, hparts⟩ := exists_exitParts hrun (hslotted thread.id).nodup
  cases hparts with
  | free hfree hrun =>
    exact .free (.free hfree hrun) hfree
      (ensures_exitWith_vanishes heldOutside hfree _ _ _ hrun hlaw)
  | hooked hslots hnewer holder hbegun hhooks hrest =>
    rw [List.forall_mem_append, List.forall_mem_append] at hlaw
    exact .hooked (.hooked hslots hnewer holder hbegun hhooks hrest)
      (ensures_vacate_loaders heldOutside hnewer _ _ _ hbegun hlaw.1.1)
      (ensures_vacate_hooks heldOutside _ _ _ hhooks hlaw.1.2)
      (ensures_exitWith_vanishes heldOutside holder _ _ _ hrest hlaw.2)

/-! ## The books after an exit -/

namespace Vacates

variable {heldOutside : LifecycleId → Bool} {thread : Nat} {first last : Moment Presence}
  {exchanges : List (Exchange Presence)}

theorem registered (hvacates : Vacates heldOutside thread first exchanges last)
    (id : LifecycleId) :
    (last.bridge.lifecycle id).registration = (first.bridge.lifecycle id).registration := by
  obtain ⟨bridge, hbridge, hclears⟩ := hvacates
  rw [hclears.registered, hbridge.lifecycle]

theorem proceeds (hvacates : Vacates heldOutside thread first exchanges last) :
    Proceeds first.bridge last.bridge := by
  obtain ⟨bridge, hbridge, hclears⟩ := hvacates
  exact hbridge.proceeds.trans hclears.moves.proceeds

theorem accurate (hvacates : Vacates heldOutside thread first exchanges last)
    (haccurate : Accurate first) : Accurate last := by
  obtain ⟨bridge, hbridge, hclears⟩ := hvacates
  exact hclears.moves.accurate (haccurate.owesLess hbridge fun _ ↦ List.nil_sublist _)

theorem exact (hvacates : Vacates heldOutside thread first exchanges last)
    (haccurate : Accurate first) {id : LifecycleId} {registration : Registration}
    (hregistered : (last.bridge.lifecycle id).registration = some registration)
    (hfirst : (first.bridge.lifecycle id).registration = some registration →
      first.Exact id registration)
    (hnone : ∀ exchange ∈ exchanges, ¬ exchange.Dismisses id registration) :
    last.Exact id registration := by
  obtain ⟨bridge, hbridge, hclears⟩ := hvacates
  have hcleared := haccurate.owesLess hbridge fun _ ↦ List.nil_sublist _
  apply hclears.moves.exact hcleared hregistered _ hnone
  unfold Moment.Exact
  rw [hbridge.lifecycle]
  exact hfirst

theorem inOrder (hvacates : Vacates heldOutside thread first exchanges last)
    (haccurate : Accurate first) : ∀ exchange ∈ exchanges, HooksInOrder exchange.before := by
  obtain ⟨bridge, hbridge, hclears⟩ := hvacates
  exact hclears.moves.inOrder (haccurate.owesLess hbridge fun _ ↦ List.nil_sublist _)

theorem pending_of_ne (hvacates : Vacates heldOutside thread first exchanges last) {caller : Nat}
    (hcaller : caller ≠ thread) :
    (last.bridge.thread caller).pending = (first.bridge.thread caller).pending := by
  obtain ⟨bridge, hbridge, hclears⟩ := hvacates
  exact (hclears.moves.pending_of_ne hcaller).trans (hbridge.other hcaller)

/-- A hook is due exactly if the lifecycle exists and the registration is still there. -/
theorem due_iff {hook : PendingDetach} {bridge : Bridge} {vm : VmId} :
    hook.due? bridge heldOutside = some vm ↔
      (heldOutside hook.lifecycle || bridge.refersTo hook.lifecycle) = true ∧
      ∃ registration, (bridge.lifecycle hook.lifecycle).registration = some registration ∧
        registration.generation = hook.generation ∧ registration.vm = vm := by
  unfold PendingDetach.due? Bridge.registered?
  rw [Option.ite_none_right_eq_some]
  apply and_congr_right
  intro _
  rw [Option.map_eq_some_iff]
  simp only [Option.filter_eq_some_iff, beq_iff_eq, and_assoc]

/-- The hooks detach the thread from every machine for which it owes this, once each, and from no
other. -/
theorem hooksDetach (hvacates : Vacates heldOutside thread first exchanges last)
    (haccurate : Accurate first) (hoblige : AllOblige exchanges) :
    (∀ id registration, (first.bridge.lifecycle id).registration = some registration →
      ⟨id, registration.generation⟩ ∈ (first.bridge.thread thread).pending →
      (heldOutside id || last.bridge.refersTo id) = true →
        (detachRequests exchanges).count registration.vm = 1 ∧
          last.outside registration.vm thread = none) ∧
    ∀ vm ∈ detachRequests exchanges, ∃ id registration,
      (first.bridge.lifecycle id).registration = some registration ∧ registration.vm = vm ∧
        ⟨id, registration.generation⟩ ∈ (first.bridge.thread thread).pending ∧
        (heldOutside id || last.bridge.refersTo id) = true := by
  obtain ⟨bridge, hbridge, hclears⟩ := hvacates
  generalize hvms : (first.bridge.thread thread).pending.filterMap (·.due? bridge heldOutside) =
    vms at hclears
  have hdue : ∀ vm, vm ∈ vms ↔ ∃ id registration,
      (first.bridge.lifecycle id).registration = some registration ∧ registration.vm = vm ∧
        ⟨id, registration.generation⟩ ∈ (first.bridge.thread thread).pending ∧
        (heldOutside id || last.bridge.refersTo id) = true := by
    intro vm
    rw [← hvms, List.mem_filterMap]
    constructor
    · rintro ⟨hook, hmem, hdue⟩
      obtain ⟨hexists, registration, hregistered, hgeneration, hvm⟩ := due_iff.1 hdue
      rw [hbridge.lifecycle] at hregistered
      rw [← hclears.refersTo] at hexists
      exact ⟨hook.lifecycle, registration, hregistered, hvm, hgeneration ▸ hmem, hexists⟩
    · rintro ⟨id, registration, hregistered, hvm, howes, hexists⟩
      rw [hclears.refersTo] at hexists
      rw [← hbridge.lifecycle] at hregistered
      exact ⟨_, howes, due_iff.2 ⟨hexists, registration, hregistered, rfl, hvm⟩⟩
  have hnodup : vms.Nodup := by
    rw [← hvms]
    refine (haccurate.once thread).filterMap ?_
    intro hook other vm hhook hother
    obtain ⟨-, registration, hregistered, hgeneration, hvm⟩ := due_iff.1 hhook
    obtain ⟨-, registration', hregistered', hgeneration', hvm'⟩ := due_iff.1 hother
    rw [hbridge.lifecycle] at hregistered hregistered'
    have hlifecycle := haccurate.apart _ _ _ _ hregistered hregistered' (hvm.trans hvm'.symm)
    rw [hlifecycle] at hregistered
    obtain rfl := Option.some.inj (hregistered.symm.trans hregistered')
    cases hook
    cases other
    exact congrArg₂ PendingDetach.mk hlifecycle (hgeneration.symm.trans hgeneration')
  have hattached : ∀ vm ∈ vms, (first.outside vm thread).isSome := by
    intro vm hvm
    obtain ⟨id, registration, hregistered, rfl, howes, -⟩ := (hdue vm).1 hvm
    exact haccurate.isSome hregistered howes
  obtain ⟨hrequests, hcleared⟩ := hclears.obliged hoblige hnodup hattached
  rw [hrequests]
  refine ⟨fun id registration hregistered howes hexists ↦ ?_, fun vm hvm ↦ (hdue vm).1 hvm⟩
  have hmem : registration.vm ∈ vms :=
    (hdue _).2 ⟨id, registration, hregistered, rfl, howes, hexists⟩
  exact ⟨List.count_eq_one_of_mem hnodup hmem, hcleared _ hmem⟩

end Vacates

namespace Vanishes

variable {thread : Nat} {first last : Moment Presence} {exchanges : List (Exchange Presence)}

theorem accurate (hvanishes : Vanishes thread first exchanges last) (haccurate : Accurate first) :
    Accurate last := by
  obtain ⟨left, hrestores, hgone, hpresence⟩ := hvanishes
  have hlast := (hrestores.moves.accurate haccurate).owesLess hgone fun _ ↦ List.nil_sublist _
  rwa [← hpresence] at hlast

theorem inOrder (hvanishes : Vanishes thread first exchanges last) (haccurate : Accurate first) :
    ∀ exchange ∈ exchanges, HooksInOrder exchange.before := by
  obtain ⟨left, hrestores, -, -⟩ := hvanishes
  exact hrestores.moves.inOrder haccurate

theorem pending_of_ne (hvanishes : Vanishes thread first exchanges last) {caller : Nat}
    (hcaller : caller ≠ thread) :
    (last.bridge.thread caller).pending = (first.bridge.thread caller).pending := by
  obtain ⟨left, hrestores, hgone, -⟩ := hvanishes
  exact (hgone.other hcaller).trans (hrestores.moves.pending_of_ne hcaller)

theorem pending_self (hvanishes : Vanishes thread first exchanges last) :
    (last.bridge.thread thread).pending = [] := by
  obtain ⟨left, -, hgone, -⟩ := hvanishes
  exact hgone.self

theorem registered (hvanishes : Vanishes thread first exchanges last) (id : LifecycleId) :
    (last.bridge.lifecycle id).registration = (first.bridge.lifecycle id).registration := by
  obtain ⟨left, hrestores, hgone, -⟩ := hvanishes
  rw [hgone.lifecycle, hrestores.registered]

theorem proceeds (hvanishes : Vanishes thread first exchanges last) :
    Proceeds first.bridge last.bridge := by
  obtain ⟨left, hrestores, hgone, -⟩ := hvanishes
  exact hrestores.moves.proceeds.trans hgone.proceeds

theorem exact (hvanishes : Vanishes thread first exchanges last) (haccurate : Accurate first)
    {id : LifecycleId} {registration : Registration}
    (hregistered : (last.bridge.lifecycle id).registration = some registration)
    (hfirst : (first.bridge.lifecycle id).registration = some registration →
      first.Exact id registration)
    (hnone : ∀ exchange ∈ exchanges, ¬ exchange.Dismisses id registration) :
    last.Exact id registration := by
  obtain ⟨left, hrestores, hgone, hpresence⟩ := hvanishes
  unfold Moment.Exact
  rw [hgone.lifecycle] at hregistered ⊢
  rw [hpresence]
  exact hrestores.moves.exact haccurate hregistered hfirst hnone

theorem outside (hvanishes : Vanishes thread first exchanges last)
    (hoblige : AllOblige exchanges) : last.outside = first.outside := by
  obtain ⟨left, hrestores, -, hpresence⟩ := hvanishes
  rw [hpresence, hrestores.obliged hoblige]

end Vanishes

namespace Departs

variable {heldOutside : LifecycleId → Bool} {thread : NativeThread} {first last : Moment Presence}
  {exchanges : List (Exchange Presence)}

theorem accurate (hdeparts : Departs heldOutside thread first exchanges last)
    (haccurate : Accurate first) : Accurate last := by
  cases hdeparts with
  | free _ _ hvanishes => exact hvanishes.accurate haccurate
  | hooked _ hopens hvacates hvanishes =>
    exact hvanishes.accurate (hvacates.accurate (hopens.moves.accurate haccurate))

theorem inOrder (hdeparts : Departs heldOutside thread first exchanges last)
    (haccurate : Accurate first) : ∀ exchange ∈ exchanges, HooksInOrder exchange.before := by
  cases hdeparts with
  | free _ _ hvanishes => exact hvanishes.inOrder haccurate
  | hooked _ hopens hvacates hvanishes =>
    have hmiddle := hopens.moves.accurate haccurate
    rw [List.forall_mem_append, List.forall_mem_append]
    exact ⟨⟨hopens.moves.inOrder haccurate, hvacates.inOrder hmiddle⟩,
      hvanishes.inOrder (hvacates.accurate hmiddle)⟩

theorem pending_of_ne (hdeparts : Departs heldOutside thread first exchanges last) {caller : Nat}
    (hcaller : caller ≠ thread.id) :
    (last.bridge.thread caller).pending = (first.bridge.thread caller).pending := by
  cases hdeparts with
  | free _ _ hvanishes => exact hvanishes.pending_of_ne hcaller
  | hooked _ hopens hvacates hvanishes =>
    calc (last.bridge.thread caller).pending
      _ = _ := hvanishes.pending_of_ne hcaller
      _ = _ := hvacates.pending_of_ne hcaller
      _ = _ := hopens.moves.pending_of_ne hcaller

theorem pending_self (hdeparts : Departs heldOutside thread first exchanges last) :
    (last.bridge.thread thread.id).pending = [] := by
  cases hdeparts with
  | free _ _ hvanishes => exact hvanishes.pending_self
  | hooked _ _ _ hvanishes => exact hvanishes.pending_self

theorem registered (hdeparts : Departs heldOutside thread first exchanges last)
    (id : LifecycleId) :
    (last.bridge.lifecycle id).registration = (first.bridge.lifecycle id).registration := by
  cases hdeparts with
  | free _ _ hvanishes => exact hvanishes.registered id
  | hooked _ hopens hvacates hvanishes =>
    rw [hvanishes.registered, hvacates.registered, hopens.registered]

theorem proceeds (hdeparts : Departs heldOutside thread first exchanges last) :
    Proceeds first.bridge last.bridge := by
  refine ⟨?_, fun id registration hregistered ↦ .inl (hdeparts.registered id ▸ hregistered)⟩
  cases hdeparts with
  | free _ _ hvanishes => exact hvanishes.proceeds.nextGeneration
  | hooked _ hopens hvacates hvanishes =>
    exact ((hopens.moves.proceeds.trans hvacates.proceeds).trans hvanishes.proceeds).nextGeneration

theorem exact (hdeparts : Departs heldOutside thread first exchanges last)
    (haccurate : Accurate first) {id : LifecycleId} {registration : Registration}
    (hregistered : (last.bridge.lifecycle id).registration = some registration)
    (hfirst : first.Exact id registration)
    (hnone : ∀ exchange ∈ exchanges, ¬ exchange.Dismisses id registration) :
    last.Exact id registration := by
  cases hdeparts with
  | free _ _ hvanishes => exact hvanishes.exact haccurate hregistered (fun _ ↦ hfirst) hnone
  | hooked _ hopens hvacates hvanishes =>
    rw [List.forall_mem_append, List.forall_mem_append] at hnone
    have hmiddle := hopens.moves.accurate haccurate
    apply hvanishes.exact (hvacates.accurate hmiddle) hregistered _ hnone.2
    intro hdone
    apply hvacates.exact hmiddle hdone _ hnone.1.2
    intro hopened
    exact hopens.moves.exact haccurate hopened (fun _ ↦ hfirst) hnone.1.1

end Departs

/-! ## Who is detached -/

/-- What the hooks of a thread detach at its exit, from the first moment of it to the last one.
They have run at the moment `done`.  A lifecycle that is not referred to any more then has ceased to
exist. -/
structure HooksDetach (heldOutside : LifecycleId → Bool) (thread : Nat)
    (owed : LifecycleId → Registration → Prop) (first done last : Moment Presence)
    (hooks : List (Exchange Presence)) : Prop where
  /-- The thread is detached where this is owed, and stays so. -/
  once : ∀ id registration, (first.bridge.lifecycle id).registration = some registration →
    owed id registration → (heldOutside id || done.bridge.refersTo id) = true →
      (detachRequests hooks).count registration.vm = 1 ∧
        done.outside registration.vm thread = none ∧
        last.outside registration.vm thread = none
  /-- The thread is not detached from any other machine. -/
  only : ∀ vm ∈ detachRequests hooks, ∃ id registration,
    (first.bridge.lifecycle id).registration = some registration ∧ registration.vm = vm ∧
      owed id registration ∧ (heldOutside id || done.bridge.refersTo id) = true

/-- A thread that exits runs its hooks in their place, and what they detach is what is owed. -/
def RunsHooks (heldOutside : LifecycleId → Bool) (thread : NativeThread)
    (owed : LifecycleId → Registration → Prop) (first : Moment Presence)
    (exchanges : List (Exchange Presence)) (last : Moment Presence) : Prop :=
  ∃ hooks done, ExitParts heldOutside thread first exchanges last hooks done ∧
    HooksDetach heldOutside thread.id owed first done last hooks

theorem RunsHooks.congr {heldOutside : LifecycleId → Bool} {thread : NativeThread}
    {owed owed' : LifecycleId → Registration → Prop} {first last : Moment Presence}
    {exchanges : List (Exchange Presence)}
    (hruns : RunsHooks heldOutside thread owed first exchanges last)
    (hsame : ∀ id registration, (first.bridge.lifecycle id).registration = some registration →
      (owed id registration ↔ owed' id registration)) :
    RunsHooks heldOutside thread owed' first exchanges last := by
  obtain ⟨hooks, done, hparts, honce, honly⟩ := hruns
  refine ⟨hooks, done, hparts, ?_, ?_⟩
  · intro id registration hregistered howed
    exact honce id registration hregistered ((hsame id registration hregistered).2 howed)
  · intro vm hvm
    obtain ⟨id, registration, hregistered, heq, howed, hexists⟩ := honly vm hvm
    exact ⟨id, registration, hregistered, heq, (hsame id registration hregistered).1 howed,
      hexists⟩

/-- Every hook of a registration that is still there is honoured. -/
theorem Departs.runsHooks {heldOutside : LifecycleId → Bool} {thread : NativeThread}
    {first last : Moment Presence} {exchanges : List (Exchange Presence)}
    (hdeparts : Departs heldOutside thread first exchanges last) (haccurate : Accurate first)
    (hoblige : AllOblige exchanges) :
    RunsHooks heldOutside thread (fun id registration ↦
      ⟨id, registration.generation⟩ ∈ (first.bridge.thread thread.id).pending)
      first exchanges last := by
  cases hdeparts with
  | free hparts hfree _ =>
    have hnothing : (first.bridge.thread thread.id).pending = [] := by
      by_contra howes
      exact hfree ((haccurate.slotted thread.id).mem howes)
    refine ⟨[], last, hparts, ?_, ?_⟩
    · intro id registration _ howes
      rw [hnothing] at howes
      exact absurd howes List.not_mem_nil
    · exact fun vm hvm ↦ absurd hvm List.not_mem_nil
  | @hooked begun hooks rest middle done _ hparts hopens hvacates hvanishes =>
    rw [allOblige_append, allOblige_append] at hoblige
    obtain ⟨⟨hbegun, hhooks⟩, hrest⟩ := hoblige
    -- Nothing of what is owed is done before the hooks run.
    have hkept : ∀ id registration,
        (first.bridge.lifecycle id).registration = some registration →
        (⟨id, registration.generation⟩ ∈ (middle.bridge.thread thread.id).pending ↔
          ⟨id, registration.generation⟩ ∈ (first.bridge.thread thread.id).pending) := by
      intro id registration hregistered
      have hmiddle := (hopens.registered id).trans hregistered
      rw [hopens.moves.owes_iff haccurate hbegun hmiddle]
      apply and_iff_left_of_imp
      intro howes
      exact (hopens.stays _ (haccurate.isSome hregistered howes)).1
    obtain ⟨honce, honly⟩ := hvacates.hooksDetach (hopens.moves.accurate haccurate) hhooks
    refine ⟨hooks, done, hparts, ?_, ?_⟩
    · intro id registration hregistered howes hexists
      have hmiddle := (hopens.registered id).trans hregistered
      obtain ⟨hcount, hdone⟩ := honce id registration hmiddle
        ((hkept id registration hregistered).2 howes) hexists
      refine ⟨hcount, hdone, ?_⟩
      rw [hvanishes.outside hrest]
      exact hdone
    · intro vm hvm
      obtain ⟨id, registration, hmiddle, heq, howes, hexists⟩ := honly vm hvm
      have hregistered := (hopens.registered id).symm.trans hmiddle
      exact ⟨id, registration, hregistered, heq, (hkept id registration hregistered).1 howes,
        hexists⟩

end

end JavaInterop
