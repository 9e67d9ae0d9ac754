import JavaInterop.Proofs.Lifecycle.Attachments
import Mathlib.Data.Set.Card

/-!
# Who is attached where

Each machine knows which threads are attached to it, and the bridge keeps two accounts of its own:
how many threads it has attached for each lifecycle, and which detaches each thread owes when it
exits.  Nobody compares these accounts with what the machine knows.

Here it is said once what an operation can do to all three.  A *move* is one step of a thread: it is
attached or detached under a registration, an account is given up, or a machine is registered or
forgotten.  Whether a machine grants what it is asked for is left open, and an attachment that was
made by someone else is not told from one that was made through the bridge, except by when it began.

Operations are atomic: those of different threads follow each other, and the bridge does not change
during a call.  An operation keeps what is registered in its lifecycle while it runs, and the hooks
of a thread are its own.  What may still come in between when two threads really run at once, such
as an attachment after a registration was taken out and before the counter is set back to zero, is
not considered.  Lending an environment and taking it back are two operations.
-/

namespace JavaInterop

/-- Since when each thread has been attached to each machine, told by the generation that the next
registration was to get at that time. -/
abbrev Presence := VmId → Nat → Option Nat

namespace Presence

/-- The same presence, but for one thread and one machine. -/
def put (presence : Presence) (vm : VmId) (thread : Nat) (since : Option Nat) : Presence :=
  fun other caller ↦ if other = vm ∧ caller = thread then since else presence other caller

variable (presence : Presence) {vm other : VmId} {thread caller : Nat} (since : Option Nat)

@[simp]
theorem put_self : presence.put vm thread since vm thread = since := by
  simp [put]

theorem put_of_vm_ne (h : other ≠ vm) :
    presence.put vm thread since other caller = presence other caller := by
  simp [put, h]

theorem put_of_thread_ne (h : caller ≠ thread) :
    presence.put vm thread since other caller = presence other caller := by
  simp [put, h]

theorem put_put (later : Option Nat) :
    (presence.put vm thread since).put vm thread later = presence.put vm thread later := by
  funext other caller
  unfold put
  split
  · rfl
  · rfl

theorem put_eq_self (h : presence vm thread = since) : presence.put vm thread since = presence := by
  funext other caller
  unfold put
  split
  · rename_i hsame
    rw [hsame.1, hsame.2, h]
  · rfl

/-- The threads that were attached to the registered machine after it was registered. -/
def residents (registration : Registration) : Set Nat :=
  {thread | ∃ since, presence registration.vm thread = some since ∧
    registration.generation < since}

section

variable {presence : Presence} {since : Option Nat} {registration : Registration}

/-- Who was attached before the machine was registered does not count. -/
theorem residents_eq_empty (hpast : ∀ thread since, presence registration.vm thread = some since →
    since ≤ registration.generation) : presence.residents registration = ∅ := by
  ext thread
  constructor
  · rintro ⟨since, hsince, hlater⟩
    have hbefore := hpast thread since hsince
    omega
  · exact fun hmem ↦ absurd hmem (Set.notMem_empty thread)

theorem residents_eq_singleton {thread : Nat}
    (honly : ∀ caller since, presence registration.vm caller = some since →
      caller = thread ∧ registration.generation < since)
    (hpresent : (presence registration.vm thread).isSome) :
    presence.residents registration = {thread} := by
  obtain ⟨since, hsince⟩ := Option.isSome_iff_exists.1 hpresent
  ext caller
  constructor
  · rintro ⟨begun, hbegun, -⟩
    exact (honly caller begun hbegun).1
  · rintro rfl
    exact ⟨since, hsince, (honly caller since hsince).2⟩

theorem residents_congr {later : Presence}
    (hsame : ∀ thread, later registration.vm thread = presence registration.vm thread) :
    later.residents registration = presence.residents registration := by
  ext thread
  unfold residents
  simp only [hsame]

theorem residents_put_of_ne (hvm : registration.vm ≠ vm) :
    (presence.put vm thread since).residents registration = presence.residents registration :=
  residents_congr fun _ ↦ presence.put_of_vm_ne since hvm

theorem mem_residents_put (hcaller : caller ≠ thread) :
    caller ∈ (presence.put vm thread since).residents registration ↔
      caller ∈ presence.residents registration := by
  unfold residents
  rw [Set.mem_ofPred_eq, Set.mem_ofPred_eq, presence.put_of_thread_ne _ hcaller]

theorem residents_put_some {since : Nat} (hlater : registration.generation < since) :
    (presence.put registration.vm thread (some since)).residents registration =
      insert thread (presence.residents registration) := by
  ext other
  by_cases hother : other = thread
  · rw [hother]
    exact iff_of_true ⟨since, presence.put_self _, hlater⟩ (Set.mem_insert thread _)
  · unfold residents
    simp [hother, presence.put_of_thread_ne _ hother]

theorem residents_put_none :
    (presence.put registration.vm thread none).residents registration =
      presence.residents registration \ {thread} := by
  ext other
  by_cases hother : other = thread
  · unfold residents
    simp [hother]
  · unfold residents
    simp [hother, presence.put_of_thread_ne _ hother]

end

end Presence

variable [Host]

/-- The machine is registered in some lifecycle. -/
def Bridge.Hosts (bridge : Bridge) (vm : VmId) : Prop :=
  ∃ id registration, (bridge.lifecycle id).registration = some registration ∧ registration.vm = vm

/-- Every machine is registered in one lifecycle only. -/
def Bridge.Apart (bridge : Bridge) : Prop :=
  ∀ id other registration registration', (bridge.lifecycle id).registration = some registration →
    (bridge.lifecycle other).registration = some registration' →
    registration.vm = registration'.vm → id = other

/-- Whatever is still registered has not changed. -/
theorem lifecycle_forget {bridge : Bridge} {id other : LifecycleId} {registration : Registration}
    (hregistered : ((bridge.forget id).lifecycle other).registration = some registration) :
    (bridge.forget id).lifecycle other = bridge.lifecycle other := by
  unfold Bridge.forget at hregistered ⊢
  by_cases hother : other = id
  · rw [hother, Bridge.lifecycle_setLifecycle_self] at hregistered
    cases hregistered
  · exact Bridge.lifecycle_setLifecycle_of_ne _ _ hother

theorem not_hosts_forget {bridge : Bridge} {id : LifecycleId} {registration : Registration}
    (hapart : bridge.Apart) (hregistered : (bridge.lifecycle id).registration = some registration) :
    ¬ (bridge.forget id).Hosts registration.vm := by
  rintro ⟨other, registration', hother, hvm⟩
  have hsame := lifecycle_forget hother
  rw [hsame] at hother
  obtain rfl := hapart other id registration' registration hother hregistered hvm
  unfold Bridge.forget at hsame
  rw [Bridge.lifecycle_setLifecycle_self] at hsame
  rw [← hsame] at hother
  cases hother

/-! ## What machines do -/

/-- What happens to the presence of threads in a call.  A thread that is attached is not told that
it is not, and one that is not gets no environment.  A machine that was just created is registered
nowhere yet, and nobody but its creator is attached to it. -/
def PresenceLaw (caller : Nat) (before : Moment Presence) (after : Presence) :
    (request : Call) → request.Reply → Prop
  | .getEnv vm _, reply => after = before.outside ∧
    ((before.outside vm caller).isSome → reply ≠ .error .threadDetached) ∧
    (before.outside vm caller = none → ∃ status, reply = .error status)
  | .attach vm _, reply =>
    (∀ pointer, reply = .ok pointer →
      after = before.outside.put vm caller (some before.bridge.nextGeneration)) ∧
    ∀ status, reply = .error status → after = before.outside
  | .detach vm, reply =>
    (reply = .ok () → after = before.outside.put vm caller none) ∧
    ∀ status, reply = .error status → after = before.outside
  | .create _, reply =>
    (∀ vm, reply = .ok (some vm) → ¬ before.bridge.Hosts vm ∧
      (∀ other, other ≠ vm → after other = before.outside other) ∧
      ∀ thread since, after vm thread = some since →
        thread = caller ∧ since = before.bridge.nextGeneration + 1) ∧
    ((∀ vm, reply ≠ .ok (some vm)) → after = before.outside)
  | .destroy vm, _ => ∀ other thread,
    after other thread = before.outside other thread ∨ other = vm ∧ after other thread = none
  | .list _, _ | .env _ _, _ => after = before.outside

namespace Exchange

/-- What may be relied on in a call. -/
structure KeepsPresence (exchange : Exchange Presence) : Prop where
  bridge : exchange.after.bridge = exchange.before.bridge
  law : PresenceLaw exchange.caller.id exchange.before exchange.after.outside exchange.request
    exchange.reply

/-- A thread that is attached is told its environment, and no thread is kept from detaching. -/
def Obliging : Exchange Presence → Prop
  | ⟨caller, .getEnv vm _, reply, before, _⟩ =>
    (before.outside vm caller.id).isSome → ∃ pointer, reply = .ok pointer
  | ⟨_, .detach _, reply, _, _⟩ => reply = .ok ()
  | _ => True

variable {ω : Type}

/-- The detachment of a thread from a machine, which has succeeded. -/
def Detaches (vm : VmId) : Exchange ω → Prop
  | ⟨_, .detach asked, reply, _, _⟩ => asked = vm ∧ reply = .ok ()
  | _ => False

/-- A thread is detached from one machine at a time. -/
theorem Detaches.unique {exchange : Exchange ω} {vm other : VmId} (hvm : exchange.Detaches vm)
    (hother : exchange.Detaches other) : vm = other := by
  obtain ⟨caller, request, reply, before, after⟩ := exchange
  cases request with
  | detach asked => exact hvm.1.symm.trans hother.1
  | _ => exact hvm.elim

/-- Which machine has attached a thread. -/
def attaching? : Exchange ω → Option VmId
  | ⟨_, .attach vm _, .ok _, _, _⟩ => some vm
  | _ => none

theorem attaches_iff {exchange : Exchange ω} {vm : VmId} :
    exchange.Attaches vm ↔ exchange.attaching? = some vm := by
  obtain ⟨caller, request, reply, before, after⟩ := exchange
  cases request with
  | attach asked request => cases reply <;> simp [Attaches, attaching?]
  | _ => simp [Attaches, attaching?]

/-- Which machine is asked to detach a thread. -/
def detaching? : Exchange ω → Option VmId
  | ⟨_, .detach vm, _, _, _⟩ => some vm
  | _ => none

theorem Detaches.detaching? {exchange : Exchange ω} {vm : VmId} (hvm : exchange.Detaches vm) :
    exchange.detaching? = some vm := by
  obtain ⟨caller, request, reply, before, after⟩ := exchange
  cases request with
  | detach asked => exact congrArg some hvm.1
  | _ => exact hvm.elim

/-- Nobody is attached or detached. -/
structure Quiet (exchange : Exchange ω) : Prop where
  attaches : ∀ vm, ¬ exchange.Attaches vm
  detaches : ∀ vm, ¬ exchange.Detaches vm

end Exchange

/-- Every machine lets threads go and tells them their environment. -/
def AllOblige (exchanges : List (Exchange Presence)) : Prop :=
  ∀ exchange ∈ exchanges, exchange.Obliging

theorem allOblige_append {begun rest : List (Exchange Presence)} :
    AllOblige (begun ++ rest) ↔ AllOblige begun ∧ AllOblige rest :=
  List.forall_mem_append

/-! ## The accounts of the bridge -/

/-- What a thread owes is where its exit looks for it. -/
structure ThreadState.Slotted (state : ThreadState) : Prop where
  nodup : state.slots.Nodup
  mem : state.pending ≠ [] → ThreadSlot.pendingDetaches ∈ state.slots

/-- Every thread keeps what it owes where its exit looks for it. -/
def Bridge.Slotted (bridge : Bridge) : Prop := ∀ thread, (bridge.thread thread).Slotted

omit [Host] in
theorem mem_touch (state : ThreadState) (slot : ThreadSlot) : slot ∈ (state.touch slot).slots := by
  unfold ThreadState.touch
  split
  · assumption
  · exact List.mem_cons_self

omit [Host] in
theorem nodup_touch {state : ThreadState} (slot : ThreadSlot) (hnodup : state.slots.Nodup) :
    (state.touch slot).slots.Nodup := by
  unfold ThreadState.touch
  split
  · exact hnodup
  · rename_i hnew
    exact List.nodup_cons.2 ⟨hnew, hnodup⟩

omit [Host] in
theorem subset_touch (state : ThreadState) (slot : ThreadSlot) :
    state.slots ⊆ (state.touch slot).slots := by
  unfold ThreadState.touch
  split
  · exact List.Subset.refl _
  · exact List.subset_cons_self _ _

theorem slotted_setThread {bridge : Bridge} {thread : Nat} {state : ThreadState}
    (hbridge : bridge.Slotted) (hstate : state.Slotted) :
    (bridge.setThread thread state).Slotted := by
  intro other
  by_cases hother : other = thread
  · rw [hother, Bridge.thread_setThread_self]
    exact hstate
  · rw [Bridge.thread_setThread_of_ne _ _ hother]
    exact hbridge other

/-- What one thread owes has changed, and nothing else that is accounted for. -/
structure Bridge.Rebooks (thread : Nat) (change : List PendingDetach → List PendingDetach)
    (before after : Bridge) : Prop where
  lifecycle : ∀ id, after.lifecycle id = before.lifecycle id
  gone : after.gone = before.gone
  nextGeneration : after.nextGeneration = before.nextGeneration
  pending : ∀ other, (after.thread other).pending =
    if other = thread then change (before.thread other).pending else (before.thread other).pending
  slotted : before.Slotted → after.Slotted

namespace Bridge.Rebooks

variable {thread : Nat} {change : List PendingDetach → List PendingDetach} {before after : Bridge}

theorem of_same
    (hpending : change (before.thread thread).pending = (before.thread thread).pending) :
    before.Rebooks thread change before where
  lifecycle _ := rfl
  gone := rfl
  nextGeneration := rfl
  pending other := by
    split
    · rename_i hother
      rw [hother, hpending]
    · rfl
  slotted := id

theorem setThread {state : ThreadState}
    (hpending : state.pending = change (before.thread thread).pending)
    (hslotted : (before.thread thread).Slotted → state.Slotted) :
    before.Rebooks thread change (before.setThread thread state) where
  lifecycle _ := rfl
  gone := rfl
  nextGeneration := rfl
  pending other := by
    split
    · rename_i hother
      rw [hother, Bridge.thread_setThread_self, hpending]
    · rename_i hother
      rw [Bridge.thread_setThread_of_ne _ _ hother]
  slotted hbefore := slotted_setThread hbefore (hslotted (hbefore thread))

/-- A thread that changes what it owes has a place for it from then on. -/
theorem rehook : before.Rebooks thread change (before.rehook thread change) := by
  apply setThread
  · rw [touch_pending]
  · intro hslotted
    exact ⟨nodup_touch _ hslotted.nodup, fun _ ↦ mem_touch _ _⟩

theorem self (hrebooks : before.Rebooks thread change after) :
    (after.thread thread).pending = change (before.thread thread).pending := by
  rw [hrebooks.pending, if_pos rfl]

theorem other (hrebooks : before.Rebooks thread change after) {other : Nat}
    (hother : other ≠ thread) :
    (after.thread other).pending = (before.thread other).pending := by
  rw [hrebooks.pending, if_neg hother]

/-- What is owed to other lifecycles stays owed when a detach is cancelled. -/
theorem spares {id : LifecycleId} {generation : Nat}
    (hrebooks : before.Rebooks thread (·.filter (· ≠ ⟨id, generation⟩)) after)
    (caller : Nat) (other : LifecycleId) (later : Nat) (hother : other ≠ id) :
    ⟨other, later⟩ ∈ (after.thread caller).pending ↔
      ⟨other, later⟩ ∈ (before.thread caller).pending := by
  rw [hrebooks.pending]
  split
  · simp [hother]
  · rfl

/-- Nobody counts threads by what they owe. -/
theorem recount (hrebooks : before.Rebooks thread change after) (id : LifecycleId)
    (count : Nat → Nat) :
    (before.recount id count).Rebooks thread change (after.recount id count) where
  lifecycle other := by
    by_cases hother : other = id
    · simp [Bridge.recount, hother, hrebooks.lifecycle]
    · rw [lifecycle_recount_of_ne _ _ hother, lifecycle_recount_of_ne _ _ hother,
        hrebooks.lifecycle]
  gone := hrebooks.gone
  nextGeneration := hrebooks.nextGeneration
  pending := hrebooks.pending
  slotted := hrebooks.slotted

end Bridge.Rebooks

/-! ## Machines that are registered, and others -/

/-- Nothing has happened that concerns a registered machine or an account of the bridge.  Whoever
was attached to another machine meanwhile began before the next registration. -/
structure Aside (first last : Moment Presence) : Prop where
  lifecycle : ∀ id, last.bridge.lifecycle id = first.bridge.lifecycle id
  /-- Lifecycles without a machine may cease to exist. -/
  gone : ∀ id ∈ last.bridge.gone,
    id ∈ first.bridge.gone ∨ (first.bridge.lifecycle id).registration = none
  nextGeneration : first.bridge.nextGeneration ≤ last.bridge.nextGeneration
  pending : ∀ thread, (last.bridge.thread thread).pending = (first.bridge.thread thread).pending
  slotted : first.bridge.Slotted → last.bridge.Slotted
  presence : ∀ vm thread, last.outside vm thread = first.outside vm thread ∨
    ¬ first.bridge.Hosts vm ∧
      ∀ since, last.outside vm thread = some since → since ≤ last.bridge.nextGeneration

theorem Aside.refl (moment : Moment Presence) : Aside moment moment :=
  ⟨fun _ ↦ rfl, fun _ ↦ .inl, Nat.le_refl _, fun _ ↦ rfl, id, fun _ _ ↦ .inl rfl⟩

theorem Aside.trans {first middle last : Moment Presence} (hfirst : Aside first middle)
    (hlast : Aside middle last) : Aside first last where
  lifecycle id := (hlast.lifecycle id).trans (hfirst.lifecycle id)
  gone id hgone := by
    rcases hlast.gone id hgone with hmiddle | hvacant
    · exact hfirst.gone id hmiddle
    · exact .inr (hfirst.lifecycle id ▸ hvacant)
  nextGeneration := hfirst.nextGeneration.trans hlast.nextGeneration
  pending thread := (hlast.pending thread).trans (hfirst.pending thread)
  slotted := hlast.slotted ∘ hfirst.slotted
  presence vm thread := by
    have hhosts : middle.bridge.Hosts vm ↔ first.bridge.Hosts vm := by
      unfold Bridge.Hosts
      simp only [hfirst.lifecycle]
    rcases hlast.presence vm thread with hsame | ⟨hfree, hpast⟩
    · rw [hsame]
      refine (hfirst.presence vm thread).imp_right fun ⟨hfree, hpast⟩ ↦ ⟨hfree, ?_⟩
      exact fun since hsince ↦ (hpast since hsince).trans hlast.nextGeneration
    · exact .inr ⟨hhosts.not.1 hfree, hpast⟩

/-- What a thread keeps has changed, but not what it owes. -/
theorem aside_setThread {moment : Moment Presence} {thread : Nat} {state : ThreadState}
    (hpending : state.pending = (moment.bridge.thread thread).pending)
    (hslotted : (moment.bridge.thread thread).Slotted → state.Slotted) :
    Aside moment ⟨moment.bridge.setThread thread state, moment.outside⟩ := by
  have hbooks : moment.bridge.Rebooks thread (fun pending ↦ pending)
      (moment.bridge.setThread thread state) := .setThread hpending hslotted
  refine ⟨hbooks.lifecycle, fun _ ↦ .inl, hbooks.nextGeneration.ge, fun caller ↦ ?_,
    hbooks.slotted, fun _ _ ↦ .inl rfl⟩
  rw [hbooks.pending, ite_self]

/-- A thread has another class loader. -/
theorem aside_setLoader (moment : Moment Presence) (thread : Nat)
    (loader : Option GlobalReference) :
    Aside moment ⟨moment.bridge.setThread thread
      { (moment.bridge.thread thread).touch .classLoader with loader := loader },
      moment.outside⟩ := by
  refine aside_setThread (touch_pending _ _) fun hslotted ↦ ⟨nodup_touch _ hslotted.nodup, ?_⟩
  intro howes
  rw [touch_pending] at howes
  exact subset_touch _ _ (hslotted.mem howes)

/-- A machine is registered.  Nobody else has registered it, and the threads that are attached under
the new registration are counted; this can only be the one that registers it. -/
structure Registers (id : LifecycleId) (registration : Registration)
    (first last : Moment Presence) : Prop where
  vacant : (first.bridge.lifecycle id).registration = none
  extant : id ∉ first.bridge.gone
  free : ¬ first.bridge.Hosts registration.vm
  generation : registration.generation = first.bridge.nextGeneration
  registered : (last.bridge.lifecycle id).registration = some registration
  lifecycle : ∀ other, other ≠ id → last.bridge.lifecycle other = first.bridge.lifecycle other
  gone : last.bridge.gone = first.bridge.gone
  nextGeneration : last.bridge.nextGeneration = first.bridge.nextGeneration + 1
  pending : ∀ thread, (last.bridge.thread thread).pending = (first.bridge.thread thread).pending
  slotted : first.bridge.Slotted → last.bridge.Slotted
  presence : ∀ vm, vm ≠ registration.vm → last.outside vm = first.outside vm
  past : ∀ thread since, last.outside registration.vm thread = some since →
    since ≤ last.bridge.nextGeneration
  only : ∀ caller ∈ last.outside.residents registration, caller = registration.creator
  finite : (last.outside.residents registration).Finite
  counted : (last.bridge.lifecycle id).attached = (last.outside.residents registration).ncard

/-- Whatever is registered now is the new registration, or nothing has changed for it. -/
theorem Registers.eq_or_same {id other : LifecycleId} {registration registration' : Registration}
    {first last : Moment Presence} (hregisters : Registers id registration first last)
    (hregistered : (last.bridge.lifecycle other).registration = some registration') :
    other = id ∧ registration' = registration ∨
      last.bridge.lifecycle other = first.bridge.lifecycle other ∧
        registration'.vm ≠ registration.vm ∧
        last.outside.residents registration' = first.outside.residents registration' := by
  by_cases hother : other = id
  · subst hother
    exact .inl ⟨rfl, Option.some.inj (hregistered.symm.trans hregisters.registered)⟩
  · have hsame := hregisters.lifecycle other hother
    have hvm : registration'.vm ≠ registration.vm := fun hvm ↦
      hregisters.free ⟨other, registration', hsame ▸ hregistered, hvm⟩
    refine .inr ⟨hsame, hvm, Presence.residents_congr fun thread ↦ ?_⟩
    rw [hregisters.presence _ hvm]

/-- Nobody has come to a registered machine or left it. -/
theorem Aside.residents {first last : Moment Presence} (haside : Aside first last)
    {id : LifecycleId} {registration : Registration}
    (hregistered : (first.bridge.lifecycle id).registration = some registration) :
    last.outside.residents registration = first.outside.residents registration := by
  apply Presence.residents_congr
  intro thread
  rcases haside.presence registration.vm thread with hsame | ⟨hfree, -⟩
  · exact hsame
  · exact absurd ⟨id, registration, hregistered, rfl⟩ hfree

/-! ## Calls of a step -/

/-- What a call finds in the course of a step: less may be registered than before, threads may owe
less, and nobody has come to a registered machine or left it. -/
structure Within (first moment : Moment Presence) : Prop where
  registered : ∀ id registration,
    (moment.bridge.lifecycle id).registration = some registration →
      (first.bridge.lifecycle id).registration = some registration
  pending : ∀ thread,
    (moment.bridge.thread thread).pending.Sublist (first.bridge.thread thread).pending
  residents : ∀ id registration,
    (moment.bridge.lifecycle id).registration = some registration →
      moment.outside.residents registration = first.outside.residents registration

namespace Within

variable {first middle last : Moment Presence}

theorem refl (moment : Moment Presence) : Within moment moment :=
  ⟨fun _ _ h ↦ h, fun _ ↦ List.Sublist.refl _, fun _ _ _ ↦ rfl⟩

theorem trans (hfirst : Within first middle) (hlast : Within middle last) : Within first last where
  registered id registration hregistered :=
    hfirst.registered id registration (hlast.registered id registration hregistered)
  pending thread := (hlast.pending thread).trans (hfirst.pending thread)
  residents id registration hregistered :=
    (hlast.residents id registration hregistered).trans
      (hfirst.residents id registration (hlast.registered id registration hregistered))

/-- A thread owes less. -/
theorem of_rebooks {thread : Nat} {change : List PendingDetach → List PendingDetach}
    {bridge : Bridge} (hbridge : first.bridge.Rebooks thread change bridge)
    (hfewer : ∀ pending, (change pending).Sublist pending) :
    Within first ⟨bridge, first.outside⟩ where
  registered id registration hregistered := by
    rwa [hbridge.lifecycle] at hregistered
  pending other := by
    rw [hbridge.pending]
    split
    · exact hfewer _
    · exact List.Sublist.refl _
  residents _ _ _ := rfl

/-- Threads come and go at a machine that is registered nowhere. -/
theorem of_newcomer {vm : VmId} (hfree : ¬ first.bridge.Hosts vm)
    (hregistered : ∀ id, (last.bridge.lifecycle id).registration =
      (first.bridge.lifecycle id).registration)
    (hpending : ∀ thread,
      (last.bridge.thread thread).pending = (first.bridge.thread thread).pending)
    (hpresence : ∀ other, other ≠ vm → last.outside other = first.outside other) :
    Within first last where
  registered id registration hmem := by
    rwa [hregistered] at hmem
  pending thread := by
    rw [hpending]
  residents id registration hmem := by
    rw [hregistered] at hmem
    apply Presence.residents_congr
    intro thread
    rw [hpresence _ fun hvm ↦ hfree ⟨id, registration, hmem, hvm⟩]

end Within

/-- Among these calls nobody is attached or detached. -/
def AllQuiet (first : Moment Presence) (exchanges : List (Exchange Presence)) : Prop :=
  ∀ exchange ∈ exchanges, exchange.Quiet ∧ Within first exchange.before

/-- Among these calls nobody is detached. -/
def AllStay (first : Moment Presence) (exchanges : List (Exchange Presence)) : Prop :=
  ∀ exchange ∈ exchanges, (∀ vm, ¬ exchange.Detaches vm) ∧ Within first exchange.before

section

variable {first middle : Moment Presence} {begun rest exchanges : List (Exchange Presence)}

theorem allQuiet_nil : AllQuiet first [] := fun _ hmem ↦ absurd hmem List.not_mem_nil

theorem allQuiet_append :
    AllQuiet first (begun ++ rest) ↔ AllQuiet first begun ∧ AllQuiet first rest :=
  List.forall_mem_append

theorem allStay_append :
    AllStay first (begun ++ rest) ↔ AllStay first begun ∧ AllStay first rest :=
  List.forall_mem_append

theorem AllQuiet.allStay (hquiet : AllQuiet first exchanges) : AllStay first exchanges :=
  fun exchange hmem ↦ ⟨(hquiet exchange hmem).1.detaches, (hquiet exchange hmem).2⟩

theorem AllQuiet.of_within (hquiet : AllQuiet middle exchanges) (hwithin : Within first middle) :
    AllQuiet first exchanges :=
  fun exchange hmem ↦ ⟨(hquiet exchange hmem).1, hwithin.trans (hquiet exchange hmem).2⟩

theorem AllStay.of_within (hstays : AllStay middle exchanges) (hwithin : Within first middle) :
    AllStay first exchanges :=
  fun exchange hmem ↦ ⟨(hstays exchange hmem).1, hwithin.trans (hstays exchange hmem).2⟩

end

/-! ## Moves -/

/-- How a thread is attached, if it has to be attached. -/
inductive Manner where
  /-- It stays attached until it is told otherwise, or exits. -/
  | lasting
  /-- It is left to whoever had it attached to detach it again. -/
  | brief

def Manner.isBrief : Manner → Bool
  | lasting => false
  | brief => true

/-- How a thread is attached for good.  Nothing can be left with one that is exiting. -/
def NativeThread.manner (thread : NativeThread) : Manner :=
  if thread.isExiting then .brief else .lasting

omit [Host] in
theorem NativeThread.isBrief_manner (thread : NativeThread) :
    thread.manner.isBrief = thread.isExiting := by
  unfold NativeThread.manner
  cases thread.isExiting with
  | true => rfl
  | false => rfl

omit [Host] in
theorem NativeThread.manner_eq_lasting {thread : NativeThread} (hstays : thread.isExiting = false) :
    thread.manner = .lasting := by
  rw [NativeThread.manner, hstays, if_neg Bool.false_ne_true]

/-- What a thread owes after it was attached under a registration.  If it owes one more detach,
those to lifecycles that have ceased to exist are cleared away. -/
def Manner.owing (manner : Manner) (bridge : Bridge) (thread : Nat) (id : LifecycleId)
    (registration : Registration) (pending : List PendingDetach) : List PendingDetach :=
  if thread = registration.creator ∨ manner.isBrief then pending
  else bridge.alive pending ++ [⟨id, registration.generation⟩]

section

variable {manner : Manner} {bridge : Bridge} {thread : Nat} {id : LifecycleId}
  {registration : Registration} {pending : List PendingDetach}

@[simp]
theorem Manner.owing_brief :
    Manner.brief.owing bridge thread id registration pending = pending :=
  if_pos (.inr rfl)

@[simp]
theorem Manner.owing_creator :
    manner.owing bridge registration.creator id registration pending = pending :=
  if_pos (.inl rfl)

/-- Only a thread that was attached by somebody else, and for good, owes one more detach. -/
theorem Manner.mem_owing {hook : PendingDetach}
    (hmem : hook ∈ manner.owing bridge thread id registration pending) :
    hook ∈ pending ∨ thread ≠ registration.creator ∧ hook = ⟨id, registration.generation⟩ := by
  unfold Manner.owing at hmem
  split at hmem
  · exact .inl hmem
  · rename_i hlasting
    rw [List.mem_append, List.mem_singleton] at hmem
    exact hmem.imp (fun hkept ↦ (List.mem_filter.1 hkept).1)
      fun hnew ↦ ⟨fun hcreator ↦ hlasting (.inl hcreator), hnew⟩

/-- What is owed to a lifecycle that still exists stays owed. -/
theorem Manner.mem_owing_lasting {hook : PendingDetach} (hextant : hook.lifecycle ∉ bridge.gone) :
    hook ∈ Manner.lasting.owing bridge thread id registration pending ↔
      hook ∈ pending ∨ thread ≠ registration.creator ∧ hook = ⟨id, registration.generation⟩ := by
  refine ⟨Manner.mem_owing, fun hmem ↦ ?_⟩
  unfold Manner.owing
  split
  · rename_i hcreator
    rcases hmem with hold | ⟨hother, -⟩
    · exact hold
    · exact absurd hcreator (not_or.2 ⟨hother, Bool.false_ne_true⟩)
  · rw [List.mem_append, List.mem_singleton]
    exact hmem.imp (fun hold ↦ List.mem_filter.2 ⟨hold, decide_eq_true hextant⟩) And.right

theorem Manner.nodup_owing (honce : pending.Nodup)
    (hnew : ⟨id, registration.generation⟩ ∉ pending) :
    (manner.owing bridge thread id registration pending).Nodup := by
  unfold Manner.owing
  split
  · exact honce
  · refine List.nodup_append.2 ⟨honce.filter _, List.nodup_singleton _, ?_⟩
    rintro hook hkept other hmem rfl
    rw [List.mem_singleton] at hmem
    exact hnew (hmem ▸ (List.mem_filter.1 hkept).1)

end

/-- One step of a thread, with the calls that it takes. -/
inductive Move (manner : Manner) (thread : Nat) :
    Moment Presence → List (Exchange Presence) → Moment Presence → Prop
  | aside {first last : Moment Presence} {exchanges : List (Exchange Presence)}
      (haside : Aside first last) (hquiet : AllQuiet first exchanges) :
      Move manner thread first exchanges last
  | attach {first : Moment Presence} {exchanges : List (Exchange Presence)} {id : LifecycleId}
      {registration : Registration} {bridge : Bridge}
      (hregistered : (first.bridge.lifecycle id).registration = some registration)
      (habsent : first.outside registration.vm thread = none)
      (hbridge : first.bridge.Rebooks thread (manner.owing first.bridge thread id registration)
        bridge)
      (hattaches : ∃ exchange ∈ exchanges, exchange.Attaches registration.vm)
      (hstays : AllStay first exchanges) :
      Move manner thread first exchanges ⟨bridge.recount id (· + 1),
        first.outside.put registration.vm thread (some first.bridge.nextGeneration)⟩
  /-- The thread was not attached, or the machine did not let it go. -/
  | cancel {first : Moment Presence} {exchanges : List (Exchange Presence)} {id : LifecycleId}
      {registration : Registration} {bridge : Bridge}
      (hregistered : (first.bridge.lifecycle id).registration = some registration)
      (hbridge : first.bridge.Rebooks thread
        (·.filter (· ≠ ⟨id, registration.generation⟩)) bridge)
      (hreason : first.outside registration.vm thread = none ∨
        ∃ exchange ∈ exchanges, ¬ exchange.Obliging)
      (hquiet : AllQuiet first exchanges) :
      Move manner thread first exchanges ⟨bridge, first.outside⟩
  | detach {first : Moment Presence} {begun : List (Exchange Presence)}
      {exchange : Exchange Presence} {id : LifecycleId}
      {registration : Registration} {bridge : Bridge}
      (hregistered : (first.bridge.lifecycle id).registration = some registration)
      (hbridge : first.bridge.Rebooks thread
        (·.filter (· ≠ ⟨id, registration.generation⟩)) bridge)
      (hbegun : AllQuiet first begun) (hwithin : Within first exchange.before)
      (hdetaches : exchange.Detaches registration.vm) (hcaller : exchange.caller.id = thread)
      (hbefore : (exchange.before.bridge.lifecycle id).registration = some registration)
      (hpresence : exchange.before.outside = first.outside) :
      Move manner thread first (begun ++ [exchange])
        ⟨bridge.recount id (· - 1), first.outside.put registration.vm thread none⟩
  | forget {first : Moment Presence} {id : LifecycleId} :
      Move manner thread first []
        ⟨first.bridge.forget id, first.outside⟩
  | register {first last : Moment Presence} {exchanges : List (Exchange Presence)}
      {id : LifecycleId} {registration : Registration}
      (hregisters : Registers id registration first last)
      (hstays : AllStay first exchanges) :
      Move manner thread first exchanges last

/-- Several steps of a thread. -/
inductive Moves (manner : Manner) (thread : Nat) :
    Moment Presence → List (Exchange Presence) → Moment Presence → Prop
  | done (moment : Moment Presence) : Moves manner thread moment [] moment
  | step {first middle last : Moment Presence} {begun rest : List (Exchange Presence)}
      (hmove : Move manner thread first begun middle)
      (hrest : Moves manner thread middle rest last) :
      Moves manner thread first (begun ++ rest) last

namespace Moves

variable {manner : Manner} {thread : Nat} {first middle last : Moment Presence}
  {begun rest exchanges : List (Exchange Presence)}

theorem single (hmove : Move manner thread first exchanges last) :
    Moves manner thread first exchanges last := by
  have hstep := Moves.step hmove (.done last)
  rwa [List.append_nil] at hstep

theorem trans (hfirst : Moves manner thread first begun middle)
    (hlast : Moves manner thread middle rest last) :
    Moves manner thread first (begun ++ rest) last := by
  induction hfirst with
  | done => exact hlast
  | step hmove _ ih =>
    rw [List.append_assoc]
    exact .step hmove (ih hlast)

theorem still (hquiet : AllQuiet first exchanges) :
    Moves manner thread first exchanges first :=
  single (.aside (.refl first) hquiet)

end Moves

end JavaInterop
