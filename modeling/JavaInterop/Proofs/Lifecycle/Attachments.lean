import JavaInterop.Lifecycle.ThreadExit
import JavaInterop.Proofs.Lifecycle.Rules

/-!
# Attached threads

A thread must be attached to a machine before it can talk to it, and each machine knows which
threads are.  The law says how a machine answers a thread that asks for its environment, and what
becomes of the attachment when it attaches or detaches.  Whether attaching or detaching succeeds is
left open.

Operations are atomic: those of different threads follow each other, so the bridge does not change
during a call.  Between two operations other code may attach and detach threads as it likes.
-/

namespace JavaInterop

/-- The number of the environment that each thread has for each machine. -/
abbrev Attachments := VmId → Nat → Option Nat

/-- The attachments with one of them changed. -/
def Attachments.put (attachments : Attachments) (vm : VmId) (thread : Nat)
    (number : Option Nat) : Attachments :=
  fun other caller ↦ if other = vm ∧ caller = thread then number else attachments other caller

@[simp]
theorem put_self (attachments : Attachments) (vm : VmId) (thread : Nat) (number : Option Nat) :
    attachments.put vm thread number vm thread = number := by
  simp [Attachments.put]

/-- What happens to the attachments in a call of a thread. -/
def AttachmentLaw (thread : Nat) (before after : Attachments) :
    (request : Call) → request.Reply → Prop
  | .getEnv vm _, reply => after = before ∧
    match before vm thread with
    | some number => reply = .ok ⟨vm, number⟩
    | none => ∃ status, reply = .error status
  | .attach vm _, reply =>
    (∀ pointer, reply = .ok pointer → pointer.vm = vm ∧
      after = before.put vm thread (some pointer.number)) ∧
    ∀ status, reply = .error status → after = before
  | .detach vm, reply =>
    (reply = .ok () → after = before.put vm thread none) ∧
    ∀ status, reply = .error status → after = before
  | .env pointer (.newGlobalRef _), reply => after = before ∧
    ∀ handle, reply = some handle → handle.vm = pointer.vm
  | .env _ _, _ => after = before
  | _, _ => True

/-- The global reference that is deleted in a call. -/
def Call.deleted? : Call → Option Handle
  | .env _ (.deleteGlobalRef reference) => some reference
  | _ => none

variable [Host]

/-- What may be relied on in a call. -/
structure Exchange.KeepsAttachments (exchange : Exchange Attachments) : Prop where
  bridge : exchange.after.bridge = exchange.before.bridge
  law : AttachmentLaw exchange.caller.id exchange.before.outside exchange.after.outside
    exchange.request exchange.reply

namespace Exchange

variable {ω : Type}

/-- The attachment of a thread to a machine, which has succeeded. -/
def Attaches (vm : VmId) : Exchange ω → Prop
  | ⟨_, .attach asked _, reply, _, _⟩ => asked = vm ∧ ∃ pointer, reply = .ok pointer
  | _ => False

/-- The machine is asked to attach a thread, or does not say whether the thread is attached. -/
def Seeks (vm : VmId) : Exchange ω → Prop
  | ⟨_, .attach asked _, _, _, _⟩ => asked = vm
  | ⟨_, .getEnv asked _, reply, _, _⟩ => asked = vm ∧
    ∃ status, reply = .error status ∧ status ≠ .threadDetached
  | _ => False

/-- The detachment of a thread, which has failed. -/
def FailsToDetach : Exchange ω → Prop
  | ⟨_, .detach _, reply, _, _⟩ => ∃ status, reply = .error status
  | _ => False

end Exchange

/-- The deletions of global references among the exchanges. -/
def deletions {ω : Type} (exchanges : List (Exchange ω)) : List (Exchange ω) :=
  exchanges.filter fun exchange ↦ exchange.request.deleted?.isSome

@[simp]
theorem deletions_append {ω : Type} (begun rest : List (Exchange ω)) :
    deletions (begun ++ rest) = deletions begun ++ deletions rest :=
  List.filter_append ..

/-! ## Attaching for a moment -/

open Program (Ensures)

/-- What holds after every lawful answer holds after the call. -/
theorem ensures_request {thread : NativeThread} {first : Moment Attachments} {request : Call}
    {post : List (Exchange Attachments) → request.Reply → Moment Attachments → Prop}
    (hpost : ∀ reply outside, AttachmentLaw thread.id first.outside outside request reply →
      post [⟨thread, request, reply, first, ⟨first.bridge, outside⟩⟩] reply
        ⟨first.bridge, outside⟩) :
    Ensures Exchange.KeepsAttachments thread (Program.perform request) first post := by
  rw [Program.ensures_perform]
  rintro reply ⟨bridge, outside⟩ ⟨hbridge, hlaw⟩
  change bridge = first.bridge at hbridge
  subst hbridge
  exact hpost reply outside hlaw

theorem Exchange.KeepsAttachments.of_getEnv {thread : NativeThread} {vm : VmId} {version : Version}
    {answer : (Call.getEnv vm version).Reply} {first asked : Moment Attachments}
    (hkeeps : Exchange.KeepsAttachments ⟨thread, .getEnv vm version, answer, first, asked⟩) :
    asked = first ∧
      (∀ pointer, answer = .ok pointer →
        first.outside vm thread.id = some pointer.number ∧ pointer.vm = vm) ∧
      ∀ status, answer = .error status → first.outside vm thread.id = none := by
  obtain ⟨bridge, outside⟩ := asked
  obtain ⟨hbridge, houtside, htruth⟩ := hkeeps
  change bridge = first.bridge at hbridge
  change outside = first.outside at houtside
  subst hbridge houtside
  refine ⟨rfl, ?_⟩
  dsimp only at htruth
  split at htruth
  · rename_i number hnumber
    subst htruth
    refine ⟨?_, fun _ ↦ nofun⟩
    rintro _ ⟨rfl⟩
    exact ⟨hnumber, rfl⟩
  · rename_i hnone
    obtain ⟨status, rfl⟩ := htruth
    exact ⟨fun _ ↦ nofun, fun _ _ ↦ hnone⟩

theorem Exchange.KeepsAttachments.of_attach {thread : NativeThread} {vm : VmId}
    {request : AttachRequest} {answer : (Call.attach vm request).Reply}
    {first attached : Moment Attachments}
    (hkeeps : Exchange.KeepsAttachments ⟨thread, .attach vm request, answer, first, attached⟩) :
    (∀ pointer, answer = .ok pointer → pointer.vm = vm ∧
      attached = ⟨first.bridge, first.outside.put vm thread.id (some pointer.number)⟩) ∧
      ∀ status, answer = .error status → attached = first := by
  obtain ⟨bridge, outside⟩ := attached
  obtain ⟨hbridge, hgranted, hrefused⟩ := hkeeps
  change bridge = first.bridge at hbridge
  subst hbridge
  refine ⟨fun pointer hpointer ↦ ?_, fun status hstatus ↦ ?_⟩
  · obtain ⟨hvm, houtside⟩ := hgranted pointer hpointer
    exact ⟨hvm, congrArg _ houtside⟩
  · exact congrArg (Moment.mk first.bridge) (hrefused status hstatus)

/-- What an attachment does to the thread: it has an environment in the end if it had one before or
could be attached.  A scoped attachment only counts the thread. -/
theorem ensures_attachTo {thread : NativeThread} {first : Moment Attachments} (id : LifecycleId)
    (registration : Registration) (config : AttachConfig) :
    Ensures Exchange.KeepsAttachments thread
      (id.attachTo registration config).run first fun exchanges result last ↦
        deletions exchanges = [] ∧
        match result with
        | .ok (pointer, false) =>
          first.outside registration.vm thread.id = some pointer.number ∧
          pointer.vm = registration.vm ∧ last = first
        | .ok (pointer, true) =>
          first.outside registration.vm thread.id = none ∧
          (∃ exchange ∈ exchanges, exchange.Attaches registration.vm) ∧
          pointer.vm = registration.vm ∧
          (config.isScoped = true → last.bridge = first.bridge.recount id (· + 1)) ∧
          last.outside = first.outside.put registration.vm thread.id (some pointer.number)
        | .error _ =>
          first.outside registration.vm thread.id = none ∧
          (∀ exchange ∈ exchanges, ¬ exchange.Attaches registration.vm) ∧ last = first := by
  refine (id.ensures_attachTo_approach config).weaken fun exchanges result last happroach ↦ ?_
  cases happroach with
  | present hasked =>
    obtain ⟨rfl, hfound, -⟩ := hasked.of_getEnv
    obtain ⟨hnumber, hvm⟩ := hfound _ rfl
    exact ⟨rfl, hnumber, hvm, rfl⟩
  | unclear _ hasked =>
    obtain ⟨rfl, -, habsent⟩ := hasked.of_getEnv
    exact ⟨rfl, habsent _ rfl, by simp [Exchange.Attaches], rfl⟩
  | refused hasked hattached =>
    obtain ⟨rfl, -, habsent⟩ := hasked.of_getEnv
    obtain rfl := hattached.of_attach.2 _ rfl
    exact ⟨rfl, habsent _ rfl, by simp [Exchange.Attaches], rfl⟩
  | admitted hasked hattached =>
    obtain ⟨rfl, -, habsent⟩ := hasked.of_getEnv
    obtain ⟨hvm, rfl⟩ := hattached.of_attach.1 _ rfl
    refine ⟨rfl, habsent _ rfl, ⟨_, List.mem_cons_of_mem _ List.mem_cons_self, rfl, _, rfl⟩, hvm,
      fun hscoped ↦ ?_, rfl⟩
    exact if_pos (.inr hscoped)

/-- A thread that is not attached asks to be, unless the machine does not say so. -/
theorem ensures_attachTo_seeks {thread : NativeThread} {first : Moment Attachments}
    (id : LifecycleId) (registration : Registration) (config : AttachConfig) :
    Ensures Exchange.KeepsAttachments thread
      (id.attachTo registration config).run first fun exchanges _ _ ↦
        first.outside registration.vm thread.id = none →
          ∃ exchange ∈ exchanges, exchange.Seeks registration.vm := by
  refine (id.ensures_attachTo_approach config).weaken ?_
  intro exchanges result last happroach habsent
  cases happroach with
  | present hasked =>
    have hthere := (hasked.of_getEnv.2.1 _ rfl).1
    rw [habsent] at hthere
    cases hthere
  | unclear hstatus _ => exact ⟨_, List.mem_cons_self, rfl, _, rfl, hstatus⟩
  | refused | admitted => exact ⟨_, List.mem_cons_of_mem _ List.mem_cons_self, rfl⟩

/-- Detaching a thread that is attached.  If the machine does not refuse, the thread is detached and
counts as one less. -/
theorem ensures_detachFrom {thread : NativeThread} {first : Moment Attachments} (id : LifecycleId)
    (registration : Registration)
    (hattached : (first.outside registration.vm thread.id).isSome) :
    Ensures Exchange.KeepsAttachments thread (id.detachFrom registration) first
      fun exchanges _ last ↦ deletions exchanges = [] ∧
        (∀ exchange ∈ exchanges, ¬ exchange.Attaches registration.vm) ∧
        ((∀ exchange ∈ exchanges, ¬ exchange.FailsToDetach) →
          last.outside registration.vm thread.id = none ∧
          ∀ other, (last.bridge.lifecycle other).attached =
            ((first.bridge.recount id (· - 1)).lifecycle other).attached) := by
  refine LifecycleId.ensures_detachFrom_parting.weaken fun exchanges _ last hparting ↦ ?_
  cases hparting with
  | absent hasked =>
    have hnone : first.outside registration.vm thread.id = none := hasked.of_getEnv.2.2 _ rfl
    rw [hnone] at hattached
    cases hattached
  | refused hasked hdetached =>
    refine ⟨rfl, by simp [Exchange.Attaches], fun hlet ↦ ?_⟩
    exact absurd ⟨_, rfl⟩ (hlet _ (List.mem_cons_of_mem _ List.mem_cons_self))
  | left hasked hdetached =>
    obtain ⟨rfl, -⟩ := hasked.of_getEnv
    obtain ⟨hbridge, hgranted, -⟩ := hdetached
    refine ⟨rfl, by simp [Exchange.Attaches], fun _ ↦ ⟨?_, fun other ↦ ?_⟩⟩
    · exact (congrFun (congrFun (hgranted rfl) registration.vm) thread.id).trans (put_self _ _ _ _)
    · rw [hbridge]
      rfl

/-! ## Deleting a global reference -/

/-- A deletion of this handle that was in order: it went to the machine that was registered under
the generation at that moment, through the environment that the caller had for it. -/
def Exchange.Deletes (id : LifecycleId) (generation : Nat) (registration : Registration)
    (handle : Handle) (exchange : Exchange Attachments) : Prop :=
  ∃ pointer, exchange.request = .env pointer (.deleteGlobalRef handle) ∧
    exchange.before.bridge.registered? id generation = some registration ∧
    pointer.vm = registration.vm ∧
    exchange.before.outside pointer.vm exchange.caller.id = some pointer.number

/-- What giving up a global reference does.  The reference is deleted once if its machine is still
there and the thread has an environment or gets one, and not at all otherwise.  A thread that was
not attached asks to be, and is not attached afterwards, unless the machine refuses to let go of
it. -/
structure Gives (id : LifecycleId) (generation : Nat) (handle : Handle) (thread : NativeThread)
    (first last : Moment Attachments) (exchanges : List (Exchange Attachments)) : Prop where
  valid : ∀ exchange ∈ deletions exchanges, ∃ registration,
    first.bridge.registered? id generation = some registration ∧
      exchange.Deletes id generation registration handle
  once : (deletions exchanges).length ≤ 1
  exactly : deletions exchanges ≠ [] ↔
    ∃ registration, first.bridge.registered? id generation = some registration ∧
      ((first.outside registration.vm thread.id).isSome ∨
        ∃ exchange ∈ exchanges, exchange.Attaches registration.vm)
  asks : ∀ registration, first.bridge.registered? id generation = some registration →
    first.outside registration.vm thread.id = none →
      ∃ exchange ∈ exchanges, exchange.Seeks registration.vm
  detached : ∀ vm, (∀ registration, first.bridge.registered? id generation = some registration →
      registration.vm = vm) →
    first.outside vm thread.id = none → (∀ exchange ∈ exchanges, ¬ exchange.FailsToDetach) →
    last.outside vm thread.id = none ∧
      ∀ other, (last.bridge.lifecycle other).attached = (first.bridge.lifecycle other).attached

/-- Nothing was done, since there was no machine or no environment for it. -/
theorem Gives.of_nothing {id : LifecycleId} {generation : Nat} {handle : Handle}
    {thread : NativeThread} {first : Moment Attachments} {exchanges : List (Exchange Attachments)}
    (hnothing : deletions exchanges = [])
    (hreason : ∀ registration, first.bridge.registered? id generation = some registration →
      first.outside registration.vm thread.id = none ∧
        (∀ exchange ∈ exchanges, ¬ exchange.Attaches registration.vm) ∧
        ∃ exchange ∈ exchanges, exchange.Seeks registration.vm) :
    Gives id generation handle thread first first exchanges := by
  refine ⟨by simp [hnothing], by simp [hnothing], iff_of_false (by simp [hnothing]) ?_,
    fun registration hregistered _ ↦ (hreason registration hregistered).2.2,
    fun _ _ hunattached _ ↦ ⟨hunattached, fun _ ↦ rfl⟩⟩
  rintro ⟨registration, hregistered, hattached | ⟨exchange, hmem, hattaches⟩⟩
  · rw [(hreason registration hregistered).1] at hattached
    cases hattached
  · exact (hreason registration hregistered).2.1 exchange hmem hattaches

/-- A deletion through an environment of the running thread is in order. -/
theorem deletes_through {thread : NativeThread} {id : LifecycleId} {generation : Nat}
    {handle : Handle} {registration : Registration} {pointer : EnvPointer}
    {before after : Moment Attachments}
    (hregistered : before.bridge.registered? id generation = some registration)
    (hvm : pointer.vm = registration.vm)
    (hattached : before.outside registration.vm thread.id = some pointer.number) :
    Exchange.Deletes id generation registration handle
      ⟨thread, .env pointer (.deleteGlobalRef handle), (), before, after⟩ :=
  ⟨pointer, rfl, hregistered, hvm, hvm ▸ hattached⟩

/-- A deletion is the only one among calls that delete nothing. -/
theorem deletions_around {id : LifecycleId} {generation : Nat} {registration : Registration}
    {handle : Handle} {deletion : Exchange Attachments} {begun ended : List (Exchange Attachments)}
    (hdeletes : deletion.Deletes id generation registration handle)
    (hbegun : deletions begun = []) (hended : deletions ended = []) :
    deletions (begun ++ ([deletion] ++ ended)) = [deletion] := by
  obtain ⟨pointer, hrequest, -⟩ := hdeletes
  have hone : deletions [deletion] = [deletion] := by
    simp [deletions, hrequest, Call.deleted?]
  rw [deletions_append, deletions_append, hbegun, hone, hended]
  rfl

/-- There was one deletion, it was in order, and it had a reason. -/
theorem Gives.of_single {id : LifecycleId} {generation : Nat} {handle : Handle}
    {thread : NativeThread} {first last : Moment Attachments}
    {exchanges : List (Exchange Attachments)} {deletion : Exchange Attachments}
    {registration : Registration} (hsingle : deletions exchanges = [deletion])
    (hdeletes : deletion.Deletes id generation registration handle)
    (hregistered : first.bridge.registered? id generation = some registration)
    (hreason : (first.outside registration.vm thread.id).isSome ∨
      ∃ exchange ∈ exchanges, exchange.Attaches registration.vm)
    (hasks : first.outside registration.vm thread.id = none →
      ∃ exchange ∈ exchanges, exchange.Seeks registration.vm)
    (hleft : first.outside registration.vm thread.id = none →
      (∀ exchange ∈ exchanges, ¬ exchange.FailsToDetach) →
      last.outside registration.vm thread.id = none ∧
        ∀ other, (last.bridge.lifecycle other).attached = (first.bridge.lifecycle other).attached) :
    Gives id generation handle thread first last exchanges := by
  refine ⟨?_, ?_, ?_, ?_, ?_⟩
  · rw [hsingle]
    rintro exchange hmem
    cases List.mem_singleton.1 hmem
    exact ⟨registration, hregistered, hdeletes⟩
  · rw [hsingle]
    exact Nat.le_refl 1
  · exact iff_of_true (by simp [hsingle]) ⟨registration, hregistered, hreason⟩
  · intro _ hsame
    cases hregistered.symm.trans hsame
    exact hasks
  · rintro _ hvm
    rw [← hvm registration hregistered]
    exact hleft

theorem ensures_deleteGlobal {thread : NativeThread} {first : Moment Attachments}
    (id : LifecycleId) (generation : Nat) (handle : Handle) :
    Ensures Exchange.KeepsAttachments thread (id.deleteGlobal generation handle) first
      fun exchanges _ last ↦ Gives id generation handle thread first last exchanges := by
  rw [LifecycleId.ensures_deleteGlobal_iff]
  cases hregistered : first.bridge.registered? id generation with
  | none => exact Gives.of_nothing rfl (by simp [hregistered])
  | some registration =>
    refine ((ensures_attachTo id registration { isScoped := true }).and
      (ensures_attachTo_seeks id registration { isScoped := true })).weaken ?_
    rintro begun (error | ⟨pointer, _ | _⟩) middle ⟨⟨hbegun, hattach⟩, hseeks⟩
    · obtain ⟨hunattached, hfailed, rfl⟩ := hattach
      refine Gives.of_nothing hbegun fun _ hsame ↦ ?_
      cases hregistered.symm.trans hsame
      exact ⟨hunattached, hfailed, hseeks hunattached⟩
    · obtain ⟨hattached, hvm, rfl⟩ := hattach
      refine ensures_request fun _ outside hlaw ↦ ?_
      obtain rfl : outside = middle.outside := hlaw
      generalize hdeletion : (⟨thread, _, _, middle, _⟩ : Exchange Attachments) = deletion
      have hdeletes : deletion.Deletes id generation registration handle :=
        hdeletion ▸ deletes_through hregistered hvm hattached
      have hsingle : deletions (begun ++ ([deletion] ++ [])) = [deletion] :=
        deletions_around hdeletes hbegun rfl
      have hthere : middle.outside registration.vm thread.id ≠ none := by simp [hattached]
      exact Gives.of_single hsingle hdeletes hregistered (.inl (Option.isSome_iff_ne_none.2 hthere))
        (fun hunattached ↦ absurd hunattached hthere)
        fun hunattached ↦ absurd hunattached hthere
    · obtain ⟨hunattached, hattaches, hvm, hcounted, houtside⟩ := hattach
      have hbridge := hcounted rfl
      refine ensures_request fun _ outside hlaw ↦ ?_
      obtain rfl : outside = middle.outside := hlaw
      have hattached : middle.outside registration.vm thread.id = some pointer.number := by
        rw [houtside, put_self]
      have hregistered' : middle.bridge.registered? id generation = some registration := by
        rw [hbridge, registered?_recount, hregistered]
      generalize hdeletion : (⟨thread, _, _, middle, _⟩ : Exchange Attachments) = deletion
      have hdeletes : deletion.Deletes id generation registration handle :=
        hdeletion ▸ deletes_through hregistered' hvm hattached
      rw [if_pos rfl]
      refine (ensures_detachFrom id registration (by simp [hattached])).weaken ?_
      rintro ended _ last ⟨hended, -, hdetached⟩
      have hsingle : deletions (begun ++ ([deletion] ++ ended)) = [deletion] :=
        deletions_around hdeletes hbegun hended
      have hreason : ∃ exchange ∈ begun ++ ([deletion] ++ ended),
          exchange.Attaches registration.vm := by
        obtain ⟨exchange, hmem, hattaches⟩ := hattaches
        exact ⟨exchange, List.mem_append_left _ hmem, hattaches⟩
      have hasks : ∃ exchange ∈ begun ++ ([deletion] ++ ended),
          exchange.Seeks registration.vm := by
        obtain ⟨exchange, hmem, hseeks⟩ := hseeks hunattached
        exact ⟨exchange, List.mem_append_left _ hmem, hseeks⟩
      refine Gives.of_single hsingle hdeletes hregistered (.inr hreason) (fun _ ↦ hasks)
        fun _ hlet ↦ ?_
      have hlet' : ∀ exchange ∈ ended, ¬ exchange.FailsToDetach := by
        intro exchange hmem
        exact hlet exchange (by simp [hmem])
      obtain ⟨hnone, hfewer⟩ := hdetached hlet'
      refine ⟨hnone, fun other ↦ (hfewer other).trans ?_⟩
      rw [hbridge]
      exact attached_recount_back first.bridge id other

end JavaInterop
