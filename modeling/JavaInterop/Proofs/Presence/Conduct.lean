import JavaInterop.Lifecycle.Registration
import JavaInterop.Proofs.Presence.Move

/-!
# What operations do to the presence of threads

Every operation that attaches or detaches a thread, or gives up a reference, consists of moves.  For
each operation this is said once, from what its parts do, and nothing else about it is needed to
follow the accounts of the bridge through a whole process.
-/

namespace JavaInterop

variable [Host]

open Program (Ensures)

/-- What holds after every answer that a machine may give holds after the call. -/
theorem ensures_answer {thread : NativeThread} {first : Moment Presence} {request : Call}
    {post : List (Exchange Presence) → request.Reply → Moment Presence → Prop}
    (hpost : ∀ reply outside, PresenceLaw thread.id first outside request reply →
      post [⟨thread, request, reply, first, ⟨first.bridge, outside⟩⟩] reply
        ⟨first.bridge, outside⟩) :
    Ensures Exchange.KeepsPresence thread (Program.perform request) first post := by
  rw [Program.ensures_perform]
  rintro reply ⟨bridge, outside⟩ ⟨hbridge, hlaw⟩
  change bridge = first.bridge at hbridge
  subst hbridge
  exact hpost reply outside hlaw

/-- The machines that are asked to detach a thread, one after the other. -/
def detachRequests {ω : Type} (exchanges : List (Exchange ω)) : List VmId :=
  exchanges.filterMap Exchange.detaching?

@[simp]
theorem detachRequests_append {ω : Type} (begun rest : List (Exchange ω)) :
    detachRequests (begun ++ rest) = detachRequests begun ++ detachRequests rest :=
  List.filterMap_append

section

variable (manner : Manner) {thread : NativeThread} {first : Moment Presence}

/-! ## Single calls -/

/-- A thread asks for its environment.  If it is attached and gets none, the machine is not
obliging. -/
theorem Exchange.KeepsPresence.of_getEnv {vm : VmId} {version : Version}
    {answer : (Call.getEnv vm version).Reply} {last : Moment Presence}
    (hkeeps : Exchange.KeepsPresence ⟨thread, .getEnv vm version, answer, first, last⟩) :
    last = first ∧ AllQuiet first [⟨thread, .getEnv vm version, answer, first, last⟩] ∧
      (∀ pointer, answer = .ok pointer → (first.outside vm thread.id).isSome) ∧
      (answer = .error .threadDetached → first.outside vm thread.id = none) ∧
      ∀ status, answer = .error status → first.outside vm thread.id = none ∨
        ¬ Exchange.Obliging ⟨thread, .getEnv vm version, answer, first, last⟩ := by
  obtain ⟨bridge, outside⟩ := last
  obtain ⟨hbridge, houtside, hpresent, habsent⟩ := hkeeps
  change bridge = first.bridge at hbridge
  change outside = first.outside at houtside
  subst hbridge houtside
  refine ⟨rfl, List.forall_mem_singleton.2 ⟨⟨fun _ h ↦ h, fun _ h ↦ h⟩, .refl _⟩, ?_, ?_, ?_⟩
  · rintro pointer rfl
    apply Option.isSome_iff_ne_none.2
    intro hnone
    obtain ⟨status, hstatus⟩ := habsent hnone
    cases hstatus
  · rintro rfl
    apply Option.not_isSome_iff_eq_none.1
    intro hsome
    exact hpresent hsome rfl
  · rintro status rfl
    cases hattached : first.outside vm thread.id with
    | none => exact .inl rfl
    | some since =>
      right
      intro hobliging
      obtain ⟨pointer, hpointer⟩ := hobliging (Option.isSome_of_eq_some hattached)
      cases hpointer

theorem Exchange.KeepsPresence.of_attach {vm : VmId} {request : AttachRequest}
    {answer : (Call.attach vm request).Reply} {last : Moment Presence}
    (hkeeps : Exchange.KeepsPresence ⟨thread, .attach vm request, answer, first, last⟩) :
    AllStay first [⟨thread, .attach vm request, answer, first, last⟩] ∧
      match answer with
      | .ok _ => last = ⟨first.bridge,
          first.outside.put vm thread.id (some first.bridge.nextGeneration)⟩
      | .error status => last = first ∧
          AllQuiet first [⟨thread, .attach vm request, .error status, first, last⟩] := by
  obtain ⟨bridge, outside⟩ := last
  obtain ⟨hbridge, hgranted, hrefused⟩ := hkeeps
  change bridge = first.bridge at hbridge
  subst hbridge
  refine ⟨List.forall_mem_singleton.2 ⟨fun _ h ↦ h, .refl _⟩, ?_⟩
  cases answer with
  | ok pointer => exact congrArg _ (hgranted pointer rfl)
  | error status =>
    obtain rfl : outside = first.outside := hrefused status rfl
    refine ⟨rfl, List.forall_mem_singleton.2 ⟨⟨?_, fun _ h ↦ h⟩, .refl _⟩⟩
    rintro _ ⟨-, pointer, hpointer⟩
    cases hpointer

theorem Exchange.KeepsPresence.of_detach {vm : VmId} {answer : (Call.detach vm).Reply}
    {last : Moment Presence}
    (hkeeps : Exchange.KeepsPresence ⟨thread, .detach vm, answer, first, last⟩) :
    match answer with
    | .ok _ => last = ⟨first.bridge, first.outside.put vm thread.id none⟩
    | .error status => last = first ∧
        AllQuiet first [⟨thread, .detach vm, .error status, first, last⟩] ∧
        ¬ Exchange.Obliging ⟨thread, .detach vm, .error status, first, last⟩ := by
  obtain ⟨bridge, outside⟩ := last
  obtain ⟨hbridge, hgranted, hrefused⟩ := hkeeps
  change bridge = first.bridge at hbridge
  subst hbridge
  cases answer with
  | ok _ => exact congrArg _ (hgranted rfl)
  | error status =>
    obtain rfl : outside = first.outside := hrefused status rfl
    refine ⟨rfl, List.forall_mem_singleton.2 ⟨⟨fun _ h ↦ h, ?_⟩, .refl _⟩, ?_⟩
    · rintro _ ⟨-, hanswer⟩
      cases hanswer
    · intro hanswer
      cases hanswer

theorem ensures_env (pointer : EnvPointer) (function : EnvFunction) :
    Ensures Exchange.KeepsPresence thread (Program.perform (.env pointer function)) first
      fun exchanges _ last ↦ last = first ∧ AllQuiet first exchanges := by
  apply ensures_answer
  rintro reply outside rfl
  exact ⟨rfl, List.forall_mem_singleton.2 ⟨⟨fun _ h ↦ h, fun _ h ↦ h⟩, .refl _⟩⟩

/-! ## Attaching and detaching -/

/-- What an attempt to attach the running thread under a registration comes to. -/
def Attempted (manner : Manner) (id : LifecycleId) (registration : Registration) (thread : Nat)
    (first : Moment Presence) (exchanges : List (Exchange Presence)) (attachedHere : Bool)
    (last : Moment Presence) : Prop :=
  AllStay first exchanges ∧
  match attachedHere with
  | true =>
    first.outside registration.vm thread = none ∧
    (∃ exchange ∈ exchanges, exchange.Attaches registration.vm) ∧
    ∃ bridge, first.bridge.Rebooks thread (manner.owing first.bridge thread id registration)
        bridge ∧
      last = ⟨bridge.recount id (· + 1),
        first.outside.put registration.vm thread (some first.bridge.nextGeneration)⟩
  | false => (first.outside registration.vm thread).isSome ∧ last = first ∧ AllQuiet first exchanges

variable {manner} in
/-- What a thread owes after it was attached depends on the manner, and it counts in any case. -/
theorem rebooks_receive {isScoped : Bool}
    (hmanner : manner.isBrief = (isScoped || thread.isExiting))
    (bridge : Bridge) (id : LifecycleId) (registration : Registration) :
    ∃ owing, bridge.Rebooks thread.id (manner.owing bridge thread.id id registration) owing ∧
      bridge.receive id registration thread isScoped = owing.recount id (· + 1) := by
  unfold Manner.owing Bridge.receive Bridge.defer
  rw [hmanner]
  by_cases hguest : thread.id = registration.creator ∨ isScoped = true
  · have hbrief : thread.id = registration.creator ∨ (isScoped || thread.isExiting) = true :=
      hguest.imp_right fun hscoped ↦ by rw [hscoped, Bool.true_or]
    simp only [if_pos hguest, if_pos hbrief]
    exact ⟨bridge, .of_same rfl, rfl⟩
  · obtain ⟨hcreator, hscoped⟩ := not_or.1 hguest
    rw [Bool.not_eq_true] at hscoped
    simp only [hcreator, hscoped, Bool.false_eq_true, or_self, Bool.false_or, false_or,
      ↓reduceIte]
    cases thread.isExiting with
    | true => exact ⟨bridge, .of_same rfl, rfl⟩
    | false => exact ⟨_, .rehook, rfl⟩

theorem ensures_attachTo_attempted (id : LifecycleId) (registration : Registration)
    (config : AttachConfig) (hmanner : manner.isBrief = (config.isScoped || thread.isExiting)) :
    Ensures Exchange.KeepsPresence thread (id.attachTo registration config).run first
      fun exchanges result last ↦ match result with
        | .ok (_, attachedHere) =>
          Attempted manner id registration thread.id first exchanges attachedHere last
        | .error _ => last = first ∧ AllQuiet first exchanges := by
  refine (id.ensures_attachTo_approach config).weaken fun exchanges result last happroach ↦ ?_
  cases happroach with
  | present hasked =>
    obtain ⟨rfl, hquiet, hpresent, -⟩ := hasked.of_getEnv
    exact ⟨hquiet.allStay, hpresent _ rfl, rfl, hquiet⟩
  | unclear _ hasked =>
    obtain ⟨rfl, hquiet, -⟩ := hasked.of_getEnv
    exact ⟨rfl, hquiet⟩
  | refused hasked hattached =>
    obtain ⟨rfl, hquiet, -⟩ := hasked.of_getEnv
    obtain ⟨-, rfl, hrefused⟩ := hattached.of_attach
    exact ⟨rfl, allQuiet_append.2 ⟨hquiet, hrefused⟩⟩
  | admitted hasked hattached =>
    obtain ⟨rfl, hquiet, -, habsent, -⟩ := hasked.of_getEnv
    obtain ⟨hstays, hlast⟩ := hattached.of_attach
    dsimp only at hlast
    subst hlast
    obtain ⟨bridge, hbridge, hreceive⟩ := rebooks_receive hmanner _ id registration
    refine ⟨allStay_append.2 ⟨hquiet.allStay, hstays⟩, habsent rfl,
      ⟨_, List.mem_cons_of_mem _ List.mem_cons_self, rfl, _, rfl⟩, bridge, hbridge, ?_⟩
    rw [hreceive]

variable {manner} in
/-- Entering a piece of work under a registration that was just read. -/
theorem Attempted.move {id : LifecycleId} {registration : Registration}
    {exchanges : List (Exchange Presence)} {attachedHere : Bool} {last : Moment Presence}
    (hattempted : Attempted manner id registration thread.id first exchanges attachedHere last)
    (hregistered : (first.bridge.lifecycle id).registration = some registration) :
    Move manner thread.id first exchanges last := by
  cases attachedHere with
  | true =>
    obtain ⟨hstays, habsent, hattaches, bridge, hbridge, rfl⟩ := hattempted
    exact .attach hregistered habsent hbridge hattaches hstays
  | false =>
    obtain ⟨-, -, rfl, hquiet⟩ := hattempted
    exact .aside (.refl _) hquiet

/-- What comes of detaching the running thread under a registration. -/
structure Withdraws (manner : Manner) (id : LifecycleId) (registration : Registration)
    (thread : Nat) (first : Moment Presence) (exchanges : List (Exchange Presence))
    (last : Moment Presence) : Prop where
  move : Move manner thread first exchanges last
  registered : ∀ other, (last.bridge.lifecycle other).registration =
    (first.bridge.lifecycle other).registration
  /-- It is not detached from other machines. -/
  only : ∀ vm, vm ≠ registration.vm → (∀ exchange ∈ exchanges, ¬ exchange.Detaches vm) ∧
    last.outside vm = first.outside vm
  /-- What is owed to other lifecycles stays owed. -/
  spares : ∀ caller other generation, other ≠ id →
    (⟨other, generation⟩ ∈ (last.bridge.thread caller).pending ↔
      ⟨other, generation⟩ ∈ (first.bridge.thread caller).pending)
  obliged : AllOblige exchanges →
    last.outside = first.outside.put registration.vm thread none ∧
    detachRequests exchanges =
      if (first.outside registration.vm thread).isSome then [registration.vm] else []

theorem refersTo_recount (bridge : Bridge) (id other : LifecycleId) (change : Nat → Nat) :
    (bridge.recount id change).refersTo other = bridge.refersTo other := rfl

/-- A detach is made if the thread is attached.  It must not be owed any more. -/
theorem ensures_detach_cleared {id : LifecycleId} {registration : Registration} {bridge : Bridge}
    (hregistered : (first.bridge.lifecycle id).registration = some registration)
    (hbridge : first.bridge.Rebooks thread.id
      (·.filter (· ≠ ⟨id, registration.generation⟩)) bridge) :
    Ensures Exchange.KeepsPresence thread (do
        match ← Program.perform (.getEnv registration.vm registration.version) with
        | .ok _ => id.detachAttached registration
        | .error _ => pure ()) ⟨bridge, first.outside⟩
      fun exchanges _ last ↦ Withdraws manner id registration thread.id first exchanges last ∧
        ∀ other, last.bridge.refersTo other = bridge.refersTo other := by
  have hsame : ∀ other, (bridge.lifecycle other).registration =
      (first.bridge.lifecycle other).registration := by
    intro other
    rw [hbridge.lifecycle]
  have hspares := hbridge.spares
  have hwithin : Within first ⟨bridge, first.outside⟩ :=
    .of_rebooks hbridge fun _ ↦ List.filter_sublist
  refine ensures_parting.weaken fun exchanges _ last hparting ↦ ?_
  cases hparting with
  | absent hasked =>
    obtain ⟨rfl, hquiet, -, -, hrefused⟩ := hasked.of_getEnv
    replace hquiet := hquiet.of_within hwithin
    refine ⟨⟨.cancel hregistered hbridge ?_ hquiet, hsame, fun vm _ ↦
      ⟨fun exchange hmem ↦ (hquiet exchange hmem).1.detaches vm, rfl⟩, hspares, fun hoblige ↦ ?_⟩,
      fun _ ↦ rfl⟩
    · exact (hrefused _ rfl).imp_right fun hrefusal ↦ ⟨_, List.mem_cons_self, hrefusal⟩
    · rcases hrefused _ rfl with habsent | hrefusal
      · dsimp only at habsent
        rw [Presence.put_eq_self _ _ habsent, habsent]
        exact ⟨rfl, rfl⟩
      · exact absurd (hoblige _ List.mem_cons_self) hrefusal
  | refused hasked hdetached =>
    obtain ⟨rfl, hquiet, -⟩ := hasked.of_getEnv
    obtain ⟨rfl, hquiet', hrefusal⟩ := hdetached.of_detach
    have hall := (allQuiet_append.2 ⟨hquiet, hquiet'⟩).of_within hwithin
    refine ⟨⟨.cancel hregistered hbridge (.inr ⟨_, List.mem_cons_of_mem _ List.mem_cons_self,
      hrefusal⟩) hall, hsame, fun vm _ ↦ ⟨fun other hmem ↦ (hall other hmem).1.detaches vm, rfl⟩,
      hspares, fun hoblige ↦ ?_⟩, fun _ ↦ rfl⟩
    exact absurd (hoblige _ (List.mem_cons_of_mem _ List.mem_cons_self)) hrefusal
  | left hasked hdetached =>
    obtain ⟨rfl, hquiet, hpresent, -⟩ := hasked.of_getEnv
    have hlast := hdetached.of_detach
    dsimp only at hlast
    subst hlast
    replace hquiet := hquiet.of_within hwithin
    refine ⟨⟨?_, fun other ↦ ?_, fun vm hvm ↦ ⟨?_, ?_⟩, hspares, fun _ ↦ ⟨rfl, ?_⟩⟩,
      fun other ↦ refersTo_recount bridge id other _⟩
    · exact .detach hregistered hbridge hquiet hwithin ⟨rfl, rfl⟩ rfl
        ((hsame id).trans hregistered) rfl
    · exact (registration_recount bridge id other _).trans (hsame other)
    · refine List.forall_mem_append.2 ⟨fun other hmem ↦ (hquiet other hmem).1.detaches vm, ?_⟩
      rw [List.forall_mem_singleton]
      exact fun hother ↦ hvm hother.1.symm
    · exact funext fun caller ↦ Presence.put_of_vm_ne _ _ hvm
    · have hsome : (first.outside registration.vm thread.id).isSome := hpresent _ rfl
      rw [if_pos hsome]
      rfl

theorem ensures_detachFrom_move {id : LifecycleId} {registration : Registration}
    (hregistered : (first.bridge.lifecycle id).registration = some registration) :
    Ensures Exchange.KeepsPresence thread (id.detachFrom registration) first
      fun exchanges _ last ↦
        Withdraws manner id registration thread.id first exchanges last := by
  rw [LifecycleId.ensures_detachFrom_iff]
  exact (ensures_detach_cleared manner hregistered .rehook).weaken fun _ _ _ ↦ And.left

/-- What comes of asking a lifecycle for an environment: either nobody is attached, or the running
thread is, under the registration that is there. -/
def Joins (manner : Manner) (id : LifecycleId) (thread : Nat) (first : Moment Presence)
    (exchanges : List (Exchange Presence)) (last : Moment Presence) : Prop :=
  last = first ∧ AllQuiet first exchanges ∨
    ∃ registration, (first.bridge.lifecycle id).registration = some registration ∧
      Attempted manner id registration thread first exchanges true last

variable {manner} in
theorem Joins.move {id : LifecycleId} {exchanges : List (Exchange Presence)}
    {last : Moment Presence} (hjoins : Joins manner id thread.id first exchanges last) :
    Move manner thread.id first exchanges last := by
  rcases hjoins with ⟨rfl, hquiet⟩ | ⟨registration, hregistered, hattempted⟩
  · exact .aside (.refl _) hquiet
  · exact hattempted.move hregistered

theorem ensures_enter_joins (id : LifecycleId) (config : AttachConfig)
    (hmanner : manner.isBrief = (config.isScoped || thread.isExiting)) :
    Ensures Exchange.KeepsPresence thread (id.enter config).run first
      fun exchanges _ last ↦ Joins manner id thread.id first exchanges last := by
  rw [LifecycleId.ensures_enter_iff]
  cases hregistered : (first.bridge.lifecycle id).registration with
  | none => exact .inl ⟨rfl, allQuiet_nil⟩
  | some registration =>
    refine (ensures_attachTo_attempted manner id registration config hmanner).weaken ?_
    rintro exchanges (error | ⟨pointer, _ | _⟩) last hattempted
    · exact .inl hattempted
    · exact .inl hattempted.2.2
    · exact .inr ⟨registration, hregistered, hattempted⟩

theorem ensures_attach_joins (id : LifecycleId) (config : AttachConfig) :
    Ensures Exchange.KeepsPresence thread (id.attach config).run first
      fun exchanges _ last ↦ Joins thread.manner id thread.id first exchanges last := by
  rw [LifecycleId.ensures_attach_iff]
  exact ensures_enter_joins thread.manner id { config with isScoped := false } thread.isBrief_manner

/-- What comes of detaching the running thread through a lifecycle. -/
def Quits (manner : Manner) (id : LifecycleId) (thread : Nat) (first : Moment Presence)
    (exchanges : List (Exchange Presence)) (last : Moment Presence) : Prop :=
  last = first ∧ exchanges = [] ∨
    ∃ registration, (first.bridge.lifecycle id).registration = some registration ∧
      Withdraws manner id registration thread first exchanges last

variable {manner} in
theorem Quits.move {id : LifecycleId} {exchanges : List (Exchange Presence)}
    {last : Moment Presence} (hquits : Quits manner id thread.id first exchanges last) :
    Move manner thread.id first exchanges last := by
  rcases hquits with ⟨rfl, rfl⟩ | ⟨registration, -, hwithdraws⟩
  · exact .aside (.refl _) allQuiet_nil
  · exact hwithdraws.move

theorem ensures_detach_quits (id : LifecycleId) :
    Ensures Exchange.KeepsPresence thread id.detach first
      fun exchanges _ last ↦ Quits manner id thread.id first exchanges last := by
  rw [LifecycleId.ensures_detach_iff]
  cases hregistered : (first.bridge.lifecycle id).registration with
  | none => exact .inl ⟨rfl, rfl⟩
  | some registration =>
    refine (ensures_detachFrom_move manner hregistered).weaken ?_
    intro exchanges _ last hwithdraws
    exact .inr ⟨registration, hregistered, hwithdraws⟩

theorem ensures_leave_quits (id : LifecycleId) (config : AttachConfig) (env : Env)
    (attachedHere : Bool) :
    Ensures Exchange.KeepsPresence thread (id.leave config env attachedHere) first
      fun exchanges _ last ↦ Quits manner id thread.id first exchanges last := by
  rw [LifecycleId.ensures_leave_iff]
  cases attachedHere && config.isScoped with
  | false => exact .inl ⟨rfl, rfl⟩
  | true =>
    cases hlive : first.bridge.registered? id env.generation with
    | none => exact .inl ⟨rfl, rfl⟩
    | some registration =>
      have hregistered := (Option.filter_eq_some_iff.1 hlive).1
      refine (ensures_detachFrom_move manner hregistered).weaken ?_
      intro exchanges _ last hwithdraws
      exact .inr ⟨registration, hregistered, hwithdraws⟩

/-! ## Giving up references -/

/-- What comes of giving up a reference.  A thread that has to be attached for it is detached again,
so everyone is where they were, if the machine obliges. -/
structure Restores (manner : Manner) (thread : Nat) (first : Moment Presence)
    (exchanges : List (Exchange Presence)) (last : Moment Presence) : Prop where
  moves : Moves manner thread first exchanges last
  registered : ∀ id, (last.bridge.lifecycle id).registration =
    (first.bridge.lifecycle id).registration
  stays : ∀ vm, (first.outside vm thread).isSome →
    (∀ exchange ∈ exchanges, ¬ exchange.Detaches vm) ∧
      last.outside vm thread = first.outside vm thread
  obliged : AllOblige exchanges → last.outside = first.outside

namespace Restores

variable {manner : Manner} {thread : Nat} {first middle last : Moment Presence}
  {begun rest : List (Exchange Presence)}

theorem still (hquiet : AllQuiet first begun) : Restores manner thread first begun first :=
  ⟨.still hquiet, fun _ ↦ rfl,
    fun vm _ ↦ ⟨fun exchange hmem ↦ (hquiet exchange hmem).1.detaches vm, rfl⟩, fun _ ↦ rfl⟩

theorem nothing : Restores manner thread first [] first :=
  still allQuiet_nil

theorem trans (hfirst : Restores manner thread first begun middle)
    (hlast : Restores manner thread middle rest last) :
    Restores manner thread first (begun ++ rest) last := by
  refine ⟨hfirst.moves.trans hlast.moves, fun id ↦ ?_, fun vm hattached ↦ ?_, fun hoblige ↦ ?_⟩
  · exact (hlast.registered id).trans (hfirst.registered id)
  · obtain ⟨hbegun, hmiddle⟩ := hfirst.stays vm hattached
    rw [← hmiddle] at hattached
    obtain ⟨hrest, hsame⟩ := hlast.stays vm hattached
    exact ⟨List.forall_mem_append.2 ⟨hbegun, hrest⟩, hsame.trans hmiddle⟩
  · obtain ⟨hbegun, hrest⟩ := allOblige_append.1 hoblige
    exact (hlast.obliged hrest).trans (hfirst.obliged hbegun)

end Restores

theorem ensures_deleteGlobal_restores (id : LifecycleId) (generation : Nat) (handle : Handle)
    (hmanner : manner.isBrief = true) :
    Ensures Exchange.KeepsPresence thread (id.deleteGlobal generation handle) first
      fun exchanges _ last ↦ Restores manner thread.id first exchanges last := by
  rw [LifecycleId.ensures_deleteGlobal_iff]
  cases hlive : first.bridge.registered? id generation with
  | none => exact .nothing
  | some registration =>
    have hregistered := (Option.filter_eq_some_iff.1 hlive).1
    refine (ensures_attachTo_attempted manner id registration { isScoped := true } hmanner).weaken
      ?_
    rintro begun (error | ⟨pointer, _ | _⟩) attached hattempted
    · obtain ⟨rfl, hquiet⟩ := hattempted
      exact .still hquiet
    · obtain ⟨-, -, rfl, hquiet⟩ := hattempted
      refine (ensures_env pointer _).weaken ?_
      rintro deleted _ last ⟨rfl, hdeleted⟩
      exact .still (allQuiet_append.2 ⟨hquiet, hdeleted⟩)
    · have hbegun := hattempted.move hregistered
      obtain ⟨hstays, habsent, -, bridge, hbridge, rfl⟩ := hattempted
      refine (ensures_env pointer _).weaken ?_
      rintro deleted _ middle ⟨rfl, hdeleted⟩
      have hsame : ∀ other, ((bridge.recount id (· + 1)).lifecycle other).registration =
          (first.bridge.lifecycle other).registration := by
        intro other
        rw [registration_recount, hbridge.lifecycle]
      rw [if_pos rfl]
      refine (ensures_detachFrom_move manner ((hsame id).trans hregistered)).weaken ?_
      rintro ended _ last hwithdraws
      refine ⟨.step hbegun (.trans (.still hdeleted) (.single hwithdraws.move)), fun other ↦ ?_,
        fun vm hattached ↦ ?_, fun hoblige ↦ ?_⟩
      · exact (hwithdraws.registered other).trans (hsame other)
      · have hvm : vm ≠ registration.vm := by
          rintro rfl
          rw [habsent] at hattached
          cases hattached
        obtain ⟨hended, hlast⟩ := hwithdraws.only vm hvm
        rw [hlast]
        refine ⟨?_, Presence.put_of_vm_ne _ _ hvm⟩
        rw [List.forall_mem_append, List.forall_mem_append]
        exact ⟨fun exchange hmem ↦ (hstays exchange hmem).1 vm,
          fun exchange hmem ↦ (hdeleted exchange hmem).1.detaches vm, hended⟩
      · rw [allOblige_append, allOblige_append] at hoblige
        rw [(hwithdraws.obliged hoblige.2.2).1, Presence.put_put,
          Presence.put_eq_self _ _ habsent]

theorem ensures_release_restores (reference : GlobalReference) (hmanner : manner.isBrief = true) :
    Ensures Exchange.KeepsPresence thread reference.release first
      fun exchanges _ last ↦ Restores manner thread.id first exchanges last := by
  rw [GlobalReference.ensures_release_iff]
  cases reference.raw with
  | none => exact .nothing
  | some handle => exact ensures_deleteGlobal_restores manner _ _ handle hmanner

theorem ensures_drop_restores (reference : GlobalReference) (hmanner : manner.isBrief = true) :
    Ensures Exchange.KeepsPresence thread reference.drop first
      fun exchanges _ last ↦ Restores manner thread.id first exchanges last := by
  have hdrop : reference.drop = (fun _ ↦ ()) <$> reference.release := rfl
  rw [hdrop, Program.ensures_map]
  exact ensures_release_restores manner reference hmanner

end

end JavaInterop
