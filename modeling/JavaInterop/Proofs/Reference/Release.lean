import JavaInterop.Proofs.Environment.Writes
import JavaInterop.Proofs.Reference.Settled

/-!
# Releasing what others may have issued

Native code may hold references of any lifecycle, released ones and ones whose machine has gone.
Dropping such a reference deletes it at most once, and otherwise does no more than attach the thread
to a machine that it is not attached to, and detach it again.

For an environment this means that a drop never takes back more than what was held.  All of it is
taken back if it was issued under the registration of the environment.
-/

namespace JavaInterop

variable [Host] {ω α : Type} {law : Exchange ω → Prop} {thread : NativeThread}
  {first : Moment ω}

open Program (Ensures)

/-! ## Attaching for a moment -/

/-- Something stays as it is while threads are attached to machines that they are strange to, and
detached from them again. -/
structure Undisturbed (law : Exchange ω → Prop) (strange : VmId → Prop) (stays : ω → Prop) :
    Prop where
  find : ∀ thread vm version reply before after,
    law ⟨thread, .getEnv vm version, reply, before, after⟩ → stays before.outside →
      stays after.outside ∧ (reply.isOk = false → strange vm)
  attach : ∀ thread vm request reply before after,
    law ⟨thread, .attach vm request, reply, before, after⟩ → strange vm → stays before.outside →
      stays after.outside
  detach : ∀ thread vm reply before after,
    law ⟨thread, .detach vm, reply, before, after⟩ → strange vm → stays before.outside →
      stays after.outside

namespace Undisturbed

variable {strange : VmId → Prop} {stays : ω → Prop}

/-- Only a thread that a machine is strange to is attached to it. -/
theorem ensures_attachTo (hundisturbed : Undisturbed law strange stays) (id : LifecycleId)
    (registration : Registration) (config : AttachConfig) (hstays : stays first.outside) :
    Ensures law thread (id.attachTo registration config).run first fun _ result last ↦
      stays last.outside ∧ ∀ pointer, result = .ok (pointer, true) → strange registration.vm := by
  refine (id.ensures_attachTo_approach config).weaken fun exchanges result last happroach ↦ ?_
  cases happroach with
  | present hasked =>
    refine ⟨(hundisturbed.find _ _ _ _ _ _ hasked hstays).1, ?_⟩
    rintro _ ⟨⟩
  | unclear _ hasked =>
    obtain ⟨hlast, hfailed⟩ := hundisturbed.find _ _ _ _ _ _ hasked hstays
    exact ⟨hlast, fun _ _ ↦ hfailed rfl⟩
  | refused hasked hattached =>
    obtain ⟨hmiddle, hfailed⟩ := hundisturbed.find _ _ _ _ _ _ hasked hstays
    have hlast := hundisturbed.attach _ _ _ _ _ _ hattached (hfailed rfl) hmiddle
    exact ⟨hlast, fun _ _ ↦ hfailed rfl⟩
  | admitted hasked hattached =>
    obtain ⟨hmiddle, hfailed⟩ := hundisturbed.find _ _ _ _ _ _ hasked hstays
    have hlast := hundisturbed.attach _ _ _ _ _ _ hattached (hfailed rfl) hmiddle
    exact ⟨hlast, fun _ _ ↦ hfailed rfl⟩

theorem ensures_detachFrom (hundisturbed : Undisturbed law strange stays) (id : LifecycleId)
    (registration : Registration) (hstrange : strange registration.vm)
    (hstays : stays first.outside) :
    Ensures law thread (id.detachFrom registration) first fun _ _ last ↦ stays last.outside := by
  refine LifecycleId.ensures_detachFrom_parting.weaken fun exchanges _ last hparting ↦ ?_
  cases hparting with
  | absent hasked => exact (hundisturbed.find _ _ _ _ _ _ hasked hstays).1
  | refused hasked hdetached =>
    have hmiddle := (hundisturbed.find _ _ _ _ _ _ hasked hstays).1
    exact hundisturbed.detach _ _ _ _ _ hdetached hstrange hmiddle
  | left hasked hdetached =>
    have hmiddle := (hundisturbed.find _ _ _ _ _ _ hasked hstays).1
    have hlast := hundisturbed.detach _ _ _ _ _ hdetached hstrange hmiddle
    exact hlast

/-- A drop leaves things as they are, or as they are once the reference has been deleted. -/
theorem ensures_drop {gone : ω → Prop} {reference : GlobalReference}
    (hundisturbed : Undisturbed law strange stays) (hafterwards : Undisturbed law strange gone)
    (hdelete : ∀ thread pointer handle before after, reference.raw = some handle →
      law ⟨thread, .env pointer (.deleteGlobalRef handle), (), before, after⟩ →
      stays before.outside → gone after.outside)
    (hstays : stays first.outside) :
    Ensures law thread reference.drop first fun _ _ last ↦
      stays last.outside ∨ gone last.outside := by
  rw [GlobalReference.ensures_drop_iff]
  cases hraw : reference.raw with
  | none => exact .inl hstays
  | some handle =>
    dsimp only
    rw [LifecycleId.ensures_deleteGlobal_iff]
    cases first.bridge.registered? reference.lifecycle reference.generation with
    | none => exact .inl hstays
    | some registration =>
      refine (hundisturbed.ensures_attachTo _ _ _ hstays).weaken ?_
      rintro asked (error | ⟨pointer, attachedHere⟩) middle ⟨hmiddle, hstrange⟩
      · exact .inl hmiddle
      · dsimp only
        rw [Program.ensures_perform]
        intro reply after hlaw
        have hafter : gone after.outside := hdelete _ _ _ _ _ hraw hlaw hmiddle
        split
        · rename_i hattached
          have hstrange' : strange registration.vm := hstrange pointer (by rw [hattached])
          exact (hafterwards.ensures_detachFrom _ _ hstrange' hafter).weaken fun _ _ _ ↦ .inr
        · exact .inr hafter

end Undisturbed

/-! ## What is given back -/

/-- The cached classes are the same. -/
def Bridge.SameClasses (before after : Bridge) : Prop := after.classes = before.classes

instance : Bridge.Bookkeeping Bridge.SameClasses := ⟨fun _ _ _ ↦ rfl, fun _ _ _ ↦ rfl⟩

/-- A bridge that serves the environment goes on doing so. -/
def Env.StaysServed (env : Env) (before after : Bridge) : Prop :=
  before.Serves env → after.Serves env

instance {env : Env} : Bridge.Bookkeeping env.StaysServed where
  attached bridge id change := by
    rintro ⟨registration, hregistered, hvm⟩
    exact ⟨registration, ((harmless_countAttached id change).registered bridge _ _).trans
      hregistered, hvm⟩
  pending _ _ _ := id

variable {env : Env} {account : Moment Account}

theorem Program.Writes.ensures_served {program : Program α}
    (hwrites : program.Writes env.StaysServed) (hserves : account.bridge.Serves env) :
    Ensures (Exchange.KeepsAccount env) thread program account fun _ _ last ↦
      last.bridge.Serves env := by
  intro exchanges result last hrun hlaw
  have hserved : env.StaysServed account.bridge last.bridge :=
    hrun.writes (fun _ ↦ id) (fun _ _ _ hfirst hlast ↦ hlast ∘ hfirst) (hwrites _)
      fun exchange hmem ↦ (hlaw exchange hmem).serves
  exact hserved hserves

/-- What keeps the balance and puts nothing into the cache leaves the rest as it was. -/
theorem Balances.exact {pre : Holding} {program : Program α} {post : α → Holding}
    (hbalances : Balances env none pre program post)
    (hwrites : program.Writes Bridge.SameClasses) (hserves : account.bridge.Serves env)
    {share rest : Multiset Resource} (hpre : pre account.outside.pending share)
    (hlent : env.Lent share) (hlive : account.outside.live = share + rest) :
    Ensures (Exchange.KeepsAccount env) thread program account fun _ result last ↦
      last.bridge.Serves env ∧ ∃ own, post result last.outside.pending own ∧ env.Lent own ∧
        last.outside.live = own + rest := by
  intro exchanges result last hrun hlaw
  have hready : Ready env none account.bridge := ⟨hserves, fun _ hkey ↦ nomatch hkey⟩
  obtain ⟨hready', own, added, hpost, hlent', hkept, hlast⟩ :=
    hbalances thread account share rest hready hpre hlent hlive exchanges result last hrun hlaw
  have hclasses : account.bridge.SameClasses last.bridge :=
    hrun.writes (fun _ ↦ rfl) (fun _ _ _ hfirst hlast ↦ Eq.trans hlast hfirst) (hwrites _)
      fun exchange hmem ↦ (hlaw exchange hmem).classes
  have hadded : added = 0 := by
    unfold Bridge.kept at hkept
    rw [show last.bridge.classes = _ from hclasses] at hkept
    exact left_eq_add.1 hkept
  refine ⟨hready'.serves, own, hpost, hlent', ?_⟩
  rw [hlast, hadded, zero_add]

/-- What was held has been given back to the machine: no more than that, and all of it if it was
issued under the registration of the environment and lent out. -/
def Env.GivesBack [Owner α] (env : Env) (held : α) (before after : Multiset Resource) : Prop :=
  ∃ freed ≤ owned held, after + freed = before ∧
    (IssuedBy env held → env.Lent (owned held) → owned held ≤ before → freed = owned held)

namespace Env.GivesBack

variable [Owner α] {held : α} {before after : Multiset Resource}

omit [Host] in
theorem refl (hnothing : owned held = 0) (live : Multiset Resource) :
    env.GivesBack held live live :=
  ⟨0, Multiset.zero_le _, add_zero live, fun _ _ _ ↦ hnothing.symm⟩

omit [Host] in
theorem eq_of_nothing (hback : env.GivesBack held before after) (hnothing : owned held = 0) :
    after = before := by
  obtain ⟨freed, hle, hbefore, -⟩ := hback
  rw [hnothing] at hle
  rw [← hbefore, Multiset.le_zero.1 hle, add_zero]

omit [Host] in
/-- What was issued under the registration and is lent out is given back as a whole. -/
theorem all {rest : Multiset Resource} (hback : env.GivesBack held (owned held + rest) after)
    (hissued : IssuedBy env held) (hlent : env.Lent (owned held)) : after = rest := by
  obtain ⟨freed, -, hbefore, hall⟩ := hback
  rw [hall hissued hlent (Multiset.le_add_right _ _), add_comm] at hbefore
  exact add_left_cancel hbefore

omit [Host] in
theorem some (hback : env.GivesBack held before after) :
    env.GivesBack (Option.some held) before after := by
  obtain ⟨freed, hle, hbefore, hall⟩ := hback
  exact ⟨freed, hle, hbefore, fun hissued ↦ hall (hissued held rfl)⟩

end Env.GivesBack

/-- The reference that goes when a value is dropped. -/
def Value.held : Value → Option GlobalReference
  | .object reference => reference
  | _ => none

/-- Calls that are not about an environment take nothing back. -/
theorem undisturbed_account (lent : Multiset Resource → Prop) :
    Undisturbed (Exchange.KeepsAccount env) (fun _ ↦ True) fun account ↦ lent account.live where
  find _ _ _ _ _ _ hlaw hlent := by
    refine ⟨?_, fun _ ↦ trivial⟩
    rw [show (_ : Account).live = _ from hlaw.ledger]
    exact hlent
  attach _ _ _ _ _ _ hlaw _ hlent := by
    rw [show (_ : Account).live = _ from hlaw.ledger]
    exact hlent
  detach _ _ _ _ _ hlaw _ hlent := by
    rw [show (_ : Account).live = _ from hlaw.ledger]
    exact hlent

/-- Deleting a global reference takes back at most that one. -/
theorem Exchange.KeepsAccount.deleted {pointer : EnvPointer} {handle : Handle}
    {before after : Moment Account}
    (hlaw : Exchange.KeepsAccount env
      ⟨thread, .env pointer (.deleteGlobalRef handle), (), before, after⟩) :
    ∃ freed ≤ globalShare (some handle), after.outside.live + freed = before.outside.live := by
  obtain ⟨-, -, hafter⟩ := hlaw.ledger
  have hafter : after.outside.live =
      0 + takeBack pointer.vm (some (.globalReference handle)) before.outside.live := hafter
  rw [zero_add, takeBack] at hafter
  by_cases htaken : (Resource.globalReference handle).vm = pointer.vm ∧
      .globalReference handle ∈ before.outside.live
  · rw [if_pos htaken.1] at hafter
    refine ⟨{.globalReference handle}, le_rfl, ?_⟩
    rw [hafter, add_comm, Multiset.singleton_add]
    exact Multiset.cons_erase htaken.2
  · refine ⟨0, Multiset.zero_le _, ?_⟩
    rw [hafter, add_zero]
    split
    · rename_i hvm
      exact Multiset.erase_of_notMem fun hmem ↦ htaken ⟨hvm, hmem⟩
    · rfl

theorem ensures_drop_givesBack {reference : GlobalReference}
    (hserves : account.bridge.Serves env) :
    Ensures (Exchange.KeepsAccount env) thread reference.drop account fun _ _ last ↦
      last.bridge.Serves env ∧
        env.GivesBack reference account.outside.live last.outside.live := by
  intro exchanges result last hrun hlaw
  refine ⟨reference.writes_drop.ensures_served hserves exchanges result last hrun hlaw, ?_⟩
  by_cases hown : IssuedBy env reference ∧ env.Lent (owned reference) ∧
    owned reference ≤ account.outside.live
  · obtain ⟨hissued, hlent, hle⟩ := hown
    obtain ⟨rest, hrest⟩ := Multiset.le_iff_exists_add.1 hle
    have hbalances : Balances env none (Opening false (owned reference + 0)) reference.drop
        fun _ ↦ Opening false 0 := Balances.dropGlobal hissued
    rw [add_zero] at hbalances
    have hopening : Opening false (owned reference) account.outside.pending (owned reference) :=
      ⟨fun hno ↦ Bool.noConfusion hno, rfl⟩
    obtain ⟨-, own, ⟨-, rfl⟩, -, hlast⟩ := hbalances.exact reference.writes_drop hserves hopening
      hlent hrest exchanges result last hrun hlaw
    refine ⟨owned reference, le_rfl, ?_, fun _ _ _ ↦ rfl⟩
    rw [hlast, hrest, zero_add, add_comm]
  · have hdrop : last.outside.live = account.outside.live ∨
        ∃ freed ≤ owned reference, last.outside.live + freed = account.outside.live := by
      refine (undisturbed_account (· = account.outside.live)).ensures_drop
        (undisturbed_account fun lent ↦ ∃ freed ≤ owned reference,
          lent + freed = account.outside.live) ?_ rfl exchanges result last hrun hlaw
      intro thread pointer handle before after hraw hlaw hbefore
      obtain ⟨freed, hle, hfreed⟩ := Exchange.KeepsAccount.deleted hlaw
      refine ⟨freed, ?_, hfreed.trans hbefore⟩
      change freed ≤ globalShare reference.raw
      rw [hraw]
      exact hle
    rcases hdrop with hsame | ⟨freed, hle, hfreed⟩
    · exact ⟨0, Multiset.zero_le _, (add_zero _).trans hsame, fun hissued hlent hle ↦
        absurd ⟨hissued, hlent, hle⟩ hown⟩
    · exact ⟨freed, hle, hfreed, fun hissued hlent hle ↦ absurd ⟨hissued, hlent, hle⟩ hown⟩

theorem ensures_dropValue_givesBack (value : Value) (hserves : account.bridge.Serves env) :
    Ensures (Exchange.KeepsAccount env) thread value.drop account fun _ _ last ↦
      last.bridge.Serves env ∧
        env.GivesBack value.held account.outside.live last.outside.live := by
  rcases value with (_ | reference) | scalar | _
  · exact Program.ensures_pure.2 ⟨hserves, .refl rfl _⟩
  · refine (ensures_drop_givesBack hserves).weaken ?_
    exact fun _ _ _ hback ↦ ⟨hback.1, hback.2.some⟩
  · exact Program.ensures_pure.2 ⟨hserves, .refl rfl _⟩
  · exact Program.ensures_pure.2 ⟨hserves, .refl rfl _⟩

theorem ensures_dropError_givesBack (error : Error) (hserves : account.bridge.Serves env) :
    Ensures (Exchange.KeepsAccount env) thread error.drop account fun _ _ last ↦
      last.bridge.Serves env ∧
        env.GivesBack error.owned? account.outside.live last.outside.live := by
  unfold Error.drop
  cases error.owned? with
  | none => exact Program.ensures_pure.2 ⟨hserves, .refl rfl _⟩
  | some reference =>
    refine (ensures_drop_givesBack hserves).weaken ?_
    exact fun _ _ _ hback ↦ ⟨hback.1, hback.2.some⟩

end JavaInterop
