import JavaInterop.Proofs.Interface.Operand
import JavaInterop.Proofs.Lifecycle.Generations

/-!
# Stays

A thread stays with a machine from when it is attached until it is detached again.  During a stay it
has one environment, and its local references are only good for that stay.  A thread that is
attached anew begins another stay, and neither the number of its environment nor anything else that
the bridge looks at need tell the two stays apart; here each stay has a serial number.

The law says how a stay begins and how it ends.  Whatever is run, a stay lasts until the thread is
detached or the machine is destroyed.
-/

namespace JavaInterop

/-! ## The stays of all threads -/

/-- The time for which a thread is attached to a machine. -/
structure Stay where
  /-- The number of the environment that the thread has meanwhile. -/
  number : Nat
  serial : Nat
deriving DecidableEq

/-- Where each thread stays, and how many stays there have been. -/
structure Stays where
  stay : VmId → Nat → Option Stay := fun _ _ ↦ none
  drawn : Nat := 0

namespace Stays

/-- The same stays, but for one thread and one machine. -/
def put (stays : Stays) (vm : VmId) (thread : Nat) (stay : Option Stay) : Stays :=
  { stays with
    stay := fun other caller ↦
      if other = vm ∧ caller = thread then stay else stays.stay other caller }

/-- A thread begins a stay. -/
def begin (stays : Stays) (vm : VmId) (thread number : Nat) : Stays :=
  { stays.put vm thread (some ⟨number, stays.drawn⟩) with drawn := stays.drawn + 1 }

/-- A thread ends its stay. -/
def finish (stays : Stays) (vm : VmId) (thread : Nat) : Stays := stays.put vm thread none

/-- What a machine knows of the stays: which environment each thread has. -/
def attachments (stays : Stays) : Attachments :=
  fun vm thread ↦ (stays.stay vm thread).map Stay.number

variable (stays : Stays) (vm other : VmId) (thread caller number : Nat)

theorem stay_begin_of_ne (hne : ¬ (other = vm ∧ caller = thread)) :
    (stays.begin vm thread number).stay other caller = stays.stay other caller :=
  if_neg hne

theorem stay_finish_of_ne (hne : ¬ (other = vm ∧ caller = thread)) :
    (stays.finish vm thread).stay other caller = stays.stay other caller :=
  if_neg hne

theorem attachments_begin : (stays.begin vm thread number).attachments =
    stays.attachments.put vm thread (some number) := by
  funext other caller
  by_cases hsame : other = vm ∧ caller = thread
  · simp [attachments, Attachments.put, begin, put, hsame]
  · simp [attachments, Attachments.put, begin, put, hsame]

theorem attachments_finish :
    (stays.finish vm thread).attachments = stays.attachments.put vm thread none := by
  funext other caller
  by_cases hsame : other = vm ∧ caller = thread
  · simp [attachments, Attachments.put, finish, put, hsame]
  · simp [attachments, Attachments.put, finish, put, hsame]

end Stays

/-! ## The law of stays -/

/-- What happens to the stays in a call of a thread. -/
def StayLaw (thread : Nat) (before after : Stays) : (request : Call) → request.Reply → Prop
  | .getEnv vm _, reply => after = before ∧
    match before.stay vm thread with
    | some stay => reply = .ok ⟨vm, stay.number⟩
    | none => ∃ status, reply = .error status
  | .attach vm _, reply =>
    (∀ pointer, reply = .ok pointer → pointer.vm = vm ∧
      match before.stay vm thread with
      | some stay => pointer.number = stay.number ∧ after = before
      | none => after = before.begin vm thread pointer.number) ∧
    ∀ status, reply = .error status → after = before
  | .detach vm, reply =>
    (reply = .ok () → after = before.finish vm thread) ∧
    ∀ status, reply = .error status → after = before
  -- The thread that creates a machine is attached to it.
  | .create _, reply => after = before ∨ ∃ vm number, reply = .ok (some vm) ∧
    before.stay vm thread = none ∧ after = before.begin vm thread number
  -- A machine that is destroyed may take its threads with it, but no other machine's.
  | .destroy vm, _ => after.drawn = before.drawn ∧ ∀ other caller,
    after.stay other caller = before.stay other caller ∨
      other = vm ∧ after.stay other caller = none
  | .list _, _ => after = before
  | .env pointer function, reply => after = before ∧
    ∀ handle, function.answered reply = some handle → handle.vm = pointer.vm

/-- The call ends the stay of a thread with a machine. -/
def Exchange.Parts [Host] {ω : Type} (vm : VmId) (thread : Nat) : Exchange ω → Prop
  | ⟨caller, .detach left, reply, _, _⟩ => left = vm ∧ caller.id = thread ∧ reply = .ok ()
  | ⟨_, .destroy gone, _, _, _⟩ => gone = vm
  | _ => False

variable [Host] {ω κ α : Type}

/-- What may be relied on in a call.  Operations of different threads follow each other, so the
bridge does not change during a call. -/
structure Exchange.KeepsStays (exchange : Exchange Stays) : Prop where
  bridge : exchange.after.bridge = exchange.before.bridge
  law : StayLaw exchange.caller.id exchange.before.outside exchange.after.outside
    exchange.request exchange.reply

/-- A stay lasts until it is ended. -/
theorem Exchange.KeepsStays.lasts {exchange : Exchange Stays} (hkeeps : exchange.KeepsStays)
    {vm : VmId} {thread : Nat} {stay : Stay}
    (hstay : exchange.before.outside.stay vm thread = some stay) :
    exchange.after.outside.stay vm thread = some stay ∨ exchange.Parts vm thread := by
  obtain ⟨caller, request, reply, before, after⟩ := exchange
  obtain ⟨-, hlaw⟩ := hkeeps
  -- Who is attached anew was not attached before.
  have hbegin : ∀ other number, before.outside.stay other caller.id = none →
      after.outside = before.outside.begin other caller.id number →
      after.outside.stay vm thread = some stay := by
    intro other number hnone hafter
    have hne : ¬ (vm = other ∧ thread = caller.id) := by
      rintro ⟨rfl, rfl⟩
      cases hnone.symm.trans hstay
    rw [hafter, Stays.stay_begin_of_ne _ _ _ _ _ _ hne]
    exact hstay
  cases request with
  | getEnv => exact .inl (hlaw.1 ▸ hstay)
  | list => exact .inl (hlaw ▸ hstay)
  | env => exact .inl (hlaw.1 ▸ hstay)
  | create =>
    rcases hlaw with hsame | ⟨other, number, -, hnone, hafter⟩
    · exact .inl (hsame ▸ hstay)
    · exact .inl (hbegin other number hnone hafter)
  | attach other =>
    cases reply with
    | error status => exact .inl (hlaw.2 status rfl ▸ hstay)
    | ok pointer =>
      obtain ⟨-, hafter⟩ := hlaw.1 pointer rfl
      cases hfound : before.outside.stay other caller.id with
      | some old =>
        rw [hfound] at hafter
        exact .inl (hafter.2 ▸ hstay)
      | none =>
        rw [hfound] at hafter
        exact .inl (hbegin other pointer.number hfound hafter)
  | detach other =>
    cases reply with
    | error status => exact .inl (hlaw.2 status rfl ▸ hstay)
    | ok _ =>
      by_cases hsame : vm = other ∧ thread = caller.id
      · exact .inr ⟨hsame.1.symm, hsame.2.symm, rfl⟩
      · rw [hlaw.1 rfl, Stays.stay_finish_of_ne _ _ _ _ _ hsame]
        exact .inl hstay
  | destroy other =>
    rcases hlaw.2 vm thread with hsame | ⟨hgone, -⟩
    · exact .inl (hsame.trans hstay)
    · exact .inr hgone.symm

namespace Program

/-- Whatever is run, a stay lasts unless one of the calls ends it. -/
theorem Run.lasts {running : NativeThread} {program : Program α} {first last : Moment Stays}
    {exchanges : List (Exchange Stays)} {result : α}
    (hrun : program.Run running first exchanges result last)
    (hkeeps : ∀ exchange ∈ exchanges, exchange.KeepsStays) {vm : VmId} {thread : Nat} {stay : Stay}
    (hstays : ∀ exchange ∈ exchanges, ¬ exchange.Parts vm thread)
    (hstay : first.outside.stay vm thread = some stay) :
    last.outside.stay vm thread = some stay := by
  induction hrun with
  | done => exact hstay
  | call _ _ _ ih =>
    have hafter := (hkeeps _ List.mem_cons_self).lasts hstay
    refine ih (fun exchange hmem ↦ hkeeps exchange (List.mem_cons_of_mem _ hmem))
      (fun exchange hmem ↦ hstays exchange (List.mem_cons_of_mem _ hmem)) ?_
    exact hafter.resolve_right (hstays _ List.mem_cons_self)
  | read _ ih | write _ ih | thread _ ih | notify _ ih | remark _ ih =>
    exact ih hkeeps hstays hstay

end Program

end JavaInterop
