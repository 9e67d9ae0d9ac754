import JavaInterop.Environment.Env
import JavaInterop.Proofs.Interface.Ledger
import JavaInterop.Proofs.Program.Fallible
import Mathlib.Algebra.BigOperators.Group.Finset.Basic

/-!
# Balancing references

Whatever an operation borrows from a machine it gives back, hands over with its result, or keeps
with a cached class.  `Balances` says so for a piece of code that starts with a share of what is
lent out: everything else, the rest, is still lent out in the end.  Since the rest is arbitrary, a
share that is put aside for a while is part of it, and the rules for sequences and for scopes only
speak about what the code at hand is responsible for.

The machine may fail or raise an exception in every call; the law says only that a call does not
touch anything beyond its own answer and argument, and that the registration of the environment
stays.
-/

namespace JavaInterop

variable [Host] {α β : Type}

/-! ## The law -/

/-- The environment belongs to a registered machine. -/
def Bridge.Serves (bridge : Bridge) (env : Env) : Prop :=
  ∃ registration, bridge.registered? env.lifecycle env.generation = some registration ∧
    registration.vm = env.pointer.vm

/-- Nothing that can still be used is kept under the key. -/
def Bridge.Vacant (bridge : Bridge) (key : DescriptorKey) : Prop :=
  ∀ reference, bridge.classes.find? key = some reference → bridge.isUsable reference = false

/-- The functions that may raise an exception: all that must not be called while one is pending, but
not the one for a superclass. -/
def EnvFunction.mayFault : EnvFunction → Bool
  | getSuperclass _ => false
  | function => !function.isSafeWhilePending

/-- How getting hold of an environment ends for a thread that works with one: it is there, or the
thread is attached again. -/
def AttachLaw : (request : Call) → request.Reply → Prop
  | .getEnv vm _, reply => reply = .error .threadDetached ∨ ∃ pointer, reply = .ok pointer ∧
    pointer.vm = vm
  | .attach vm _, reply => ∃ pointer, reply = .ok pointer ∧ pointer.vm = vm
  | _, _ => True

/-- What may be relied on in a call.  Other code may run during a call and change the bridge, but it
leaves the cached classes alone, and a registration neither ends, if it is the one of the
environment, nor comes back. -/
structure Exchange.KeepsAccount (env : Env) (exchange : Exchange Account) : Prop where
  pending : PendingLaw EnvFunction.mayFault exchange.before.outside.pending
    exchange.after.outside.pending exchange.request exchange.reply
  ledger : LedgerLaw exchange.before.outside exchange.after.outside exchange.request exchange.reply
  attach : AttachLaw exchange.request exchange.reply
  serves : exchange.before.bridge.Serves env → exchange.after.bridge.Serves env
  classes : exchange.after.bridge.classes = exchange.before.bridge.classes
  gone : ∀ key reference, exchange.before.bridge.classes.find? key = some reference →
    exchange.before.bridge.isUsable reference = false →
    exchange.after.bridge.isUsable reference = false

/-! ## Cached classes -/

/-- The part of a reference that counts for an environment: nothing if it was issued under another
registration. -/
def Env.shareOf (env : Env) (reference : GlobalReference) : Multiset Resource :=
  if reference.lifecycle = env.lifecycle ∧ reference.generation = env.generation then
    globalShare reference.raw
  else 0

/-- The references to cached classes. -/
def Bridge.kept (bridge : Bridge) (env : Env) : Multiset Resource :=
  ∑ key ∈ bridge.classes.keys.toFinset, (bridge.classes.find? key).elim 0 env.shareOf

theorem shareOf_of_not_usable {env : Env} {bridge : Bridge} {reference : GlobalReference}
    (hserves : bridge.Serves env) (husable : bridge.isUsable reference = false) :
    env.shareOf reference = 0 := by
  obtain ⟨registration, hregistered, -⟩ := hserves
  unfold Env.shareOf
  split
  · rename_i hissued
    obtain ⟨hlifecycle, hgeneration⟩ := hissued
    cases hraw : reference.raw with
    | none => rfl
    | some handle =>
      simp [Bridge.isUsable, Bridge.isLive, GlobalReference.isReleased, hraw, hlifecycle,
        hgeneration, hregistered] at husable
  · rfl

/-- Keeping a class under a vacant key adds its reference to the ones that are kept. -/
theorem kept_insert {env : Env} {bridge : Bridge} {key : DescriptorKey}
    (reference : GlobalReference) (hserves : bridge.Serves env) (hvacant : bridge.Vacant key) :
    ({ bridge with classes := bridge.classes.insert key reference } : Bridge).kept env =
      bridge.kept env + env.shareOf reference := by
  have hkeys : (bridge.classes.insert key reference).keys.toFinset =
      insert key (bridge.classes.keys.toFinset.erase key) := by
    ext other
    by_cases hother : other = key
    · simp [Store.insert, Store.keys, hother]
    · simp [Store.insert, Store.keys, Store.erase, hother]
  have hold : (bridge.classes.find? key).elim 0 env.shareOf = 0 := by
    cases hfind : bridge.classes.find? key with
    | none => rfl
    | some old => exact shareOf_of_not_usable hserves (hvacant old hfind)
  have hothers : ∑ other ∈ bridge.classes.keys.toFinset.erase key,
      ((bridge.classes.insert key reference).find? other).elim 0 env.shareOf =
        ∑ other ∈ bridge.classes.keys.toFinset.erase key,
          (bridge.classes.find? other).elim 0 env.shareOf := by
    refine Finset.sum_congr rfl ?_
    intro other hmem
    rw [Store.find?_insert_of_ne _ _ (Finset.ne_of_mem_erase hmem)]
  have hkept : bridge.kept env = ∑ other ∈ bridge.classes.keys.toFinset.erase key,
      (bridge.classes.find? other).elim 0 env.shareOf :=
    (Finset.sum_erase (a := key) _ hold).symm
  have hnew : ((bridge.classes.insert key reference).find? key).elim 0 env.shareOf =
      env.shareOf reference := by
    simp
  calc
    Bridge.kept { bridge with classes := bridge.classes.insert key reference } env =
        env.shareOf reference + ∑ other ∈ bridge.classes.keys.toFinset.erase key,
          (bridge.classes.find? other).elim 0 env.shareOf := by
      rw [Bridge.kept, hkeys, Finset.sum_insert (Finset.notMem_erase _ _), hothers, hnew]
    _ = env.shareOf reference + bridge.kept env := by rw [hkept]
    _ = bridge.kept env + env.shareOf reference := add_comm _ _

/-! ## Balanced programs -/

/-- What is said about a piece of code at one moment: whether an exception is pending, and the share
that it is responsible for. -/
abbrev Holding := Bool → Multiset Resource → Prop

/-- The bridge serves the environment, and under the given key, if there is one, nothing is kept
that could be used. -/
structure Ready (env : Env) (vacant : Option DescriptorKey) (bridge : Bridge) : Prop where
  serves : bridge.Serves env
  vacant : ∀ key, vacant = some key → bridge.Vacant key

/-- A change of the bridge that concerns neither the cached classes nor the registrations. -/
structure Harmless (change : Bridge → Bridge) : Prop where
  classes : ∀ bridge, (change bridge).classes = bridge.classes
  registered : ∀ bridge id generation,
    (change bridge).registered? id generation = bridge.registered? id generation

theorem Harmless.ready {change : Bridge → Bridge} (hharmless : Harmless change) {env : Env}
    {vacant : Option DescriptorKey} {bridge : Bridge} (hready : Ready env vacant bridge) :
    Ready env vacant (change bridge) := by
  constructor
  · obtain ⟨registration, hregistered, hvm⟩ := hready.serves
    exact ⟨registration, (hharmless.registered _ _ _).trans hregistered, hvm⟩
  · intro key hkey reference hfind
    rw [hharmless.classes] at hfind
    have hunusable := hready.vacant key hkey reference hfind
    unfold Bridge.isUsable Bridge.isLive at hunusable ⊢
    rw [hharmless.registered]
    exact hunusable

/-- A share consists of things that belong to the machine of the environment. -/
def Env.Lent (env : Env) (share : Multiset Resource) : Prop :=
  ∀ resource ∈ share, resource.vm = env.pointer.vm

namespace Env.Lent

variable {env : Env} {share other : Multiset Resource}

omit [Host] in
theorem add (hshare : env.Lent share) (hother : env.Lent other) : env.Lent (share + other) := by
  intro resource hmem
  rcases Multiset.mem_add.1 hmem with hmem | hmem
  · exact hshare resource hmem
  · exact hother resource hmem

omit [Host] in
theorem left (hboth : env.Lent (share + other)) : env.Lent share :=
  fun resource hmem ↦ hboth resource (Multiset.mem_add.2 (.inl hmem))

omit [Host] in
theorem right (hboth : env.Lent (share + other)) : env.Lent other :=
  fun resource hmem ↦ hboth resource (Multiset.mem_add.2 (.inr hmem))

end Env.Lent

/-- The situation after a piece of code: besides its share, everything is lent out that was so
before, and what was added to the cached classes. -/
def Closes (env : Env) (vacant : Option DescriptorKey) (first : Bridge)
    (rest : Multiset Resource) (holding : Holding) (last : Moment Account) : Prop :=
  Ready env vacant last.bridge ∧ ∃ share added, holding last.outside.pending share ∧
    env.Lent share ∧ last.bridge.kept env = first.kept env + added ∧
    last.outside.live = share + (added + rest)

/-- What was added to the cached classes on the way counts as rest from there on. -/
theorem Closes.trans {env : Env} {vacant : Option DescriptorKey} {first middle : Bridge}
    {rest added : Multiset Resource} {holding : Holding} {last : Moment Account}
    (hkept : middle.kept env = first.kept env + added)
    (hcloses : Closes env vacant middle (added + rest) holding last) :
    Closes env vacant first rest holding last := by
  obtain ⟨hready, share, added', hshare, hlent, hkept', hlive⟩ := hcloses
  refine ⟨hready, share, added + added', hshare, hlent, ?_, ?_⟩
  · calc
      last.bridge.kept env = middle.kept env + added' := hkept'
      _ = first.kept env + added + added' := by rw [hkept]
      _ = first.kept env + (added + added') := add_assoc _ _ _
  · calc
      last.outside.live = share + (added' + (added + rest)) := hlive
      _ = share + (added' + added + rest) := by rw [add_assoc]
      _ = share + (added + added' + rest) := by rw [add_comm added' added]

open Program (Ensures)

/-- Started with a share as in `pre`, the program ends with a share as in `post`. -/
def Balances (env : Env) (vacant : Option DescriptorKey) (pre : Holding) (program : Program α)
    (post : α → Holding) : Prop :=
  ∀ thread (first : Moment Account) share rest, Ready env vacant first.bridge →
    pre first.outside.pending share → env.Lent share → first.outside.live = share + rest →
    Ensures (Exchange.KeepsAccount env) thread program first fun _ result last ↦
      Closes env vacant first.bridge rest (post result) last

namespace Balances

variable {env : Env} {vacant : Option DescriptorKey} {pre : Holding} {post : α → Holding}

theorem weaken {narrow : Holding} {program : Program α} {wider : α → Holding}
    (hprogram : Balances env vacant pre program post)
    (hpre : ∀ pending share, narrow pending share → pre pending share)
    (hpost : ∀ result pending share, post result pending share → wider result pending share) :
    Balances env vacant narrow program wider := by
  intro thread first share rest hready hnarrow hlent hlive
  refine (hprogram thread first share rest hready (hpre _ _ hnarrow) hlent hlive).weaken ?_
  rintro exchanges result last ⟨hready', share', added, hshare, hrest⟩
  exact ⟨hready', share', added, hpost _ _ _ hshare, hrest⟩

theorem done {result : α} (hpost : ∀ pending share, pre pending share → post result pending share) :
    Balances env vacant pre (pure result) post := by
  intro thread first share rest hready hpre hlent hlive
  rw [Program.ensures_pure]
  exact ⟨hready, share, 0, hpost _ _ hpre, hlent, by simp, by simp [hlive]⟩

theorem bind {program : Program α} {next : α → Program β} {later : β → Holding}
    (hprogram : Balances env vacant pre program post)
    (hnext : ∀ value, Balances env vacant (post value) (next value) later) :
    Balances env vacant pre (program >>= next) later := by
  intro thread first share rest hready hpre hlent hlive
  rw [Program.ensures_bind]
  refine (hprogram thread first share rest hready hpre hlent hlive).weaken ?_
  rintro begun value middle ⟨hready', share', added, hshare', hlent', hkept', hlive'⟩
  have hrest := hnext value thread middle share' (added + rest) hready' hshare' hlent' hlive'
  exact hrest.weaken fun exchanges result last hcloses ↦ hcloses.trans hkept'

/-- A fact that is known at the beginning. -/
theorem given {fact : Prop} {program : Program α}
    (hprogram : fact → Balances env vacant pre program post) :
    Balances env vacant (fun pending share ↦ pre pending share ∧ fact) program post := by
  rintro thread first share rest hready ⟨hpre, hfact⟩
  exact hprogram hfact thread first share rest hready hpre

/-- What is certain about the result can be added. -/
theorem certain {program : Program α} {wanted : α → Prop}
    (hprogram : Balances env vacant pre program post) (halways : Always program wanted) :
    Balances env vacant pre program fun result pending share ↦
      post result pending share ∧ wanted result := by
  intro thread first share rest hready hpre hlent hlive
  have hresult := halways Account (Exchange.KeepsAccount env) thread first
  refine ((hprogram thread first share rest hready hpre hlent hlive).and hresult).weaken ?_
  rintro exchanges result last ⟨⟨hready', share', added, hpost, hrest⟩, hwanted⟩
  exact ⟨hready', share', added, ⟨hpost, hwanted⟩, hrest⟩

theorem map {program : Program α} {change : α → β} {later : β → Holding}
    (hprogram : Balances env vacant pre program fun result ↦ later (change result)) :
    Balances env vacant pre (change <$> program) later := by
  intro thread first share rest hready hpre hlent hlive
  rw [Program.ensures_map]
  exact hprogram thread first share rest hready hpre hlent hlive

/-- A share that the program does not touch can be put aside. -/
theorem frame {program : Program α} (aside : Multiset Resource)
    (hprogram : Balances env vacant pre program post) :
    Balances env vacant (fun pending share ↦ ∃ own, pre pending own ∧ share = own + aside) program
      fun result pending share ↦ ∃ own, post result pending own ∧ share = own + aside := by
  rintro thread first _ rest hready ⟨own, hpre, rfl⟩ hlent hlive
  have hsplit : first.outside.live = own + (aside + rest) := by rw [hlive, add_assoc]
  refine (hprogram thread first own (aside + rest) hready hpre hlent.left hsplit).weaken ?_
  rintro exchanges result last ⟨hready', own', added, hpost, hlent', hkept, hlive'⟩
  refine ⟨hready', own' + aside, added, ⟨own', hpost, rfl⟩, hlent'.add hlent.right, hkept, ?_⟩
  calc
    last.outside.live = own' + (added + (aside + rest)) := hlive'
    _ = own' + (aside + (added + rest)) := by rw [add_left_comm added]
    _ = own' + aside + (added + rest) := (add_assoc _ _ _).symm

/-! ### Programs that call nothing -/

theorem look (view : Bridge → α) :
    Balances env vacant pre (Program.look view) fun _ ↦ pre := by
  intro thread first share rest hready hpre hlent hlive
  rw [Program.ensures_look]
  exact ⟨hready, share, 0, hpre, hlent, by simp, by simp [hlive]⟩

theorem state : Balances env vacant pre Program.state fun _ ↦ pre := look id

theorem current : Balances env vacant pre Program.current fun _ ↦ pre := by
  intro thread first share rest hready hpre hlent hlive
  rw [Program.ensures_current]
  exact ⟨hready, share, 0, hpre, hlent, by simp, by simp [hlive]⟩

theorem warn (text : String) : Balances env vacant pre (Program.warn text) fun _ ↦ pre := by
  intro thread first share rest hready hpre hlent hlive
  rw [Program.ensures_warn]
  exact ⟨hready, share, 0, hpre, hlent, by simp, by simp [hlive]⟩

theorem complain (text : String) :
    Balances env vacant pre (Program.complain text) fun _ ↦ pre := by
  intro thread first share rest hready hpre hlent hlive
  rw [Program.ensures_complain]
  exact ⟨hready, share, 0, hpre, hlent, by simp, by simp [hlive]⟩

/-- The registration of the environment is there. -/
theorem registered : Balances env vacant pre (env.lifecycle.registered? env.generation)
    fun answer pending share ↦ pre pending share ∧
      ∃ registration, answer = some registration ∧ registration.vm = env.pointer.vm := by
  intro thread first share rest hready hpre hlent hlive
  unfold LifecycleId.registered?
  rw [Program.ensures_look]
  exact ⟨hready, share, 0, ⟨hpre, hready.serves⟩, hlent, by simp, by simp [hlive]⟩

theorem update {change : Bridge → Bridge} (hharmless : Harmless change) :
    Balances env vacant pre (Program.update change) fun _ ↦ pre := by
  intro thread first share rest hready hpre hlent hlive
  rw [Program.ensures_update]
  refine ⟨hharmless.ready hready, share, 0, hpre, hlent, ?_, by simp [hlive]⟩
  simp [Bridge.kept, hharmless.classes]

/-! ### Calls -/

/-- A call of any kind: what it does to the share is for the laws of the machine to say. -/
theorem call {request : Call} {post : request.Reply → Holding}
    (hcall : ∀ before after reply share rest, pre before.pending share → env.Lent share →
      before.live = share + rest →
      PendingLaw EnvFunction.mayFault before.pending after.pending request reply →
      LedgerLaw before after request reply → AttachLaw request reply →
      ∃ share', post reply after.pending share' ∧ env.Lent share' ∧ after.live = share' + rest) :
    Balances env vacant pre (Program.perform request) post := by
  intro thread first share rest hready hpre hlent hlive
  rw [Program.ensures_perform]
  intro reply after hlaw
  obtain ⟨share', hpost, hlent', hlive'⟩ := hcall first.outside after.outside reply share rest
    hpre hlent hlive hlaw.pending hlaw.ledger hlaw.attach
  refine ⟨⟨hlaw.serves hready.serves, ?_⟩, share', 0, hpost, hlent', ?_, by simp [hlive']⟩
  · intro key hkey reference hfind
    have hbefore : first.bridge.classes.find? key = some reference := by
      rw [← show after.bridge.classes = first.bridge.classes from hlaw.classes]
      exact hfind
    exact hlaw.gone key reference hbefore (hready.vacant key hkey reference hbefore)
  · have hclasses : after.bridge.classes = first.bridge.classes := hlaw.classes
    simp [Bridge.kept, hclasses]

end Balances

/-- The code is responsible for exactly this share, and no exception is pending if that is said. -/
def Opening (calm : Bool) (share : Multiset Resource) : Holding := fun pending own ↦
  (calm = true → pending = false) ∧ own = share

namespace Balances

variable {env : Env} {vacant : Option DescriptorKey} {calm : Bool} {share : Multiset Resource}
  {pointer : EnvPointer} {function : EnvFunction}

/-- A function that takes nothing back adds its answer to the share.  An exception that was not
pending before means that it failed. -/
theorem ask (hsafe : function.isSafeWhilePending = false) (hreturned : function.returned = none) :
    Balances env vacant (Opening calm share) (env.perform function) fun reply pending own ↦
      own = function.brought reply + share ∧ (calm = true → pending = true →
        EnvFunction.mayFault function = true ∧ function.Fails reply ∧
          function.brought reply = 0) := by
  refine call ?_
  rintro before after reply own rest ⟨hcalm, rfl⟩ hlent hlive hpending ⟨hvm, hraised, hafter⟩ -
  have hbrought : env.Lent (function.brought reply) := hvm
  refine ⟨_, ⟨rfl, ?_⟩, hbrought.add hlent, ?_⟩
  · intro hyes hafter
    have hclear := hcalm hyes
    obtain ⟨hmay, hfails⟩ := hpending.raised hclear hafter hsafe
    exact ⟨hmay, hfails, hraised hclear hafter⟩
  · rw [hafter, hreturned, takeBack, hlive, add_assoc]

/-- A function that raises no exception leaves the situation as it is. -/
theorem askQuiet (hquiet : EnvFunction.mayFault function = false)
    (hreturned : function.returned = none) (hsafe : function.isSafeWhilePending = false) :
    Balances env vacant (Opening calm share) (env.perform function)
      fun reply ↦ Opening calm (function.brought reply + share) := by
  refine (ask hsafe hreturned).weaken (fun _ _ hpre ↦ hpre) ?_
  rintro reply pending own ⟨hown, hraised⟩
  refine ⟨?_, hown⟩
  intro hcalm
  cases pending with
  | false => rfl
  | true =>
    have hmay := (hraised hcalm rfl).1
    rw [hquiet] at hmay
    exact absurd hmay Bool.false_ne_true

/-- What is given back to its machine leaves the share. -/
theorem giveBack {resource : Resource} (hreturned : function.returned = some resource)
    (hpointer : pointer.vm = env.pointer.vm) :
    Balances env vacant (Opening calm ({resource} + share))
      (Program.perform (.env pointer function)) fun _ ↦ Opening calm share := by
  refine call ?_
  rintro before after reply own rest ⟨hcalm, rfl⟩ hlent hlive hpending ⟨-, -, hafter⟩ -
  have hsafe : function.isSafeWhilePending = true ∧ function.brought reply = 0 := by
    cases function with
    | deleteLocalRef | deleteGlobalRef | releaseStringChars => exact ⟨rfl, rfl⟩
    | _ => cases hreturned
  have hvm : resource.vm = pointer.vm :=
    (hlent.left resource (Multiset.mem_singleton_self _)).trans hpointer.symm
  refine ⟨share, ⟨?_, rfl⟩, hlent.right, ?_⟩
  · intro hyes
    cases hpending' : after.pending with
    | false => rfl
    | true => exact absurd (hcalm hyes ▸ hpending.safe hsafe.1 hpending') Bool.false_ne_true
  · calc
      after.live = takeBack pointer.vm (some resource) before.live := by
        rw [hafter, hsafe.2, hreturned, zero_add]
      _ = ({resource} + (share + rest)).erase resource := by
        rw [takeBack, if_pos hvm, hlive, add_assoc]
      _ = share + rest := Multiset.erase_cons_head _ _

/-- A function that neither takes nor gives anything. -/
theorem idle (hreturned : function.returned = none)
    (hbrought : ∀ reply, function.brought reply = 0) (hsafe : function.isSafeWhilePending = true) :
    Balances env vacant (Opening calm share) (env.perform function) fun _ ↦ Opening calm share := by
  refine call ?_
  rintro before after reply own rest ⟨hcalm, rfl⟩ hlent hlive hpending ⟨-, -, hafter⟩ -
  refine ⟨own, ⟨?_, rfl⟩, hlent, ?_⟩
  · intro hyes
    cases hpending' : after.pending with
    | false => rfl
    | true => exact absurd (hcalm hyes ▸ hpending.safe hsafe hpending') Bool.false_ne_true
  · rw [hafter, hbrought, hreturned, takeBack, zero_add, hlive]

theorem check : Balances env vacant (Opening calm share) (env.perform .exceptionCheck)
    fun reply pending own ↦ Opening (calm || !reply) share pending own ∧
      (calm = true → reply = false) := by
  refine call ?_
  rintro before after reply own rest ⟨hcalm, rfl⟩ hlent hlive ⟨hreply, hsame⟩ ⟨-, -, hafter⟩ -
  refine ⟨own, ⟨⟨?_, rfl⟩, fun hyes ↦ hreply.trans (hcalm hyes)⟩, hlent, ?_⟩
  · intro hyes
    rw [hsame]
    cases calm with
    | true => exact hcalm rfl
    | false => simpa [hreply] using hyes
  · have hsame' : after.live = 0 + before.live := hafter
    rw [hsame', zero_add, hlive]

/-- A pending exception is handed out as a local reference; without one there is none. -/
theorem occurred : Balances env vacant (Opening calm share) (env.perform .exceptionOccurred)
    fun reply pending own ↦ own = localShare reply + share ∧ pending = reply.isSome ∧
      (calm = true → reply = none) := by
  refine call ?_
  rintro before after reply own rest ⟨hcalm, rfl⟩ hlent hlive ⟨hreply, hsame⟩ ⟨hvm, -, hafter⟩ -
  have hbrought : env.Lent (localShare reply) := hvm
  refine ⟨_, ⟨rfl, hsame.trans hreply.symm, ?_⟩, hbrought.add hlent, ?_⟩
  · intro hyes
    rw [hcalm hyes] at hreply
    simpa using hreply
  · have hadded : after.live = localShare reply + before.live := hafter
    rw [hadded, hlive, add_assoc]

theorem clear {pre : Holding} (hpre : ∀ pending own, pre pending own → own = share) :
    Balances env vacant pre (env.perform .exceptionClear) fun _ ↦ Opening true share := by
  refine call ?_
  rintro before after reply own rest hholds hlent hlive hcleared ⟨-, -, hafter⟩ -
  obtain rfl := hpre _ _ hholds
  refine ⟨own, ⟨fun _ ↦ hcleared, rfl⟩, hlent, ?_⟩
  have hsame : after.live = 0 + before.live := hafter
  rw [hsame, zero_add, hlive]

/-- A call that is not a function of an environment, such as one for attaching the thread. -/
theorem invocation {request : Call} (hrequest : ∀ pointer function,
    request ≠ .env pointer function) :
    Balances env vacant (Opening calm share) (Program.perform request) fun reply pending own ↦
      Opening calm share pending own ∧ AttachLaw request reply := by
  refine call ?_
  rintro before after reply own rest ⟨hcalm, rfl⟩ hlent hlive hpending hledger hattach
  have hquiet : after.pending = true → before.pending = true := by
    cases request with
    | env pointer function => exact absurd rfl (hrequest pointer function)
    | _ => exact hpending
  have hafter : after.live = before.live := by
    cases request with
    | env pointer function => exact absurd rfl (hrequest pointer function)
    | _ => exact hledger
  refine ⟨own, ⟨⟨?_, rfl⟩, hattach⟩, hlent, hafter.trans hlive⟩
  intro hyes
  cases hpending' : after.pending with
  | false => rfl
  | true => exact absurd (hcalm hyes ▸ hquiet hpending') Bool.false_ne_true

/-- Not knowing whether an exception is pending does no harm. -/
theorem anyway {program : Program α} {post : α → Holding}
    (hprogram : Balances env vacant (Opening false share) program post) :
    Balances env vacant (Opening calm share) program post :=
  hprogram.weaken (fun _ _ hholds ↦ ⟨fun hyes ↦ absurd hyes Bool.false_ne_true, hholds.2⟩)
    fun _ _ _ hpost ↦ hpost

/-- What follows a call is responsible for the answer.  If the call raised an exception there is
nothing to be responsible for. -/
theorem askThen {next : function.Reply → Program α} {post : α → Holding}
    (hsafe : function.isSafeWhilePending = false) (hreturned : function.returned = none)
    (hfailed : ∀ reply, function.Fails reply → function.brought reply = 0 →
      Balances env vacant (Opening false 0) (next reply) post)
    (hnext : ∀ reply, Balances env vacant (Opening calm (function.brought reply)) (next reply)
      post) :
    Balances env vacant (Opening calm 0) (env.perform function >>= next) post := by
  refine (ask hsafe hreturned).bind ?_
  rintro reply thread first own rest hready ⟨hown, hraised⟩
  rw [add_zero] at hown
  by_cases hcalm : calm = true ∧ first.outside.pending = true
  · obtain ⟨-, hfails, hbrought⟩ := hraised hcalm.1 hcalm.2
    rw [hbrought] at hown
    exact hfailed reply hfails hbrought thread first own rest hready
      ⟨fun hyes ↦ absurd hyes Bool.false_ne_true, hown⟩
  · refine hnext reply thread first own rest hready ⟨?_, hown⟩
    intro hyes
    cases hpending : first.outside.pending with
    | false => rfl
    | true => exact absurd ⟨hyes, hpending⟩ hcalm

end Balances

end JavaInterop
