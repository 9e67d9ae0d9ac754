import JavaInterop.Proofs.Callback.Binding
import JavaInterop.Proofs.Callback.History
import JavaInterop.Proofs.Lifecycle.Issuers
import JavaInterop.Proofs.Reference.Settlement

/-!
# Builders that are made side by side

Any number of builders may be in the making at the same time, with environments of any machines that
are registered when it begins.  Each of them waits for its round, in which the forwarding method is
bound; a lock sees to it that only one is in its round, until that is over, and everything else
happens in any order.  Meanwhile machines may come and go.

What is remembered of bindings is changed in rounds alone.  So it follows from one round after the
other, in the order in which the lock was held, whatever else goes on in between.
-/

namespace JavaInterop

open Program (Ensures)

variable [Host] {α : Type}

/-! ## Commissions -/

/-- How far the making of a builder has come. -/
inductive Stage where
  /-- It waits for its round. -/
  | queued
  /-- It is in its round, in which so much was said. -/
  | binding (past : List Talk) (rest : Program (Except Error Unit))
  /-- Its round is over. -/
  | furnishing (rest : Program (Except Error Builder))

/-- A builder in the making. -/
structure Commission where
  thread : NativeThread
  env : Env
  interface : String
  stage : Stage

namespace Stage

def isBinding : Stage → Bool
  | binding _ _ => true
  | _ => false

/-- What is done without a break, up to the next call. -/
def advance (running : NativeThread) : Stage → Bridge → Bridge × Stage
  | queued, bridge => (bridge, queued)
  | binding past rest, bridge =>
    ((rest.advance running bridge).1, binding past (rest.advance running bridge).2)
  | furnishing rest, bridge =>
    ((rest.advance running bridge).1, furnishing (rest.advance running bridge).2)

/-- A call is answered. -/
inductive Answered : Stage → Stage → Prop
  | binding {past : List Talk} {request : Call}
    {next : request.Reply → Program (Except Error Unit)} (reply : request.Reply) :
    Answered (binding past (.call request next))
      (binding (past ++ [⟨request, reply⟩]) (next reply))
  | furnishing {request : Call} {next : request.Reply → Program (Except Error Builder)}
    (reply : request.Reply) : Answered (furnishing (.call request next)) (furnishing (next reply))

end Stage

/-- What is done after a round: the rest is done only if the round has succeeded. -/
def Builder.onward (env : Env) (interface : String) :
    Except Error Unit → Program (Except Error Builder)
  | .ok () => (Builder.furnish env interface).run
  | .error error => .done (.error error)

/-- A round and what is done after it make up the whole. -/
theorem Builder.run_new (env : Env) (interface : String) : (Builder.new env interface).run =
    (bindForwarding env).run >>= Builder.onward env interface := by
  unfold Builder.new
  rw [ExceptT.run_bind]
  apply congrArg
  funext result
  cases result with
  | ok => rfl
  | error error => rfl

/-! ## What may happen -/

/-- A generation belongs to one machine. -/
def Bridge.Unambiguous (bridge : Bridge) : Prop :=
  ∀ generation id other registration registration',
    bridge.registered? id generation = some registration →
    bridge.registered? other generation = some registration' → registration.vm = registration'.vm

/-- What others do.  Machines come and go, but no generation is given twice, and what is remembered
of bindings is left alone. -/
structure Bridge.Bustles (before after : Bridge) : Prop where
  advances : before.Advances after
  unambiguous : after.Unambiguous
  binding : before.SameBinding after

/-- In a process where machines and environments are what they seem others do nothing else, as long
as none of them binds the method. -/
theorem ProcessRules.Reaches.bustles {rules : ProcessRules} (hhonest : rules.Honest)
    {first last : Moment Chronicle} (hreaches : rules.Reaches first)
    (hevolves : rules.Evolves first last) (hbinding : first.bridge.SameBinding last.bridge) :
    first.bridge.Bustles last.bridge := by
  have hupholds := hevolves.upholds hhonest
  have hconsistent := hupholds.consistent (hreaches.consistent hhonest)
  refine ⟨hupholds.continues.advances, ?_, hbinding⟩
  intro generation id other registration registration' hregistered hregistered'
  obtain ⟨hfound, hgeneration⟩ := Option.filter_eq_some_iff.1 hregistered
  obtain ⟨hfound', hgeneration'⟩ := Option.filter_eq_some_iff.1 hregistered'
  have hassigns : last.Assigns registration.generation registration.vm := .now hfound
  have hassigns' : last.Assigns registration'.generation registration'.vm := .now hfound'
  rw [beq_iff_eq.1 hgeneration] at hassigns
  rw [beq_iff_eq.1 hgeneration'] at hassigns'
  exact hconsistent.unique generation _ _ hassigns hassigns'

/-- The builders in the making, in the order in which they were begun, the rounds that are over, in
the order in which they were held, and the bridge then. -/
inductive BuilderHistory : List Commission → List Round → Bridge → Prop
  | start (bridge : Bridge) (hunbound : bridge.boundIn = none) (hnumbered : bridge.Numbered)
      (hunambiguous : bridge.Unambiguous) : BuilderHistory [] [] bridge
  | meanwhile {commissions : List Commission} {log : List Round} {before after : Bridge}
      (hhistory : BuilderHistory commissions log before) (hbustles : before.Bustles after) :
      BuilderHistory commissions log after
  | order {commissions : List Commission} {log : List Round} {bridge : Bridge}
      (hhistory : BuilderHistory commissions log bridge) (thread : NativeThread) (env : Env)
      (interface : String) (hserves : bridge.Serves env) :
      BuilderHistory (commissions ++ [⟨thread, env, interface, .queued⟩]) log bridge
  /-- The lock is free and is taken. -/
  | enter {earlier later : List Commission} {log : List Round} {bridge : Bridge}
      {thread : NativeThread} {env : Env} {interface : String}
      (hhistory : BuilderHistory (earlier ++ ⟨thread, env, interface, .queued⟩ :: later) log bridge)
      (hfree : ∀ other ∈ earlier ++ later, other.stage.isBinding = false) :
      BuilderHistory
        (earlier ++ ⟨thread, env, interface, .binding [] (bindForwarding env).run⟩ :: later)
        log bridge
  | answer {earlier later : List Commission} {log : List Round} {bridge : Bridge}
      {thread : NativeThread} {env : Env} {interface : String} {stage stage' : Stage}
      (hhistory : BuilderHistory (earlier ++ ⟨thread, env, interface, stage⟩ :: later) log bridge)
      (hanswered : stage.Answered stage') :
      BuilderHistory (earlier ++ ⟨thread, env, interface, stage'⟩ :: later) log bridge
  | proceed {earlier later : List Commission} {log : List Round} {bridge : Bridge}
      {thread : NativeThread} {env : Env} {interface : String} {stage : Stage}
      (hhistory : BuilderHistory (earlier ++ ⟨thread, env, interface, stage⟩ :: later) log bridge) :
      BuilderHistory
        (earlier ++ ⟨thread, env, interface, (stage.advance thread bridge).2⟩ :: later) log
        (stage.advance thread bridge).1
  /-- The round is over, and the lock is free again. -/
  | release {earlier later : List Commission} {log : List Round} {bridge : Bridge}
      {thread : NativeThread} {env : Env} {interface : String} {past : List Talk}
      {result : Except Error Unit}
      (hhistory : BuilderHistory (earlier ++
        ⟨thread, env, interface, .binding past (.done result)⟩ :: later) log bridge) :
      BuilderHistory (earlier ++
        ⟨thread, env, interface, .furnishing (Builder.onward env interface result)⟩ :: later)
        (log ++ [⟨env, past, result⟩]) bridge

/-! ## What a builder in the making will come to -/

/-- No machine comes or goes. -/
structure Bridge.SameMachines (before after : Bridge) : Prop where
  generation : after.nextGeneration = before.nextGeneration
  registered : ∀ id generation, after.registered? id generation = before.registered? id generation

/-- No machine comes or goes, and what is remembered of bindings is the same. -/
structure Bridge.Minds (before after : Bridge) : Prop where
  machines : before.SameMachines after
  binding : before.SameBinding after

namespace Bridge.SameMachines

variable {bridge first middle last before after : Bridge}

theorem refl (bridge : Bridge) : bridge.SameMachines bridge := ⟨rfl, fun _ _ ↦ rfl⟩

theorem trans (hfirst : first.SameMachines middle) (hlast : middle.SameMachines last) :
    first.SameMachines last :=
  ⟨hlast.generation.trans hfirst.generation,
    fun id generation ↦ (hlast.registered id generation).trans (hfirst.registered id generation)⟩

theorem advances (hsame : before.SameMachines after) : before.Advances after := by
  refine ⟨Nat.le_of_eq hsame.generation.symm, fun id registration hregistration ↦ .inl ?_⟩
  have hregistered : after.registered? id registration.generation = some registration :=
    Option.filter_eq_some_iff.2 ⟨hregistration, beq_self_eq_true _⟩
  rw [hsame.registered] at hregistered
  exact (Option.filter_eq_some_iff.1 hregistered).1

theorem unambiguous (hsame : before.SameMachines after) (hunambiguous : before.Unambiguous) :
    after.Unambiguous := by
  intro generation id other registration registration' hregistered hother
  rw [hsame.registered] at hregistered hother
  exact hunambiguous generation id other registration registration' hregistered hother

end Bridge.SameMachines

namespace Bridge.Minds

variable {first middle last : Bridge}

theorem refl (bridge : Bridge) : bridge.Minds bridge := ⟨.refl bridge, rfl⟩

theorem trans (hfirst : first.Minds middle) (hlast : middle.Minds last) : first.Minds last :=
  ⟨hfirst.machines.trans hlast.machines, hlast.binding.trans hfirst.binding⟩

end Bridge.Minds

instance : Bridge.Bookkeeping Bridge.SameMachines where
  attached bridge id change := ⟨rfl, (harmless_countAttached id change).registered bridge⟩
  pending _ _ _ := ⟨rfl, fun _ _ ↦ rfl⟩

instance : Bridge.Bookkeeping Bridge.Minds where
  attached bridge id change := ⟨Bridge.Bookkeeping.attached bridge id change, rfl⟩
  pending bridge thread pending := ⟨Bridge.Bookkeeping.pending bridge thread pending, rfl⟩

namespace Program

/-- What a program does without a break is allowed, and so is the rest. -/
theorem Writes.advance {allowed : Bridge → Bridge → Prop} (hrefl : ∀ bridge, allowed bridge bridge)
    (htrans : ∀ first middle last, allowed first middle → allowed middle last → allowed first last)
    (running : NativeThread) {program : Program α} {bridge : Bridge}
    (hwrites : program.WritesFrom allowed bridge) :
    allowed bridge (program.advance running bridge).1 ∧
      (program.advance running bridge).2.Writes allowed := by
  induction program generalizing bridge with
  | done result => exact ⟨hrefl bridge, fun _ ↦ trivial⟩
  | call request next ih => exact ⟨hrefl bridge, fun _ ↦ hwrites⟩
  | read next ih => exact ih bridge hwrites
  | write changed next ih =>
    obtain ⟨hchanged, hrest⟩ := ih hwrites.2
    exact ⟨htrans _ _ _ hwrites.1 hchanged, hrest⟩
  | thread next ih => exact ih running (hwrites running)
  | notify notice next ih | remark note next ih => exact ih hwrites

end Program

/-- What is left of a round brings it to an end as it should be, as long as nobody else changes what
is remembered. -/
def Expects (thread : NativeThread) (env : Env) (bound : Option Nat) (past : List Talk)
    (rest : Program (Except Error Unit)) (bridge : Bridge) : Prop :=
  ∀ now : Bridge, bridge.SameBinding now →
    Ensures Exchange.KeepsBinding thread rest (⟨now, ()⟩ : Moment Unit)
      fun exchanges result last ↦
        Binding env bound (past ++ exchanges.map Exchange.talk) result last.bridge.boundIn

namespace Expects

variable {thread : NativeThread} {env : Env} {bound : Option Nat} {past : List Talk}
  {rest : Program (Except Error Unit)} {bridge after : Bridge}

theorem start (thread : NativeThread) (env : Env) (bridge : Bridge) :
    Expects thread env bridge.boundIn [] (bindForwarding env).run bridge := by
  intro now hsame
  rw [← hsame]
  exact ensures_bindForwarding

theorem of_same (hexpects : Expects thread env bound past rest bridge)
    (hsame : bridge.SameBinding after) : Expects thread env bound past rest after :=
  fun now hnow ↦ hexpects now (hnow.trans hsame)

theorem answer {request : Call} {next : request.Reply → Program (Except Error Unit)}
    (hexpects : Expects thread env bound past (.call request next) bridge)
    (reply : request.Reply) :
    Expects thread env bound (past ++ [⟨request, reply⟩]) (next reply) bridge := by
  intro now hsame
  have hcall := Program.ensures_call.1 (hexpects bridge rfl) reply ⟨now, ()⟩ hsame
  refine hcall.weaken ?_
  intro exchanges result last hbinding
  rw [List.append_assoc]
  exact hbinding

/-- What is done without a break leads to a call or to the end, where it does not matter any more
what else others change. -/
theorem advance (hexpects : Expects thread env bound past rest bridge) :
    Expects thread env bound past (rest.advance thread bridge).2
      (rest.advance thread bridge).1 := by
  have hrest := hexpects bridge rfl
  clear hexpects
  induction rest generalizing bridge with
  | done result =>
    intro now hsame
    have hbinding := Program.ensures_done.1 hrest
    refine Program.ensures_done.2 ?_
    rw [show now.boundIn = bridge.boundIn from hsame]
    exact hbinding
  | call request next ih =>
    intro now hsame
    refine Program.ensures_call.2 fun reply after hkeeps ↦ ?_
    exact Program.ensures_call.1 hrest reply after (hkeeps.trans hsame)
  | read next ih => exact ih bridge (Program.ensures_read.1 hrest)
  | write changed next ih => exact ih (Program.ensures_write.1 hrest)
  | thread next ih => exact ih thread (Program.ensures_thread.1 hrest)
  | notify notice next ih => exact ih (Program.ensures_notify.1 hrest)
  | remark note next ih => exact ih (Program.ensures_remark.1 hrest)

theorem ends {result : Except Error Unit}
    (hexpects : Expects thread env bound past (.done result) bridge) :
    Binding env bound past result bridge.boundIn := by
  have hbinding := Program.ensures_done.1 (hexpects bridge rfl)
  rw [List.map_nil, List.append_nil] at hbinding
  exact hbinding

end Expects

/-! ## Machines and generations -/

/-- Each generation belongs to the machine of the environments that have it, now and later. -/
structure Acquainted (envs : List Env) (bridge : Bridge) : Prop where
  numbered : bridge.Numbered
  unambiguous : bridge.Unambiguous
  knows : ∀ env ∈ envs, ∀ id, bridge.Knows id env.generation env.pointer.vm
  agree : ∀ env ∈ envs, ∀ other ∈ envs, env.generation = other.generation →
    env.pointer.vm = other.pointer.vm

namespace Acquainted

variable {envs : List Env} {env : Env} {bridge after : Bridge}

theorem advance (hacquainted : Acquainted envs bridge) (hadvances : bridge.Advances after)
    (hunambiguous : after.Unambiguous) : Acquainted envs after where
  numbered := hadvances.numbered hacquainted.numbered
  unambiguous := hunambiguous
  knows env hmem id := hadvances.knows (hacquainted.knows env hmem id)
  agree := hacquainted.agree

/-- An environment of a registered machine is acquainted with all others. -/
theorem greet (hacquainted : Acquainted envs bridge) (hserves : bridge.Serves env) :
    Acquainted (envs ++ [env]) bridge := by
  obtain ⟨registration, hregistered, hvm⟩ := hserves
  have hsame : ∀ other ∈ envs, other.generation = env.generation →
      other.pointer.vm = env.pointer.vm := by
    intro other hmem hgeneration
    have hknows := hacquainted.knows other hmem env.lifecycle
    rw [hgeneration] at hknows
    exact (hknows.machine registration hregistered).symm.trans hvm
  refine ⟨hacquainted.numbered, hacquainted.unambiguous, ?_, ?_⟩
  · intro other hmem id
    rcases List.mem_append.1 hmem with hmem | hmem
    · exact hacquainted.knows other hmem id
    · obtain rfl := List.mem_singleton.1 hmem
      obtain ⟨hregistration, hgeneration⟩ := Option.filter_eq_some_iff.1 hregistered
      constructor
      · rw [← beq_iff_eq.1 hgeneration]
        exact hacquainted.numbered _ registration hregistration
      · intro registration' hregistered'
        exact (hacquainted.unambiguous _ _ _ _ _ hregistered' hregistered).trans hvm
  · intro first hfirst second hsecond hgeneration
    rcases List.mem_append.1 hfirst with hfirst | hfirst
    · rcases List.mem_append.1 hsecond with hsecond | hsecond
      · exact hacquainted.agree first hfirst second hsecond hgeneration
      · rw [List.mem_singleton.1 hsecond] at hgeneration ⊢
        exact hsame first hfirst hgeneration
    · obtain rfl := List.mem_singleton.1 hfirst
      rcases List.mem_append.1 hsecond with hsecond | hsecond
      · exact (hsame second hsecond hgeneration.symm).symm
      · rw [List.mem_singleton.1 hsecond]

end Acquainted

/-! ## The rounds are in order -/

/-- The method was bound in the generation of the environment. -/
def BoundFor (log : List Round) (env : Env) : Prop :=
  ∃ round ∈ log, round.Binds ∧ round.env.generation = env.generation

/-- What is known of a builder in the making.  Once its round is over it does nothing more if the
round has failed, and otherwise the method is bound. -/
def Commission.Keeps (commission : Commission) (log : List Round) (bound : Option Nat)
    (bridge : Bridge) : Prop :=
  match commission.stage with
  | .queued => True
  | .binding past rest => Expects commission.thread commission.env bound past rest bridge ∧
      rest.Writes Bridge.SameMachines
  | .furnishing rest => rest.Writes Bridge.Minds ∧
      ((∃ error, rest = .done (.error error)) ∨ BoundFor log commission.env)

/-- What is remembered was left by the rounds that are over, unless one is going on. -/
structure InOrder (commissions : List Commission) (log : List Round) (bound : Option Nat)
    (bridge : Bridge) : Prop where
  rounds : Rounds log none bound
  alone : commissions.countP (·.stage.isBinding) ≤ 1
  quiet : (∀ commission ∈ commissions, commission.stage.isBinding = false) → bridge.boundIn = bound
  keeps : ∀ commission ∈ commissions, commission.Keeps log bound bridge

omit [Host] in
theorem BoundFor.mono {log log' : List Round} {env : Env} (hbound : BoundFor log env)
    (hlog : log ⊆ log') : BoundFor log' env := by
  obtain ⟨round, hmem, hround⟩ := hbound
  exact ⟨round, hlog hmem, hround⟩

namespace Commission.Keeps

variable {commission : Commission} {log log' : List Round} {bound bound' : Option Nat}
  {bridge after : Bridge}

/-- Whoever is not in its round does not depend on what is remembered. -/
theorem of_idle (hkeeps : commission.Keeps log bound bridge)
    (hidle : commission.stage.isBinding = false) (hlog : log ⊆ log') :
    commission.Keeps log' bound' after := by
  obtain ⟨thread, env, interface, stage⟩ := commission
  cases stage with
  | queued => trivial
  | binding past rest => cases hidle
  | furnishing rest => exact ⟨hkeeps.1, hkeeps.2.imp_right fun hbound ↦ hbound.mono hlog⟩

theorem of_same (hkeeps : commission.Keeps log bound bridge) (hsame : bridge.SameBinding after) :
    commission.Keeps log bound after := by
  obtain ⟨thread, env, interface, stage⟩ := commission
  cases stage with
  | queued => trivial
  | binding past rest => exact ⟨hkeeps.1.of_same hsame, hkeeps.2⟩
  | furnishing rest => exact hkeeps

end Commission.Keeps

namespace InOrder

variable {commissions earlier later : List Commission} {log : List Round} {bound : Option Nat}
  {bridge after : Bridge} {thread : NativeThread} {env : Env} {interface : String}
  {stage stage' : Stage}

theorem of_same (horder : InOrder commissions log bound bridge)
    (hsame : bridge.SameBinding after) : InOrder commissions log bound after where
  rounds := horder.rounds
  alone := horder.alone
  quiet hidle := Eq.trans hsame (horder.quiet hidle)
  keeps commission hmem := (horder.keeps commission hmem).of_same hsame

/-- While one is in its round no other one is. -/
theorem others_idle
    (horder : InOrder (earlier ++ ⟨thread, env, interface, stage⟩ :: later) log bound bridge)
    (hbinding : stage.isBinding = true) :
    ∀ other ∈ earlier ++ later, other.stage.isBinding = false := by
  have halone := horder.alone
  simp only [List.countP_append, List.countP_cons, hbinding, if_true] at halone
  have hnone : (earlier ++ later).countP (·.stage.isBinding) = 0 := by
    rw [List.countP_append]
    omega
  intro other hmem
  exact Bool.eq_false_iff.2 (List.countP_eq_zero.1 hnone other hmem)

theorem self (horder : InOrder (earlier ++ ⟨thread, env, interface, stage⟩ :: later) log bound
    bridge) : Commission.Keeps ⟨thread, env, interface, stage⟩ log bound bridge :=
  horder.keeps _ (mem_append_cons.2 (.inl rfl))

theorem others (horder : InOrder (earlier ++ ⟨thread, env, interface, stage⟩ :: later) log bound
    bridge) : ∀ other ∈ earlier ++ later, other.Keeps log bound bridge :=
  fun other hmem ↦ horder.keeps other (mem_append_cons.2 (.inr hmem))

/-- If nobody is in a round, the last one has left what is remembered. -/
theorem quiet_of_idle
    (horder : InOrder (earlier ++ ⟨thread, env, interface, stage⟩ :: later) log bound bridge)
    (hstage : stage.isBinding = false)
    (hothers : ∀ other ∈ earlier ++ later, other.stage.isBinding = false) :
    bridge.boundIn = bound := by
  apply horder.quiet
  intro commission hmem
  rcases mem_append_cons.1 hmem with rfl | hmem
  · exact hstage
  · exact hothers commission hmem

/-- A commission goes on to another stage, and the others do not mind. -/
theorem resume {log' : List Round} {bound' : Option Nat}
    (horder : InOrder (earlier ++ ⟨thread, env, interface, stage⟩ :: later) log bound bridge)
    (hrounds : Rounds log' none bound')
    (halone : stage'.isBinding = true → ∀ other ∈ earlier ++ later, other.stage.isBinding = false)
    (hquiet : stage'.isBinding = false →
      (∀ other ∈ earlier ++ later, other.stage.isBinding = false) → after.boundIn = bound')
    (hothers : ∀ other ∈ earlier ++ later, other.Keeps log' bound' after)
    (hself : Commission.Keeps ⟨thread, env, interface, stage'⟩ log' bound' after) :
    InOrder (earlier ++ ⟨thread, env, interface, stage'⟩ :: later) log' bound' after where
  rounds := hrounds
  alone := by
    have hall := horder.alone
    simp only [List.countP_append, List.countP_cons] at hall ⊢
    cases hbinding : stage'.isBinding with
    | true =>
      have hnone : (earlier ++ later).countP (·.stage.isBinding) = 0 :=
        List.countP_eq_zero.2 fun other hmem ↦ Bool.eq_false_iff.1 (halone hbinding other hmem)
      rw [List.countP_append] at hnone
      simp only [if_true]
      omega
    | false =>
      simp only [Bool.false_eq_true, if_false]
      omega
  quiet hidle := by
    apply hquiet (hidle _ (mem_append_cons.2 (.inl rfl)))
    exact fun other hmem ↦ hidle other (mem_append_cons.2 (.inr hmem))
  keeps commission hmem := by
    rcases mem_append_cons.1 hmem with rfl | hmem
    · exact hself
    · exact hothers commission hmem

theorem order (horder : InOrder commissions log bound bridge) :
    InOrder (commissions ++ [⟨thread, env, interface, .queued⟩]) log bound bridge where
  rounds := horder.rounds
  alone := by
    rw [List.countP_append]
    exact horder.alone
  quiet hidle := horder.quiet fun commission hmem ↦ hidle commission (List.mem_append_left _ hmem)
  keeps commission hmem := by
    rcases List.mem_append.1 hmem with hmem | hmem
    · exact horder.keeps commission hmem
    · rw [List.mem_singleton.1 hmem]
      trivial

/-- A round begins with what the last one has left. -/
theorem enter
    (horder : InOrder (earlier ++ ⟨thread, env, interface, .queued⟩ :: later) log bound bridge)
    (hfree : ∀ other ∈ earlier ++ later, other.stage.isBinding = false) :
    InOrder (earlier ++ ⟨thread, env, interface, .binding [] (bindForwarding env).run⟩ :: later)
      log bound bridge := by
  refine horder.resume horder.rounds (fun _ ↦ hfree) nofun horder.others ⟨?_, ?_⟩
  · rw [← horder.quiet_of_idle rfl hfree]
    exact .start thread env bridge
  · exact writes_bindForwarding_of env fun _ ↦ ⟨rfl, fun _ _ ↦ rfl⟩

theorem answer
    (horder : InOrder (earlier ++ ⟨thread, env, interface, stage⟩ :: later) log bound bridge)
    (hanswered : stage.Answered stage') :
    InOrder (earlier ++ ⟨thread, env, interface, stage'⟩ :: later) log bound bridge := by
  have hself := horder.self
  cases hanswered with
  | binding reply =>
    refine horder.resume horder.rounds (fun _ ↦ horder.others_idle rfl) nofun horder.others ?_
    exact ⟨hself.1.answer reply, fun now ↦ hself.2 now reply now⟩
  | furnishing reply =>
    refine horder.resume horder.rounds nofun (fun _ ↦ horder.quiet_of_idle rfl) horder.others ?_
    refine ⟨fun now ↦ hself.1 now reply now, ?_⟩
    rcases hself.2 with ⟨error, herror⟩ | hbound
    · cases herror
    · exact .inr hbound

/-- What is done without a break leaves the machines alone, and only a round changes what is
remembered. -/
theorem proceed
    (horder : InOrder (earlier ++ ⟨thread, env, interface, stage⟩ :: later) log bound bridge) :
    InOrder (earlier ++ ⟨thread, env, interface, (stage.advance thread bridge).2⟩ :: later) log
        bound (stage.advance thread bridge).1 ∧
      bridge.SameMachines (stage.advance thread bridge).1 := by
  have hself := horder.self
  cases stage with
  | queued => exact ⟨horder, .refl bridge⟩
  | binding past rest =>
    obtain ⟨hsame, hrest⟩ := Program.Writes.advance .refl (fun _ _ _ ↦ .trans) thread
      (hself.2 bridge)
    have hidle := horder.others_idle rfl
    refine ⟨horder.resume horder.rounds (fun _ ↦ hidle) nofun ?_ ⟨hself.1.advance, hrest⟩, hsame⟩
    exact fun other hmem ↦
      (horder.others other hmem).of_idle (hidle other hmem) (List.Subset.refl _)
  | furnishing rest =>
    obtain ⟨hminds, hrest⟩ := Program.Writes.advance .refl (fun _ _ _ ↦ .trans) thread
      (hself.1 bridge)
    refine ⟨horder.resume horder.rounds nofun (fun _ hidle ↦ ?_) ?_ ⟨hrest, ?_⟩, hminds.machines⟩
    · exact Eq.trans hminds.binding (horder.quiet_of_idle rfl hidle)
    · exact fun other hmem ↦ (horder.others other hmem).of_same hminds.binding
    · refine hself.2.imp_left ?_
      rintro ⟨error, rfl⟩
      exact ⟨error, rfl⟩

/-- A round that is over is the last one, and if it has succeeded the method is bound. -/
theorem release {past : List Talk} {result : Except Error Unit}
    (horder : InOrder (earlier ++ ⟨thread, env, interface, .binding past (.done result)⟩ :: later)
      log bound bridge) :
    InOrder (earlier ++
        ⟨thread, env, interface, .furnishing (Builder.onward env interface result)⟩ :: later)
      (log ++ [⟨env, past, result⟩]) bridge.boundIn bridge := by
  have hgoes : Round.Goes ⟨env, past, result⟩ bound bridge.boundIn := horder.self.1.ends
  have hrounds := horder.rounds.snoc hgoes
  have hidle := horder.others_idle rfl
  refine horder.resume hrounds nofun (fun _ _ ↦ rfl) ?_ ?_
  · intro other hmem
    exact (horder.others other hmem).of_idle (hidle other hmem) (List.subset_append_left _ _)
  · cases result with
    | error error => exact ⟨Program.Writes.done, .inl ⟨error, rfl⟩⟩
    | ok value =>
      refine ⟨?_, .inr ?_⟩
      · exact Builder.writes_furnish_of env interface fun _ ↦ ⟨⟨rfl, fun _ _ ↦ rfl⟩, rfl⟩
      · rw [hgoes.succeeded rfl] at hrounds
        exact hrounds.exists_binds.resolve_left nofun

end InOrder

/-- Whatever has happened, the rounds are in order. -/
theorem BuilderHistory.inOrder {commissions : List Commission} {log : List Round} {bridge : Bridge}
    (hhistory : BuilderHistory commissions log bridge) :
    (∃ bound, InOrder commissions log bound bridge) ∧
      Acquainted (commissions.map Commission.env) bridge ∧
        ∀ round ∈ log, round.env ∈ commissions.map Commission.env := by
  induction hhistory with
  | start bridge hunbound hnumbered hunambiguous =>
    refine ⟨⟨none, rfl, Nat.zero_le 1, fun _ ↦ hunbound, by simp⟩, ?_, by simp⟩
    exact ⟨hnumbered, hunambiguous, by simp, by simp⟩
  | meanwhile _ hbustles ih =>
    obtain ⟨⟨bound, horder⟩, hacquainted, hlogged⟩ := ih
    exact ⟨⟨bound, horder.of_same hbustles.binding⟩,
      hacquainted.advance hbustles.advances hbustles.unambiguous, hlogged⟩
  | order _ thread env interface hserves ih =>
    obtain ⟨⟨bound, horder⟩, hacquainted, hlogged⟩ := ih
    refine ⟨⟨bound, horder.order⟩, ?_, fun round hmem ↦ ?_⟩
    · rw [List.map_append]
      exact hacquainted.greet hserves
    · rw [List.map_append]
      exact List.mem_append_left _ (hlogged round hmem)
  | enter _ hfree ih =>
    obtain ⟨⟨bound, horder⟩, hacquainted, hlogged⟩ := ih
    rw [List.map_append, List.map_cons] at hacquainted hlogged ⊢
    exact ⟨⟨bound, horder.enter hfree⟩, hacquainted, hlogged⟩
  | answer _ hanswered ih =>
    obtain ⟨⟨bound, horder⟩, hacquainted, hlogged⟩ := ih
    rw [List.map_append, List.map_cons] at hacquainted hlogged ⊢
    exact ⟨⟨bound, horder.answer hanswered⟩, hacquainted, hlogged⟩
  | proceed _ ih =>
    obtain ⟨⟨bound, horder⟩, hacquainted, hlogged⟩ := ih
    obtain ⟨horder', hsame⟩ := horder.proceed
    rw [List.map_append, List.map_cons] at hacquainted hlogged ⊢
    exact ⟨⟨bound, horder'⟩, hacquainted.advance hsame.advances
      (hsame.unambiguous hacquainted.unambiguous), hlogged⟩
  | release _ ih =>
    obtain ⟨⟨bound, horder⟩, hacquainted, hlogged⟩ := ih
    refine ⟨⟨_, horder.release⟩, ?_, fun round hmem ↦ ?_⟩
    · rw [List.map_append, List.map_cons] at hacquainted ⊢
      exact hacquainted
    · rw [List.map_append, List.map_cons] at hlogged ⊢
      rcases List.mem_append.1 hmem with hmem | hmem
      · exact hlogged round hmem
      · rw [List.mem_singleton.1 hmem]
        exact mem_append_cons.2 (.inl rfl)

/-! ## The method is bound -/

/-- The builder is made. -/
def Commission.Makes (commission : Commission) (builder : Builder) : Prop :=
  commission.stage = .furnishing (.done (.ok builder))

/-- Whenever a builder is made the method has been bound in the generation of its environment,
through the machine of that environment.  A round that fails is not remembered, so the next one in
this generation asks the machine again.  And rounds in one generation, with none in another between
them, bind the method at most once. -/
theorem BuilderHistory.binding {commissions : List Commission} {log : List Round} {bridge : Bridge}
    (hhistory : BuilderHistory commissions log bridge) :
    (∀ commission ∈ commissions, ∀ builder, commission.Makes builder →
      ∃ round ∈ log, round.Binds ∧ round.env.generation = commission.env.generation ∧
        round.env.pointer.vm = commission.env.pointer.vm) ∧
    (∀ earlier failed between next later, log = earlier ++ failed :: (between ++ next :: later) →
      Failed failed.result → next.env.generation = failed.env.generation →
      (∀ round ∈ between, round.env.generation ≠ failed.env.generation) → next.Tries) ∧
    ∀ earlier stretch later generation, log = earlier ++ stretch ++ later →
      (∀ round ∈ stretch, round.env.generation = generation) →
      stretch.Pairwise fun first second ↦ ¬ (first.Binds ∧ second.Binds) := by
  obtain ⟨⟨bound, horder⟩, hacquainted, hlogged⟩ := hhistory.inOrder
  refine ⟨?_, ?_, ?_⟩
  · rintro ⟨thread, env, interface, stage⟩ hmem builder ⟨rfl⟩
    obtain ⟨error, herror⟩ | ⟨round, hround, hbinds, hgeneration⟩ := (horder.keeps _ hmem).2
    · cases herror
    · exact ⟨round, hround, hbinds, hgeneration, hacquainted.agree _ (hlogged round hround) _
        (List.mem_map_of_mem hmem) hgeneration⟩
  · rintro earlier failed between next later rfl
    exact horder.rounds.tries_again
  · rintro earlier stretch later generation rfl
    obtain ⟨middle, hfirst, -⟩ := Rounds.append_iff.1 horder.rounds
    obtain ⟨before, -, hstretch⟩ := Rounds.append_iff.1 hfirst
    exact hstretch.pairwise_binds

/-! ## One after another -/

/-- A stage in which a program is under way. -/
structure Stage.Underway (put : List Talk → Program α → Stage) : Prop where
  advance : ∀ past rest running bridge, (put past rest).advance running bridge =
    ((rest.advance running bridge).1, put past (rest.advance running bridge).2)
  answered : ∀ past request (next : Call.Reply request → Program α) reply,
    (put past (.call request next)).Answered (put (past ++ [⟨request, reply⟩]) (next reply))

theorem Stage.underway_binding : Stage.Underway Stage.binding :=
  ⟨fun _ _ _ _ ↦ rfl, fun _ _ _ reply ↦ .binding reply⟩

theorem Stage.underway_furnishing : Stage.Underway fun _ ↦ Stage.furnishing :=
  ⟨fun _ _ _ _ ↦ rfl, fun _ _ _ reply ↦ .furnishing reply⟩

/-- A program may come to its end while nothing else happens. -/
theorem BuilderHistory.play {put : List Talk → Program α → Stage} (hput : Stage.Underway put)
    (answer : (request : Call) → request.Reply) {earlier later : List Commission}
    {log : List Round} {thread : NativeThread} {env : Env} {interface : String} {past : List Talk}
    {rest : Program α} {bridge : Bridge}
    (hhistory : BuilderHistory (earlier ++ ⟨thread, env, interface, put past rest⟩ :: later) log
      bridge) :
    let played := rest.play (.answering answer) thread (⟨bridge, ()⟩ : Moment Unit)
    BuilderHistory (earlier ++ ⟨thread, env, interface,
      put (past ++ played.1.map Exchange.talk) (.done played.2.1)⟩ :: later) log
      played.2.2.bridge := by
  have hproceeded := hhistory.proceed
  rw [hput.advance] at hproceeded
  clear hhistory
  induction rest generalizing past bridge with
  | done result =>
    rw [← List.append_nil past] at hproceeded
    exact hproceeded
  | call request next ih =>
    have hanswered := (hproceeded.answer (hput.answered past request next (answer request))).proceed
    rw [hput.advance] at hanswered
    have hplayed := ih _ hanswered
    dsimp only at hplayed
    rw [List.append_assoc] at hplayed
    exact hplayed
  | read next ih => exact ih bridge hproceeded
  | write changed next ih => exact ih hproceeded
  | thread next ih => exact ih thread hproceeded
  | notify notice next ih => exact ih hproceeded
  | remark note next ih => exact ih hproceeded

section Alone

variable (answer : (request : Call) → request.Reply) (thread : NativeThread) (env : Env)
  (interface : String) (bridge : Bridge)

/-- A round during which nothing else happens. -/
def Round.alone : Round × Bridge :=
  let played := (bindForwarding env).run.play (.answering answer) thread
    (⟨bridge, ()⟩ : Moment Unit)
  (⟨env, played.1.map Exchange.talk, played.2.1⟩, played.2.2.bridge)

/-- What comes of a builder during whose making nothing else happens. -/
def Builder.alone : Except Error Builder × Bridge :=
  let round := Round.alone answer thread env bridge
  let played := (Builder.onward env interface round.1.result).play (.answering answer) thread
    (⟨round.2, ()⟩ : Moment Unit)
  (played.2.1, played.2.2.bridge)

variable {thread env interface bridge}

/-- A builder may be made while nothing else happens, if nobody is in a round. -/
theorem BuilderHistory.serve {earlier later : List Commission} {log : List Round}
    (hhistory : BuilderHistory (earlier ++ ⟨thread, env, interface, .queued⟩ :: later) log bridge)
    (hfree : ∀ other ∈ earlier ++ later, other.stage.isBinding = false) :
    BuilderHistory (earlier ++ ⟨thread, env, interface,
        .furnishing (.done (Builder.alone answer thread env interface bridge).1)⟩ :: later)
      (log ++ [(Round.alone answer thread env bridge).1])
      (Builder.alone answer thread env interface bridge).2 := by
  have hround := ((hhistory.enter hfree).play Stage.underway_binding answer).release
  exact @BuilderHistory.play _ _ _ Stage.underway_furnishing answer _ _ _ _ _ _ [] _ _ hround

end Alone

namespace Sample

/-- The answers of a machine that makes every string and every object. -/
def supplying : (request : Call) → request.Reply
  | .env pointer (.newString _) => some ⟨pointer.vm, 6⟩
  | .env pointer (.newObject ..) => some ⟨pointer.vm, 7⟩
  | request => something request

theorem registered_bridge {id : LifecycleId} {generation : Nat} {found : Registration}
    (hregistered : bridge.registered? id generation = some found) : found = registration := by
  obtain ⟨hfound, -⟩ := Option.filter_eq_some_iff.1 hregistered
  by_cases hid : id = .shared
  · subst hid
    exact (Option.some.inj hfound).symm
  · have hstore : bridge.lifecycles = Store.empty.insert .shared ⟨some registration, 1⟩ := rfl
    unfold Bridge.lifecycle at hfound
    rw [hstore, Store.find?_insert_of_ne _ _ hid] at hfound
    cases hfound

end Sample

omit [Host] in
/-- A binding that fails is made up for by the next builder.  The machine does not find the class at
first, and then it does. -/
theorem BuilderHistory.binding_retried :
    let _ := Sample.host
    ∃ (commissions : List Commission) (log : List Round) (bridge : Bridge),
      BuilderHistory commissions log bridge ∧
        log.map (fun round ↦ round.result.isOk) = [false, true] ∧
      ∃ commission ∈ commissions, ∃ builder, commission.Makes builder ∧
        ∃ round ∈ log, round.Binds ∧ round.env.generation = commission.env.generation ∧
          round.env.pointer.vm = commission.env.pointer.vm := by
  intro _
  let other : NativeThread := { id := 1, name := none }
  let env := Env.of .shared Sample.registration ⟨Sample.vm, 2⟩
  have hnumbered : Sample.bridge.Numbered := by
    intro id found hfound
    have hregistered : Sample.bridge.registered? id found.generation = some found :=
      Option.filter_eq_some_iff.2 ⟨hfound, beq_self_eq_true _⟩
    rw [Sample.registered_bridge hregistered]
    decide
  have hunambiguous : Sample.bridge.Unambiguous := by
    intro generation id id' found found' hfound hfound'
    rw [Sample.registered_bridge hfound, Sample.registered_bridge hfound']
  have hqueued : BuilderHistory ([] ++ ⟨Sample.thread, Sample.env, "I", .queued⟩ ::
      [⟨other, env, "I", .queued⟩]) [] Sample.bridge :=
    ((BuilderHistory.start Sample.bridge rfl hnumbered hunambiguous).order Sample.thread Sample.env
      "I"
      ⟨Sample.registration, rfl, rfl⟩).order other env "I" ⟨Sample.registration, rfl, rfl⟩
  let failed := Builder.alone Sample.nothing Sample.thread Sample.env "I" Sample.bridge
  let made := Builder.alone Sample.supplying other env "I" failed.2
  have hfirst : BuilderHistory ([⟨Sample.thread, Sample.env, "I", .furnishing (.done failed.1)⟩] ++
        ⟨other, env, "I", .queued⟩ :: [])
      [(Round.alone Sample.nothing Sample.thread Sample.env Sample.bridge).1] failed.2 :=
    hqueued.serve Sample.nothing (by simp [Stage.isBinding])
  have hsecond : BuilderHistory
      ([⟨Sample.thread, Sample.env, "I", .furnishing (.done failed.1)⟩] ++
        [⟨other, env, "I", .furnishing (.done made.1)⟩])
      [(Round.alone Sample.nothing Sample.thread Sample.env Sample.bridge).1,
        (Round.alone Sample.supplying other env failed.2).1] made.2 :=
    hfirst.serve Sample.supplying (by simp [Stage.isBinding])
  have hlog : [(Round.alone Sample.nothing Sample.thread Sample.env Sample.bridge).1.result.isOk,
      (Round.alone Sample.supplying other env failed.2).1.result.isOk] = [false, true] := by
    decide +kernel
  have hmade : made.1.isOk = true := by decide +kernel
  obtain ⟨builder, hbuilder⟩ : ∃ builder, made.1 = .ok builder := by
    cases hresult : made.1 with
    | ok builder => exact ⟨builder, rfl⟩
    | error error =>
      rw [hresult] at hmade
      cases hmade
  have hmakes : Commission.Makes ⟨other, env, "I", .furnishing (.done made.1)⟩ builder :=
    congrArg (fun result ↦ Stage.furnishing (.done result)) hbuilder
  have hmember := List.mem_append_right
    [⟨Sample.thread, Sample.env, "I", .furnishing (.done failed.1)⟩]
    (List.mem_singleton_self (⟨other, env, "I", .furnishing (.done made.1)⟩ : Commission))
  exact ⟨_, _, _, hsecond, hlog, _, hmember, builder, hmakes,
    hsecond.binding.1 _ hmember builder hmakes⟩

end JavaInterop
