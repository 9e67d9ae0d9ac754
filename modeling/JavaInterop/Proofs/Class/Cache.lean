import JavaInterop.Proofs.Class.Search

/-!
# Cached classes

The threads of a lifecycle ask for the class of a descriptor again and again, while machines come
and go.  In each registration the class is searched until it is found for the first time, and then
one global reference to it is kept.  From then on everyone who asks gets a new local reference to
the same object, until the registration has gone; in the next one the class is searched again.

A search that fails gives back what it has got hold of, and it leaves alone what is kept.  So at any
time at most one of the references that were ever kept can be used, and it is the one that is kept.

Other code may do anything between these calls and during them, as long as it looks up no class
under the same key and as long as a reference that can be used goes on referring to its object.
-/

namespace JavaInterop

open Program (Ensures)

variable [Host] {object : Type} {env : Env} {thread : NativeThread} {key : DescriptorKey}

/-! ## What machines hold -/

/-- What the machines have lent out, and the object that each of their handles refers to. -/
structure Estate (object : Type) where
  account : Account
  behind : Handle → object

/-- A later moment at which the same is kept under the key.  If it can be used then, it refers to
the same object. -/
structure Moment.Spares (key : DescriptorKey) (before after : Moment (Estate object)) : Prop where
  bridge : before.bridge.Spares key after.bridge
  behind : ∀ kept handle, before.bridge.classes.find? key = some kept → kept.raw = some handle →
    kept.generation < before.bridge.nextGeneration → after.bridge.isUsable kept = true →
    after.outside.behind handle = before.outside.behind handle

/-- In addition the registration of the environment is still there. -/
structure Moment.Tends (env : Env) (key : DescriptorKey) (before after : Moment (Estate object)) :
    Prop extends before.Spares key after where
  serves : before.bridge.Serves env → after.bridge.Serves env

/-- A new reference refers to the same object as the one that it was made from. -/
def Exchange.Copies : Exchange (Estate object) → Prop
  | ⟨_, .env _ (.newLocalRef handle), reply, before, after⟩
  | ⟨_, .env _ (.newGlobalRef handle), reply, before, after⟩ => ∀ copy, reply = some copy →
    after.outside.behind copy = before.outside.behind handle ∧
      after.outside.behind handle = before.outside.behind handle
  | _ => True

/-- What is relied on in the calls of those who ask for a class. -/
structure Exchange.Respects (env : Env) (key : DescriptorKey)
    (exchange : Exchange (Estate object)) : Prop where
  tends : exchange.before.Tends env key exchange.after
  copies : exchange.Copies

section

variable {before middle after : Moment (Estate object)}

theorem Moment.Spares.refl (moment : Moment (Estate object)) : moment.Spares key moment :=
  ⟨.refl moment.bridge, fun _ _ _ _ _ _ ↦ rfl⟩

theorem Moment.Spares.trans (hfirst : before.Spares key middle) (hlast : middle.Spares key after) :
    before.Spares key after := by
  refine ⟨hfirst.bridge.trans hlast.bridge, fun kept handle hfind hraw hgiven husable ↦ ?_⟩
  have hgiven' : kept.generation < middle.bridge.nextGeneration :=
    Nat.lt_of_lt_of_le hgiven hfirst.bridge.advances.generation
  have husable' : middle.bridge.isUsable kept = true :=
    hlast.bridge.advances.usable hgiven' husable
  exact (hlast.behind kept handle (hfirst.bridge.kept.trans hfind) hraw hgiven' husable).trans
    (hfirst.behind kept handle hfind hraw hgiven husable')

/-- A change of the bridge alone. -/
theorem Moment.Spares.of_bridge {moment : Moment (Estate object)} {bridge : Bridge}
    (hspares : moment.bridge.Spares key bridge) :
    moment.Spares key ⟨bridge, moment.outside⟩ :=
  ⟨hspares, fun _ _ _ _ _ _ ↦ rfl⟩

theorem Moment.Tends.refl (moment : Moment (Estate object)) : moment.Tends env key moment :=
  ⟨.refl moment, id⟩

theorem Moment.Tends.trans (hfirst : before.Tends env key middle)
    (hlast : middle.Tends env key after) : before.Tends env key after :=
  ⟨hfirst.toSpares.trans hlast.toSpares, hlast.serves ∘ hfirst.serves⟩

theorem Exchange.Respects.bridge {exchange : Exchange (Estate object)}
    (hrespects : exchange.Respects env key) : exchange.Tends env key :=
  ⟨hrespects.tends.bridge, hrespects.tends.serves⟩

end

/-- What spares the reference in all its changes and calls does so as a whole. -/
theorem Program.Run.spares {α : Type} {program : Program α} {first last : Moment (Estate object)}
    {exchanges : List (Exchange (Estate object))} {result : α}
    (hrun : program.Run thread first exchanges result last)
    (hwrites : program.Writes (Bridge.Spares key))
    (hcalls : ∀ exchange ∈ exchanges, exchange.before.Spares key exchange.after) :
    first.Spares key last ∧ ∀ exchange ∈ exchanges, first.Spares key exchange.before :=
  hrun.reaches .refl (fun _ _ _ ↦ .trans) (fun _ _ ↦ .of_bridge) (hwrites _) hcalls

/-! ## What may happen in between -/

/-- The setting in which the reference under the key is left alone. -/
def sparing (object : Type) (thread : NativeThread) (key : DescriptorKey) :
    Setting (Estate object) where
  thread := thread
  law exchange := exchange.before.Spares key exchange.after
  good _ := True
  later := Moment.Spares key
  own _ _ := True
  known _ _ := True
  trusts _ := False
  refl := .refl
  trans := .trans
  stays _ _ := trivial
  call hlaw _ := hlaw
  knows := id
  answer _ _ := trivial
  pointer _ := id
  attached _ := id
  issued := False.elim
  kept _ _ := fun _ _ _ _ _ _ ↦ trivial
  shift _ hshifts := .of_bridge ⟨⟨hshifts.generation,
    fun id _ ↦ .inl ∘ eq_some_of_shift (hshifts.registration id)⟩, by rw [hshifts.classes]⟩
  keepClass _ _ := False.elim
  keepLoader _ := False.elim

theorem sparing_hooks (hooked : Option (LifecycleId × Nat)) :
    (sparing object thread key).Hooks hooked :=
  fun _ _ ↦ .of_bridge ⟨.of_registration rfl fun _ ↦ .inr rfl, rfl⟩

/-- A machine may be registered: its generation is new, so it is not the one of what is kept. -/
theorem sparing_registers : (sparing object thread key).Registers := by
  intro drawn middle registration id _ hgeneration hmiddle
  have hmiddle : Moment.Spares key ⟨{ drawn.bridge with
    nextGeneration := drawn.bridge.nextGeneration + 1 }, drawn.outside⟩ middle := hmiddle
  refine ⟨⟨hmiddle.bridge.advances.register id hgeneration, hmiddle.bridge.kept⟩, ?_⟩
  intro kept handle hfind hraw hgiven husable
  obtain ⟨hheld, hlive⟩ := Bool.and_eq_true_iff.1 husable
  obtain ⟨found, hfound, hsame⟩ := isLive_iff.1 hlive
  have hbefore : (middle.bridge.lifecycle kept.lifecycle).registration = some found := by
    rcases registration_setLifecycle hfound with ⟨-, rfl⟩ | hbefore
    · exact absurd hgiven (Nat.not_lt_of_le (Nat.le_of_eq (hgeneration.symm.trans hsame)))
    · exact hbefore
  have husable' : middle.bridge.isUsable kept = true :=
    Bool.and_eq_true_iff.2 ⟨hheld, isLive_iff.2 ⟨found, hbefore, hsame⟩⟩
  exact hmiddle.behind kept handle hfind hraw (Nat.lt_succ_of_lt hgiven) husable'

theorem writes_setClassLoader (env : Env) (loader : Option Handle) :
    (setClassLoader env loader).Writes (Bridge.Spares key) := by
  have hexchange : ∀ loader, (exchangeClassLoader loader).Writes (Bridge.Spares key) := by
    refine fun loader ↦ Program.Writes.current.bind fun running ↦ ?_
    refine Program.Writes.state.bind fun bridge ↦ ?_
    refine (Program.Writes.update fun bridge ↦ ?_).bind fun _ ↦ .done
    exact ⟨advances_setThread bridge running.id _, rfl⟩
  unfold setClassLoader
  cases loader with
  | none =>
    refine .liftThen (hexchange none) (Option.forall.2 ⟨.succeed, fun previous ↦ ?_⟩)
    exact .lift previous.writes_drop
  | some handle =>
    refine .andThen ?_ fun made ↦ .liftThen (hexchange made)
      (Option.forall.2 ⟨.succeed, fun previous ↦ .lift previous.writes_drop⟩)
    rw [Fallible.Writes, ExceptT.run_map]
    exact Program.Writes.map (env.writes_newGlobal _)

/-- Whatever is done without looking up a class spares what is kept. -/
theorem ensures_activity_spares {activity : Activity} {first : Moment (Estate object)}
    (hactivity : ∀ operation env, activity ≠ .operate operation env) :
    Ensures (fun exchange ↦ exchange.before.Spares key exchange.after) thread activity.program first
      fun _ _ last ↦ first.Spares key last := by
  have hwrites : activity.program.Writes (Bridge.Spares key) →
      Ensures (fun exchange ↦ exchange.before.Spares key exchange.after) thread activity.program
        first fun _ _ last ↦ first.Spares key last :=
    fun hwrites _ _ _ hrun hcalls ↦ (hrun.spares hwrites hcalls).1
  cases henv : activity.env? with
  | none =>
    have hadmits : (sparing object thread key).Admits activity.program fun _ ↦ True := by
      refine .activity (fun _ _ ↦ trivial) activity (fun env hsome ↦ ?_) sparing_registers
        (fun _ _ ↦ sparing_hooks _) fun _ ↦ sparing_hooks none
      cases henv.symm.trans hsome
    exact (hadmits first trivial).weaken fun _ _ _ hlater ↦ hlater.1
  | some env =>
    cases activity with
    | operate operation env => exact absurd rfl (hactivity operation env)
    | newLocal env reference => exact hwrites (Program.Writes.map (env.writes_newLocal _))
    | newGlobal env reference => exact hwrites (Program.Writes.map (env.writes_newGlobal _))
    | dropLocal reference => exact hwrites (Program.Writes.map reference.writes_drop)
    | setClassLoader env loader =>
      exact hwrites (Program.Writes.map (writes_setClassLoader env loader))
    | _ => cases henv

/-! ## A history of inquiries -/

/-- Someone has asked for a class. -/
structure Inquiry (object : Type) where
  env : Env
  thread : NativeThread
  first : Moment (Estate object)
  exchanges : List (Exchange (Estate object))
  result : Except Error LocalReference
  last : Moment (Estate object)

/-- The class was found: a local reference to it was handed over, and a global reference to the same
object is kept, which was issued under the registration of the environment. -/
structure Inquiry.Obtains (inquiry : Inquiry object) (key : DescriptorKey)
    (handle global : Handle) : Prop where
  result : inquiry.result = .ok (inquiry.env.own (some handle))
  kept : inquiry.last.bridge.classes.find? key =
    some ⟨some global, inquiry.env.lifecycle, inquiry.env.generation⟩
  behind : inquiry.last.outside.behind global = inquiry.last.outside.behind handle

/-- Nobody else borrows from the machine or gives back to it while the class is asked for, and no
exception is pending when that begins. -/
structure Inquiry.Quiet (inquiry : Inquiry object) : Prop where
  calm : inquiry.first.outside.account.pending = false
  calls : ∀ exchange ∈ inquiry.exchanges, (exchange.onto Estate.account).KeepsAccount inquiry.env

/-- What is lent out after an inquiry.  Besides what it hands over, a reference in an error or the
one to the class, it is only the reference that is kept, if that is a new one. -/
structure Inquiry.Balanced (inquiry : Inquiry object) (key : DescriptorKey) :
    Prop where
  same : inquiry.last.bridge.classes.find? key = inquiry.first.bridge.classes.find? key →
    inquiry.last.outside.account.live =
      owned inquiry.result + inquiry.first.outside.account.live
  added : inquiry.last.bridge.classes.find? key ≠ inquiry.first.bridge.classes.find? key →
    ∃ handle global, inquiry.Obtains key handle global ∧
      inquiry.last.outside.account.live = owned inquiry.result +
        ({.globalReference global} + inquiry.first.outside.account.live)

/-- What comes of asking for the class of a descriptor in a lifecycle, on any threads, with
environments of the machine that is registered at the time.  Nothing is kept in the beginning. -/
inductive ClassDescriptor.Usage (descriptor : ClassDescriptor) (id : LifecycleId) :
    List (Inquiry object) → Moment (Estate object) → Prop
  | start {moment : Moment (Estate object)} (hnumbered : moment.bridge.Numbered)
      (hnothing : moment.bridge.classes.find? descriptor.key = none) :
      descriptor.Usage id [] moment
  /-- Other code has done something. -/
  | meanwhile {inquiries : List (Inquiry object)} {before after : Moment (Estate object)}
      (hbefore : descriptor.Usage id inquiries before)
      (hspares : before.Spares descriptor.key after) : descriptor.Usage id inquiries after
  /-- Machines come and go, threads are attached and detached, class loaders are set. -/
  | act {inquiries : List (Inquiry object)} {first last : Moment (Estate object)}
      {thread : NativeThread} {activity : Activity} {exchanges : List (Exchange (Estate object))}
      {succeeded : Bool} (hbefore : descriptor.Usage id inquiries first)
      (hactivity : ∀ operation env, activity ≠ .operate operation env)
      (hrun : activity.program.Run thread first exchanges succeeded last)
      (hcalls : ∀ exchange ∈ exchanges, exchange.before.Spares descriptor.key exchange.after) :
      descriptor.Usage id inquiries last
  | ask {inquiries : List (Inquiry object)} {inquiry : Inquiry object}
      (hbefore : descriptor.Usage id inquiries inquiry.first)
      (hlifecycle : inquiry.env.lifecycle = id)
      (hserves : inquiry.first.bridge.Serves inquiry.env)
      (hrun : (descriptor.find inquiry.env).run.Run inquiry.thread inquiry.first
        inquiry.exchanges inquiry.result inquiry.last)
      (hlaw : ∀ exchange ∈ inquiry.exchanges, exchange.Respects inquiry.env descriptor.key) :
      descriptor.Usage id (inquiries ++ [inquiry]) inquiry.last

/-- What holds between two inquiries.  What is kept comes from one of them, and whoever has asked
successfully under a registration that is still there has obtained what is kept. -/
structure ClassDescriptor.Keeping (descriptor : ClassDescriptor) (id : LifecycleId)
    (inquiries : List (Inquiry object)) (moment : Moment (Estate object)) : Prop where
  numbered : moment.bridge.Numbered
  lifecycle : ∀ past ∈ inquiries, past.env.lifecycle = id
  given : ∀ past ∈ inquiries, past.env.generation < moment.bridge.nextGeneration
  origin : ∀ kept, moment.bridge.classes.find? descriptor.key = some kept →
    ∃ past ∈ inquiries, past.result.isOk = true ∧ kept.lifecycle = id ∧
      kept.generation = past.env.generation
  current : ∀ past ∈ inquiries, past.result.isOk = true →
    moment.bridge.isLive id past.env.generation = true →
    ∃ handle global, past.Obtains descriptor.key handle global ∧
      moment.bridge.classes.find? descriptor.key = past.last.bridge.classes.find? descriptor.key ∧
      moment.outside.behind global = past.last.outside.behind handle

namespace ClassDescriptor.Keeping

variable {descriptor : ClassDescriptor} {id : LifecycleId} {inquiries : List (Inquiry object)}
  {before after : Moment (Estate object)}

theorem start {moment : Moment (Estate object)} (hnumbered : moment.bridge.Numbered)
    (hnothing : moment.bridge.classes.find? descriptor.key = none) :
    descriptor.Keeping id [] moment where
  numbered := hnumbered
  lifecycle _ hmem := absurd hmem List.not_mem_nil
  given _ hmem := absurd hmem List.not_mem_nil
  origin _ hfind := nomatch hnothing.symm.trans hfind
  current _ hmem := absurd hmem List.not_mem_nil

theorem given_of_kept (hkeeping : descriptor.Keeping id inquiries before) {kept : GlobalReference}
    (hfind : before.bridge.classes.find? descriptor.key = some kept) :
    kept.generation < before.bridge.nextGeneration := by
  obtain ⟨past, hmem, -, -, hgeneration⟩ := hkeeping.origin kept hfind
  exact hgeneration ▸ hkeeping.given past hmem

/-- A generation that is live later was live before. -/
theorem live (hkeeping : descriptor.Keeping id inquiries before)
    (hadvances : before.bridge.Advances after.bridge) {past : Inquiry object}
    (hmem : past ∈ inquiries) (hlive : after.bridge.isLive id past.env.generation = true) :
    before.bridge.isLive id past.env.generation = true := by
  by_contra hgone
  rw [Bool.not_eq_true] at hgone
  cases (hadvances.past ⟨hkeeping.given past hmem, hgone⟩).gone.symm.trans hlive

theorem spares (hkeeping : descriptor.Keeping id inquiries before)
    (hspares : before.Spares descriptor.key after) : descriptor.Keeping id inquiries after where
  numbered := hspares.bridge.advances.numbered hkeeping.numbered
  lifecycle := hkeeping.lifecycle
  given past hmem := Nat.lt_of_lt_of_le (hkeeping.given past hmem)
    hspares.bridge.advances.generation
  origin kept hfind := hkeeping.origin kept (hspares.bridge.kept.symm.trans hfind)
  current past hmem hok hlive := by
    have hlive' := hkeeping.live hspares.bridge.advances hmem hlive
    obtain ⟨handle, global, hobtains, hkept, hbehind⟩ := hkeeping.current past hmem hok hlive'
    refine ⟨handle, global, hobtains, hspares.bridge.kept.trans hkept, ?_⟩
    have hlifecycle := hkeeping.lifecycle past hmem
    have hsame := hspares.behind _ global (hkept.trans hobtains.kept) rfl
      (hkeeping.given past hmem) (by simpa [Bridge.isUsable, GlobalReference.isReleased,
        hlifecycle] using hlive)
    exact hsame.trans hbehind

/-- Under a registration in which the class was found something is kept that can be used. -/
theorem not_vacant (hkeeping : descriptor.Keeping id inquiries before) {past : Inquiry object}
    (hmem : past ∈ inquiries) (hok : past.result.isOk = true)
    (hlive : before.bridge.isLive id past.env.generation = true) :
    ¬ before.bridge.Vacant descriptor.key := by
  intro hvacant
  obtain ⟨_, global, hobtains, hkept, -⟩ := hkeeping.current past hmem hok hlive
  have husable :
      before.bridge.isUsable ⟨some global, past.env.lifecycle, past.env.generation⟩ = true := by
    simpa [Bridge.isUsable, GlobalReference.isReleased, hkeeping.lifecycle past hmem] using hlive
  cases (hvacant _ (hkept.trans hobtains.kept)).symm.trans husable

end ClassDescriptor.Keeping

/-! ## One inquiry -/

/-- The generation of an environment is the one that is registered. -/
theorem Bridge.Serves.isLive_iff {bridge : Bridge} (hserves : bridge.Serves env)
    {generation : Nat} :
    bridge.isLive env.lifecycle generation = true ↔ generation = env.generation := by
  obtain ⟨registration, hregistered, -⟩ := hserves
  obtain ⟨hregistration, hgeneration⟩ := Option.filter_eq_some_iff.1 hregistered
  rw [JavaInterop.isLive_iff]
  simp only [hregistration, Option.some.injEq, exists_eq_left']
  rw [beq_iff_eq.1 hgeneration, eq_comm]

theorem Bridge.Serves.given {bridge : Bridge} (hserves : bridge.Serves env)
    (hnumbered : bridge.Numbered) : env.generation < bridge.nextGeneration := by
  obtain ⟨registration, hregistered, -⟩ := hserves
  obtain ⟨hregistration, hgeneration⟩ := Option.filter_eq_some_iff.1 hregistered
  exact beq_iff_eq.1 hgeneration ▸ hnumbered _ _ hregistration

section

variable {descriptor : ClassDescriptor} {first last : Moment (Estate object)}
  {exchanges : List (Exchange (Estate object))} {result : Except Error LocalReference}

/-- Until the end of a search what is kept is left alone. -/
theorem Search.tends (hsearch : Search descriptor env thread first exchanges result last)
    (hlaw : ∀ exchange ∈ exchanges, exchange.Respects env descriptor.key) :
    Search.Outcome descriptor env thread (Moment.Tends env descriptor.key) first exchanges result
        last ∧
      ∀ exchange ∈ exchanges, first.Tends env descriptor.key exchange.before :=
  hsearch.reaches tends_touch .refl (fun _ _ _ ↦ .trans)
    (fun _ _ htends ↦ ⟨.of_bridge htends.toSpares, htends.serves⟩)
    fun exchange hmem ↦ (hlaw exchange hmem).tends

/-- A later state of the bridge in which no other class is kept either. -/
structure Bridge.Rests (env : Env) (key : DescriptorKey) (before after : Bridge) : Prop
    extends before.Tends env key after where
  classes : after.classes = before.classes

instance : Bridge.Bookkeeping (Bridge.Rests env key) where
  attached bridge id change := ⟨Bridge.Bookkeeping.attached bridge id change, rfl⟩
  pending bridge owner pending := ⟨Bridge.Bookkeeping.pending bridge owner pending, rfl⟩

theorem kept_of_classes {before after : Bridge} (hclasses : after.classes = before.classes) :
    after.kept env = before.kept env := by
  unfold Bridge.kept
  rw [hclasses]

/-- A search adds a reference to those that are kept, if it succeeds, and nothing otherwise. -/
theorem Search.keeps (hsearch : Search descriptor env thread first exchanges result last)
    (hserves : first.bridge.Serves env) (hvacant : first.bridge.Vacant descriptor.key)
    (hgiven : ∀ kept, first.bridge.classes.find? descriptor.key = some kept →
      kept.generation < first.bridge.nextGeneration)
    (hcalls : ∀ exchange ∈ exchanges,
      exchange.before.bridge.Rests env descriptor.key exchange.after.bridge) :
    (Failed result ∧ last.bridge.kept env = first.bridge.kept env) ∨
      ∃ handle global, result = .ok (env.own (some handle)) ∧
        last.bridge.classes.find? descriptor.key =
          some ⟨some global, env.lifecycle, env.generation⟩ ∧
        last.bridge.kept env = first.bridge.kept env + {.globalReference global} := by
  let later (before after : Moment (Estate object)) : Prop :=
    before.bridge.Rests env descriptor.key after.bridge
  have houtcome : Search.Outcome descriptor env thread later first exchanges result last :=
    (hsearch.reaches (fun bridge owner ↦ ⟨tends_touch bridge owner, rfl⟩)
      (fun moment ↦ ⟨.refl moment.bridge, rfl⟩)
      (fun _ _ _ hfirst hlast ↦
        ⟨hfirst.toTends.trans hlast.toTends, hlast.classes.trans hfirst.classes⟩)
      (fun _ _ hwritten ↦ hwritten) hcalls).1
  cases houtcome with
  | failed hlater => exact .inl ⟨failed_error _, kept_of_classes hlater.classes⟩
  | @kept handle global middle after hlater hmade =>
    refine .inr ⟨handle, global, rfl, Store.find?_insert_self _ _ _, ?_⟩
    rw [kept_insert _ (hlater.serves hserves) (hlater.vacant hgiven hvacant),
      kept_of_classes hlater.classes]
    exact congrArg _ (if_pos ⟨rfl, rfl⟩)

/-- While a new reference to what is kept is made, what is kept is left alone. -/
theorem Reuses.tends {global : Handle}
    (hreuses : Reuses env thread global first exchanges result last)
    (hlaw : ∀ exchange ∈ exchanges, exchange.Respects env key) :
    first.Tends env key last ∧ ∀ exchange ∈ exchanges, first.Spares key exchange.before := by
  obtain ⟨reply, rfl, rfl⟩ := hreuses
  simp only [List.forall_mem_singleton] at hlaw ⊢
  exact ⟨hlaw.tends, .refl first⟩

theorem Reuses.classes {global : Handle}
    (hreuses : Reuses env thread global first exchanges result last)
    (hrests : ∀ exchange ∈ exchanges,
      exchange.before.bridge.Rests env key exchange.after.bridge) :
    last.bridge.classes = first.bridge.classes := by
  obtain ⟨reply, rfl, rfl⟩ := hreuses
  exact (hrests _ List.mem_cons_self).classes

/-- If it succeeds, the new reference is handed over. -/
theorem Reuses.owns {global : Handle}
    (hreuses : Reuses env thread global first exchanges result last)
    (hok : result.isOk = true) : ∃ copy, result = .ok (env.own (some copy)) := by
  obtain ⟨reply, rfl, rfl⟩ := hreuses
  cases reply with
  | none => cases hok
  | some copy => exact ⟨copy, rfl⟩

end

namespace ClassDescriptor

variable {descriptor : ClassDescriptor} {id : LifecycleId} {inquiries : List (Inquiry object)}
  {inquiry : Inquiry object}

/-- One more inquiry, after which the same is kept. -/
theorem Keeping.add (hkeeping : descriptor.Keeping id inquiries inquiry.last)
    (hlifecycle : inquiry.env.lifecycle = id)
    (hgiven : inquiry.env.generation < inquiry.last.bridge.nextGeneration)
    (hobtains : inquiry.result.isOk = true →
      ∃ handle global, inquiry.Obtains descriptor.key handle global) :
    descriptor.Keeping id (inquiries ++ [inquiry]) inquiry.last where
  numbered := hkeeping.numbered
  lifecycle := by
    simpa [or_imp, forall_and] using ⟨hkeeping.lifecycle, hlifecycle⟩
  given := by
    simpa [or_imp, forall_and] using ⟨hkeeping.given, hgiven⟩
  origin kept hfind := by
    obtain ⟨past, hmem, horigin⟩ := hkeeping.origin kept hfind
    exact ⟨past, List.mem_append_left _ hmem, horigin⟩
  current past hmem hok hlive := by
    rcases List.mem_append.1 hmem with hmem | hmem
    · exact hkeeping.current past hmem hok hlive
    · obtain rfl := List.mem_singleton.1 hmem
      obtain ⟨handle, global, hobtained⟩ := hobtains hok
      exact ⟨handle, global, hobtained, rfl, hobtained.behind⟩

/-- One more inquiry, by which a new reference is kept.  What was kept before could not be used, so
nobody else has asked successfully under the same registration. -/
theorem Keeping.replace {after : Moment (Estate object)} {handle global : Handle}
    (hkeeping : descriptor.Keeping id inquiries after) (hlifecycle : inquiry.env.lifecycle = id)
    (hserves : after.bridge.Serves inquiry.env) (hvacant : after.bridge.Vacant descriptor.key)
    (hobtains : inquiry.Obtains descriptor.key handle global)
    (hlast : inquiry.last = ⟨{ after.bridge with
      classes := after.bridge.classes.insert descriptor.key
        ⟨some global, inquiry.env.lifecycle, inquiry.env.generation⟩ }, after.outside⟩) :
    descriptor.Keeping id (inquiries ++ [inquiry]) inquiry.last := by
  have hbridge : inquiry.last.bridge = { after.bridge with
      classes := after.bridge.classes.insert descriptor.key
        ⟨some global, inquiry.env.lifecycle, inquiry.env.generation⟩ } := by
    rw [hlast]
  have hgiven : inquiry.env.generation < after.bridge.nextGeneration :=
    hserves.given hkeeping.numbered
  refine ⟨?_, ?_, ?_, fun kept hfind ↦ ?_, fun past hmem hok hlive ↦ ?_⟩
  · rw [hbridge]
    exact hkeeping.numbered
  · simpa [or_imp, forall_and] using ⟨hkeeping.lifecycle, hlifecycle⟩
  · rw [hbridge]
    simpa [or_imp, forall_and] using ⟨hkeeping.given, hgiven⟩
  · cases hobtains.kept.symm.trans hfind
    exact ⟨inquiry, by simp, by simp [hobtains.result, Except.isOk, Except.toBool], hlifecycle, rfl⟩
  · rcases List.mem_append.1 hmem with hmem | hmem
    · rw [hbridge] at hlive
      have hlive : after.bridge.isLive id past.env.generation = true := hlive
      exact absurd hvacant (hkeeping.not_vacant hmem hok hlive)
    · obtain rfl := List.mem_singleton.1 hmem
      exact ⟨handle, global, hobtains, rfl, hobtains.behind⟩

/-- What an inquiry may come to after others.  Either someone has asked successfully under the same
registration, and then what is kept is used again.  Or nothing that could be used is kept, and the
class is searched. -/
theorem Keeping.cases (hkeeping : descriptor.Keeping id inquiries inquiry.first)
    (hlifecycle : inquiry.env.lifecycle = id)
    (hserves : inquiry.first.bridge.Serves inquiry.env)
    (hrun : (descriptor.find inquiry.env).run.Run inquiry.thread inquiry.first
      inquiry.exchanges inquiry.result inquiry.last)
    (hlaw : ∀ exchange ∈ inquiry.exchanges, exchange.Respects inquiry.env descriptor.key) :
    (∃ past ∈ inquiries, past.result.isOk = true ∧
        past.env.generation = inquiry.env.generation ∧
        ∃ handle global, past.Obtains descriptor.key handle global ∧
          inquiry.first.bridge.classes.find? descriptor.key =
            past.last.bridge.classes.find? descriptor.key ∧
          inquiry.first.outside.behind global = past.last.outside.behind handle ∧
          Reuses inquiry.env inquiry.thread global inquiry.first inquiry.exchanges inquiry.result
            inquiry.last) ∨
      inquiry.first.bridge.Vacant descriptor.key ∧
        Search descriptor inquiry.env inquiry.thread inquiry.first inquiry.exchanges inquiry.result
          inquiry.last := by
  have hgiven : ∀ kept, inquiry.first.bridge.classes.find? descriptor.key = some kept →
      kept.generation < inquiry.first.bridge.nextGeneration := fun _ ↦ hkeeping.given_of_kept
  rcases ensures_find_cases hserves hgiven _ _ _ hrun fun exchange hmem ↦
      (hlaw exchange hmem).bridge with ⟨kept, handle, hfind, husable, hraw, hreuses⟩ | hsearch
  · obtain ⟨past, hmem, hok, hid, hgeneration⟩ := hkeeping.origin kept hfind
    have hlive : inquiry.first.bridge.isLive id past.env.generation = true := by
      rw [← hid, ← hgeneration]
      exact (Bool.and_eq_true_iff.1 husable).2
    obtain ⟨found, global, hobtains, hkept, hbehind⟩ := hkeeping.current past hmem hok hlive
    have hsame : past.env.generation = inquiry.env.generation :=
      hserves.isLive_iff.1 (hlifecycle.symm ▸ hlive)
    obtain rfl : handle = global := by
      cases (hkept.trans hobtains.kept).symm.trans hfind
      exact (Option.some.inj hraw).symm
    exact .inl ⟨past, hmem, hok, hsame, found, handle, hobtains, hkept, hbehind, hreuses⟩
  · exact .inr hsearch

/-- After a search: it has failed or the class was obtained, and the history goes on. -/
theorem Keeping.searched (hkeeping : descriptor.Keeping id inquiries inquiry.first)
    (hlifecycle : inquiry.env.lifecycle = id)
    (hserves : inquiry.first.bridge.Serves inquiry.env)
    (hvacant : inquiry.first.bridge.Vacant descriptor.key)
    (hsearch : Search descriptor inquiry.env inquiry.thread inquiry.first inquiry.exchanges
      inquiry.result inquiry.last)
    (hlaw : ∀ exchange ∈ inquiry.exchanges, exchange.Respects inquiry.env descriptor.key) :
    descriptor.Keeping id (inquiries ++ [inquiry]) inquiry.last ∧
      (inquiry.result.isOk = true →
        ∃ handle global, inquiry.Obtains descriptor.key handle global) := by
  have hkept : ∀ kept, inquiry.first.bridge.classes.find? descriptor.key = some kept →
      kept.generation < inquiry.first.bridge.nextGeneration := fun _ ↦ hkeeping.given_of_kept
  obtain ⟨env, thread, first, exchanges, result, last⟩ := inquiry
  dsimp only at *
  obtain ⟨houtcome, -⟩ := hsearch.tends hlaw
  cases houtcome with
  | failed hlast =>
    have hkeeping' := hkeeping.spares hlast.toSpares
    have hgiven := (hlast.serves hserves).given hkeeping'.numbered
    exact ⟨hkeeping'.add hlifecycle hgiven nofun, nofun⟩
  | @kept handle global middle after hafter hmade =>
    obtain ⟨hcopy, hhandle⟩ := (hlaw _ hmade).copies global rfl
    have hobtains : Inquiry.Obtains ⟨env, thread, first, exchanges, .ok (env.own (some handle)),
        ⟨{ after.bridge with
            classes := after.bridge.classes.insert descriptor.key
              ⟨some global, env.lifecycle, env.generation⟩ }, after.outside⟩⟩
        descriptor.key handle global :=
      ⟨rfl, Store.find?_insert_self _ _ _, hcopy.trans hhandle.symm⟩
    exact ⟨(hkeeping.spares hafter.toSpares).replace hlifecycle (hafter.serves hserves)
      (hafter.bridge.vacant hkept hvacant) hobtains rfl, fun _ ↦ ⟨handle, global, hobtains⟩⟩

/-- After a new reference was asked for to what is kept. -/
theorem Keeping.reused {past : Inquiry object} {handle global : Handle}
    (hkeeping : descriptor.Keeping id inquiries inquiry.first)
    (hlifecycle : inquiry.env.lifecycle = id)
    (hserves : inquiry.first.bridge.Serves inquiry.env) (hmem : past ∈ inquiries)
    (hgeneration : past.env.generation = inquiry.env.generation)
    (hobtains : past.Obtains descriptor.key handle global)
    (hkept : inquiry.first.bridge.classes.find? descriptor.key =
      past.last.bridge.classes.find? descriptor.key)
    (hreuses : Reuses inquiry.env inquiry.thread global inquiry.first inquiry.exchanges
      inquiry.result inquiry.last)
    (hlaw : ∀ exchange ∈ inquiry.exchanges, exchange.Respects inquiry.env descriptor.key) :
    descriptor.Keeping id (inquiries ++ [inquiry]) inquiry.last ∧
      ∀ copy, inquiry.result = .ok (inquiry.env.own (some copy)) →
        inquiry.Obtains descriptor.key copy global ∧
          inquiry.last.outside.behind copy = inquiry.first.outside.behind global := by
  have hlifecycle' := hkeeping.lifecycle past hmem
  obtain ⟨env, thread, first, exchanges, result, last⟩ := inquiry
  dsimp only at *
  obtain ⟨reply, rfl, rfl⟩ := hreuses
  have hrespects := hlaw _ List.mem_cons_self
  have hlast : first.Tends env descriptor.key last := hrespects.tends
  have hkeeping' := hkeeping.spares hlast.toSpares
  have hgiven := (hlast.serves hserves).given hkeeping'.numbered
  have hobtained : ∀ copy, reply = some copy →
      Inquiry.Obtains ⟨env, thread, first,
          [⟨thread, .env env.pointer (.newLocalRef global), reply, first, last⟩],
          reply.elim (.error .localReferencesExhausted) fun copy ↦ .ok (env.own (some copy)), last⟩
        descriptor.key copy global ∧ last.outside.behind copy = first.outside.behind global := by
    rintro copy rfl
    obtain ⟨hcopy, hglobal⟩ := hrespects.copies copy rfl
    have hfind : last.bridge.classes.find? descriptor.key =
        some ⟨some global, env.lifecycle, env.generation⟩ := by
      rw [hlast.bridge.kept, hkept, hobtains.kept, hlifecycle', hlifecycle, hgeneration]
    exact ⟨⟨rfl, hfind, hglobal.trans hcopy.symm⟩, hcopy⟩
  cases reply with
  | none => exact ⟨hkeeping'.add hlifecycle hgiven nofun, nofun⟩
  | some copy =>
    refine ⟨hkeeping'.add hlifecycle hgiven fun _ ↦ ⟨copy, global, (hobtained copy rfl).1⟩, ?_⟩
    rintro _ ⟨⟩
    exact hobtained copy rfl

/-- Of all the references that were ever kept, only the one that is kept can be used. -/
def Alone (descriptor : ClassDescriptor) (inquiries : List (Inquiry object)) (bridge : Bridge) :
    Prop :=
  ∀ past ∈ inquiries, ∀ handle global, past.Obtains descriptor.key handle global →
    let reference : GlobalReference := ⟨some global, past.env.lifecycle, past.env.generation⟩
    bridge.isUsable reference = true → bridge.classes.find? descriptor.key = some reference

theorem Keeping.alone {moment : Moment (Estate object)}
    (hkeeping : descriptor.Keeping id inquiries moment) :
    descriptor.Alone inquiries moment.bridge := by
  intro past hmem handle global hobtains reference husable
  have hok : past.result.isOk = true := by
    rw [hobtains.result]
    rfl
  have hlive : moment.bridge.isLive id past.env.generation = true := by
    rw [← hkeeping.lifecycle past hmem]
    exact (Bool.and_eq_true_iff.1 husable).2
  obtain ⟨_, _, -, hkept, -⟩ := hkeeping.current past hmem hok hlive
  exact hkept.trans hobtains.kept

/-- What is true of an inquiry after others. -/
structure Cached (descriptor : ClassDescriptor) (earlier : List (Inquiry object))
    (inquiry : Inquiry object) : Prop where
  /-- Until the class is found for the first time under a registration, it is searched, and nothing
  is kept meanwhile that could be used. -/
  searches : (∀ past ∈ earlier, past.env.generation = inquiry.env.generation →
      past.result.isOk = false) →
    Search descriptor inquiry.env inquiry.thread inquiry.first inquiry.exchanges inquiry.result
        inquiry.last ∧
      inquiry.first.bridge.Vacant descriptor.key ∧
      ∀ exchange ∈ inquiry.exchanges, exchange.after.bridge.Vacant descriptor.key
  /-- From then on what is kept is used again. -/
  reuses : ∀ past ∈ earlier, past.env.generation = inquiry.env.generation →
    past.result.isOk = true →
    ∃ handle global, past.Obtains descriptor.key handle global ∧
      Reuses inquiry.env inquiry.thread global inquiry.first inquiry.exchanges inquiry.result
        inquiry.last ∧
      ∀ copy, inquiry.result = .ok (inquiry.env.own (some copy)) →
        inquiry.last.outside.behind copy = past.last.outside.behind handle
  obtains : inquiry.result.isOk = true →
    ∃ handle global, inquiry.Obtains descriptor.key handle global
  fails : ∀ error, inquiry.result = .error error →
    inquiry.last.bridge.classes.find? descriptor.key =
      inquiry.first.bridge.classes.find? descriptor.key
  balanced : inquiry.Quiet → inquiry.Balanced descriptor.key
  /-- References of earlier registrations are gone, and so they are not handed over. -/
  past : ∀ past ∈ earlier, past.env.generation ≠ inquiry.env.generation →
    inquiry.first.bridge.Past past.env.lifecycle past.env.generation
  justified : ∀ exchange ∈ inquiry.exchanges, ∀ vm handle, exchange.request.Passes vm handle →
    Justified inquiry.thread inquiry.first inquiry.exchanges handle
  alone : ∀ exchange ∈ inquiry.exchanges,
    descriptor.Alone earlier exchange.before.bridge ∧ descriptor.Alone earlier exchange.after.bridge

/-- The references of other registrations are gone while a machine is registered. -/
theorem Keeping.past (hkeeping : descriptor.Keeping id inquiries inquiry.first)
    (hlifecycle : inquiry.env.lifecycle = id)
    (hserves : inquiry.first.bridge.Serves inquiry.env) :
    ∀ past ∈ inquiries, past.env.generation ≠ inquiry.env.generation →
      inquiry.first.bridge.Past past.env.lifecycle past.env.generation := by
  intro past hmem hother
  refine ⟨hkeeping.given past hmem, ?_⟩
  rw [hkeeping.lifecycle past hmem, ← hlifecycle, ← Bool.not_eq_true, hserves.isLive_iff]
  exact hother

theorem Keeping.alone_during (hkeeping : descriptor.Keeping id inquiries inquiry.first)
    (hlaw : ∀ exchange ∈ inquiry.exchanges, exchange.Respects inquiry.env descriptor.key)
    (hbefore : ∀ exchange ∈ inquiry.exchanges,
      inquiry.first.Spares descriptor.key exchange.before) :
    ∀ exchange ∈ inquiry.exchanges, descriptor.Alone inquiries exchange.before.bridge ∧
      descriptor.Alone inquiries exchange.after.bridge := by
  intro exchange hmem
  have hkeeping' := hkeeping.spares (hbefore exchange hmem)
  exact ⟨hkeeping'.alone, (hkeeping'.spares (hlaw exchange hmem).tends.toSpares).alone⟩

/-- Nothing remains lent out but what was handed over and what is kept. -/
theorem Keeping.balanced (hkeeping : descriptor.Keeping id inquiries inquiry.first)
    (hlifecycle : inquiry.env.lifecycle = id)
    (hserves : inquiry.first.bridge.Serves inquiry.env)
    (hrun : (descriptor.find inquiry.env).run.Run inquiry.thread inquiry.first
      inquiry.exchanges inquiry.result inquiry.last)
    (hlaw : ∀ exchange ∈ inquiry.exchanges, exchange.Respects inquiry.env descriptor.key)
    (hcached : inquiry.result.isOk = true →
      ∃ handle global, inquiry.Obtains descriptor.key handle global)
    (hquiet : inquiry.Quiet) : inquiry.Balanced descriptor.key := by
  have hready : Ready inquiry.env none inquiry.first.bridge := ⟨hserves, fun _ hkey ↦ nomatch hkey⟩
  have hlent : inquiry.env.Lent 0 := fun resource hmem ↦ absurd hmem (Multiset.notMem_zero resource)
  have hcalls : ∀ exchange ∈ inquiry.exchanges.map (Exchange.onto Estate.account),
      exchange.KeepsAccount inquiry.env := by
    simpa using hquiet.calls
  obtain ⟨-, own, added, ⟨-, -, rfl⟩, -, hkept, hlive⟩ :=
    Settles.classOf descriptor inquiry.thread (inquiry.first.onto Estate.account) 0 _ hready
      ⟨fun _ ↦ hquiet.calm, rfl⟩ hlent (zero_add _).symm _ _ _ (hrun.onto Estate.account) hcalls
  have hkept : inquiry.last.bridge.kept inquiry.env =
      inquiry.first.bridge.kept inquiry.env + added := hkept
  have hlive : inquiry.last.outside.account.live =
      owned inquiry.result + (added + inquiry.first.outside.account.live) := hlive
  have hrests : ∀ exchange ∈ inquiry.exchanges,
      exchange.before.bridge.Rests inquiry.env descriptor.key exchange.after.bridge :=
    fun exchange hmem ↦ ⟨(hlaw exchange hmem).bridge, (hquiet.calls exchange hmem).classes⟩
  have hnothing : inquiry.last.bridge.kept inquiry.env = inquiry.first.bridge.kept inquiry.env →
      inquiry.last.outside.account.live =
        owned inquiry.result + inquiry.first.outside.account.live := by
    intro hsame
    rw [hlive, left_eq_add.1 (hsame.symm.trans hkept), zero_add]
  rcases hkeeping.cases hlifecycle hserves hrun hlaw with
    ⟨_, -, -, -, _, global, -, -, -, hreuses⟩ | ⟨hvacant, hsearch⟩
  · have hclasses : inquiry.last.bridge.classes = inquiry.first.bridge.classes :=
      hreuses.classes hrests
    exact ⟨fun _ ↦ hnothing (kept_of_classes hclasses), fun hother ↦
      absurd (by rw [hclasses]) hother⟩
  · rcases hsearch.keeps hserves hvacant (fun _ ↦ hkeeping.given_of_kept) hrests with
      ⟨⟨error, herror⟩, hsame⟩ | ⟨handle, global, hresult, hfind, hmore⟩
    · exact ⟨fun _ ↦ hnothing hsame, fun hother ↦
        absurd ((hsearch.tends hlaw).1.of_error herror).bridge.kept hother⟩
    · refine ⟨fun hsame ↦ ?_, fun _ ↦ ?_⟩
      · have hunusable := hvacant _ (hsame.symm.trans hfind)
        have husable : inquiry.first.bridge.isUsable
            ⟨some global, inquiry.env.lifecycle, inquiry.env.generation⟩ = true := by
          simpa [Bridge.isUsable, GlobalReference.isReleased] using hserves.isLive_iff.2 rfl
        cases hunusable.symm.trans husable
      · have hok : inquiry.result.isOk = true := by
          rw [hresult]
          rfl
        obtain ⟨found, other, hobtains⟩ := hcached hok
        cases hobtains.kept.symm.trans hfind
        refine ⟨found, global, hobtains, ?_⟩
        rw [hlive, add_left_cancel (hkept.symm.trans hmore)]

/-- One more inquiry. -/
theorem Keeping.asks (hkeeping : descriptor.Keeping id inquiries inquiry.first)
    (hlifecycle : inquiry.env.lifecycle = id)
    (hserves : inquiry.first.bridge.Serves inquiry.env)
    (hrun : (descriptor.find inquiry.env).run.Run inquiry.thread inquiry.first
      inquiry.exchanges inquiry.result inquiry.last)
    (hlaw : ∀ exchange ∈ inquiry.exchanges, exchange.Respects inquiry.env descriptor.key) :
    descriptor.Keeping id (inquiries ++ [inquiry]) inquiry.last ∧
      descriptor.Cached inquiries inquiry := by
  have hpast := hkeeping.past hlifecycle hserves
  have hjustified : ∀ exchange ∈ inquiry.exchanges, ∀ vm handle,
      exchange.request.Passes vm handle →
      Justified inquiry.thread inquiry.first inquiry.exchanges handle :=
    ensures_find_justified _ _ _ hrun fun exchange hmem ↦ (hlaw exchange hmem).tends.bridge.advances
  have hlive : ∀ past ∈ inquiries, past.env.generation = inquiry.env.generation →
      inquiry.first.bridge.isLive id past.env.generation = true :=
    fun past _ hsame ↦ by rw [← hlifecycle, hserves.isLive_iff, hsame]
  rcases hkeeping.cases hlifecycle hserves hrun hlaw with
    ⟨past, hmem, hok, hsame, handle, global, hobtains, hkept, -, hreuses⟩ | ⟨hvacant, hsearch⟩
  · obtain ⟨hkeeping', hcopies⟩ := hkeeping.reused hlifecycle hserves hmem hsame hobtains hkept
      hreuses hlaw
    have htends := hreuses.tends hlaw
    have hobtains' : inquiry.result.isOk = true →
        ∃ handle global, inquiry.Obtains descriptor.key handle global := by
      intro hfound
      obtain ⟨copy, hcopy⟩ := hreuses.owns hfound
      exact ⟨copy, global, (hcopies copy hcopy).1⟩
    refine ⟨hkeeping', ?_, ?_, hobtains', fun _ _ ↦ htends.1.bridge.kept,
      hkeeping.balanced hlifecycle hserves hrun hlaw hobtains', hpast, hjustified,
      hkeeping.alone_during hlaw htends.2⟩
    · intro hnone
      cases (hnone past hmem hsame).symm.trans hok
    · intro other hother hsame' hok'
      obtain ⟨handle', global', hobtains', hkept', hbehind'⟩ :=
        hkeeping.current other hother hok' (hlive other hother hsame')
      obtain rfl : global = global' := by
        have hsame := (hkept.trans hobtains.kept).symm.trans (hkept'.trans hobtains'.kept)
        simpa using congrArg (Option.map GlobalReference.raw) hsame
      exact ⟨handle', global, hobtains', hreuses, fun copy hcopy ↦
        (hcopies copy hcopy).2.trans hbehind'⟩
  · obtain ⟨hkeeping', hobtains⟩ := hkeeping.searched hlifecycle hserves hvacant hsearch hlaw
    have hduring : ∀ exchange ∈ inquiry.exchanges,
        exchange.after.bridge.Vacant descriptor.key := fun exchange hmem ↦
      (((hsearch.tends hlaw).2 exchange hmem).trans (hlaw exchange hmem).tends).bridge.vacant
        (fun _ ↦ hkeeping.given_of_kept) hvacant
    refine ⟨hkeeping', fun _ ↦ ⟨hsearch, hvacant, hduring⟩, ?_, hobtains, ?_,
      hkeeping.balanced hlifecycle hserves hrun hlaw hobtains, hpast, hjustified,
      hkeeping.alone_during hlaw fun exchange hmem ↦
        ((hsearch.tends hlaw).2 exchange hmem).toSpares⟩
    · intro past hmem hsame hok
      exact absurd hvacant (hkeeping.not_vacant hmem hok (hlive past hmem hsame))
    · intro error herror
      exact ((hsearch.tends hlaw).1.of_error herror).bridge.kept

/-- However a class is asked for, each inquiry is answered in this way, and of all the references
that were ever kept at most one can be used. -/
theorem Usage.cached {moment : Moment (Estate object)}
    (husage : descriptor.Usage id inquiries moment) :
    descriptor.Alone inquiries moment.bridge ∧
      ∀ earlier inquiry, earlier ++ [inquiry] <+: inquiries →
        descriptor.Cached earlier inquiry := by
  have hkeeping : descriptor.Keeping id inquiries moment ∧
      ∀ earlier inquiry, earlier ++ [inquiry] <+: inquiries →
        descriptor.Cached earlier inquiry := by
    induction husage with
    | start hnumbered hnothing =>
      exact ⟨.start hnumbered hnothing, fun earlier inquiry hprefix ↦
        absurd hprefix.length_le (by simp)⟩
    | meanwhile _ hspares ih => exact ⟨ih.1.spares hspares, ih.2⟩
    | act _ hactivity hrun hcalls ih =>
      exact ⟨ih.1.spares (ensures_activity_spares hactivity _ _ _ hrun hcalls), ih.2⟩
    | ask _ hlifecycle hserves hrun hlaw ih =>
      obtain ⟨hkeeping, hcached⟩ := ih.1.asks hlifecycle hserves hrun hlaw
      refine ⟨hkeeping, fun earlier inquiry hprefix ↦ ?_⟩
      rcases List.prefix_concat_iff.1 hprefix with hwhole | hbefore
      · obtain ⟨rfl, hlast⟩ := List.append_inj' hwhole rfl
        cases hlast
        exact hcached
      · exact ih.2 earlier inquiry hbefore
  exact ⟨hkeeping.1.alone, hkeeping.2⟩

end ClassDescriptor

/-! ## Two registrations -/

namespace Sample

/-- Machines that make a new handle for each copy of a reference. -/
def copying : (request : Call) → request.Reply
  | .env pointer (.newLocalRef handle) => some ⟨pointer.vm, handle.number + 10⟩
  | .env pointer (.newGlobalRef handle) => some ⟨pointer.vm, handle.number + 20⟩
  | request => something request

/-- What the handles of such a machine refer to. -/
def residue (handle : Handle) : Nat := handle.number % 10

/-- Such machines, which keep account of what they have lent out. -/
def holding : Program.Machine (Estate Nat) := fun request before ↦
  let (reply, after) := lending (fun _ ↦ false) copying request (before.onto Estate.account)
  (reply, ⟨after.bridge, ⟨after.outside, before.outside.behind⟩⟩)

/-- An activity against such a machine. -/
def acted (activity : Activity) (thread : NativeThread) (first : Moment (Estate Nat)) :
    Moment (Estate Nat) :=
  (activity.program.play holding thread first).2.2

/-- An inquiry that such a machine answers. -/
def asked (descriptor : ClassDescriptor) (env : Env) (thread : NativeThread)
    (first : Moment (Estate Nat)) : Inquiry Nat :=
  let (exchanges, result, last) := (descriptor.find env).run.play holding thread first
  ⟨env, thread, first, exchanges, result, last⟩

omit [Host] in
theorem own_copying (pointer : EnvPointer) (function : EnvFunction) :
    ∀ resource ∈ function.brought (copying (.env pointer function)),
      resource.vm = pointer.vm := by
  cases function with
  | newLocalRef | newGlobalRef => simp [EnvFunction.brought, copying, Resource.vm]
  | _ => exact own_something pointer _

theorem keepsAccount_holding (env : Env) (request : Call) (before : Moment (Estate Nat)) :
    (Exchange.onto Estate.account ⟨thread, request, (holding request before).1, before,
      (holding request before).2⟩).KeepsAccount env := by
  refine keepsAccount_lending env thread own_copying
    (fun _ _ hculprit ↦ absurd hculprit Bool.false_ne_true) (fun request ↦ ?_) request _
  cases request with
  | getEnv vm version => exact .inr ⟨_, rfl, rfl⟩
  | attach vm request => exact ⟨_, rfl, rfl⟩
  | _ => trivial

theorem respects_holding (env : Env) (key : DescriptorKey) (request : Call)
    (before : Moment (Estate Nat)) (hresidue : before.outside.behind = residue) :
    Exchange.Respects env key ⟨thread, request, (holding request before).1, before,
      (holding request before).2⟩ := by
  have hbridge : (holding request before).2.bridge = before.bridge :=
    (@lawful_lending _ (fun _ ↦ false) (fun _ ↦ false) copying own_copying
      (fun _ _ hculprit ↦ absurd hculprit Bool.false_ne_true) request
      (before.onto Estate.account)).2.2
  refine ⟨⟨⟨?_, fun _ _ _ _ _ _ ↦ rfl⟩, ?_⟩, ?_⟩
  · rw [hbridge]
    exact .refl before.bridge
  · intro hserves
    rwa [hbridge]
  · cases request with
    | env pointer function =>
      cases function with
      | newLocalRef handle | newGlobalRef handle =>
        rintro copy ⟨rfl⟩
        simp [holding, residue, hresidue, Nat.add_mod]
      | _ => trivial
    | _ => trivial

section

variable {descriptor : ClassDescriptor} {inquiries : List (Inquiry Nat)}
  {first : Moment (Estate Nat)}

/-- In a run against such a machine each handle goes on referring to its object. -/
theorem respects_played {α : Type} (env : Env) (program : Program α)
    (hresidue : first.outside.behind = residue) :
    (∀ exchange ∈ (program.play holding thread first).1,
        exchange.Respects env descriptor.key) ∧
      (program.play holding thread first).2.2.outside.behind = residue :=
  @Program.lawful_play_within _ _ _ thread first holding _ (fun estate ↦ estate.behind = residue)
    program hresidue fun request before hbefore ↦
      ⟨respects_holding env descriptor.key request before hbefore, hbefore⟩

/-- What is done with such a machine belongs to a history of inquiries. -/
theorem usage_acted {activity : Activity} {thread : NativeThread} {last : Moment (Estate Nat)}
    (hlast : last = acted activity thread first)
    (hactivity : ∀ operation env, activity ≠ .operate operation env)
    (husage : descriptor.Usage .shared inquiries first ∧ first.outside.behind = residue) :
    descriptor.Usage .shared inquiries last ∧ last.outside.behind = residue := by
  subst hlast
  obtain ⟨hlaw, hresidue⟩ := respects_played env activity.program husage.2
  exact ⟨.act husage.1 hactivity (Program.run_play _ _) fun exchange hmem ↦
    (hlaw exchange hmem).tends.toSpares, hresidue⟩

theorem usage_asked {env : Env} {thread : NativeThread} {inquiry : Inquiry Nat}
    (hinquiry : inquiry = asked descriptor env thread first) (hlifecycle : env.lifecycle = .shared)
    (hserves : first.bridge.Serves env)
    (husage : descriptor.Usage .shared inquiries first ∧ first.outside.behind = residue) :
    descriptor.Usage .shared (inquiries ++ [inquiry]) inquiry.last ∧
      inquiry.last.outside.behind = residue := by
  subst hinquiry
  obtain ⟨hlaw, hresidue⟩ := respects_played env (descriptor.find env).run husage.2
  exact ⟨.ask husage.1 hlifecycle hserves (Program.run_play _ _) hlaw, hresidue⟩

theorem quiet_asked {env : Env} {thread : NativeThread} {inquiry : Inquiry Nat}
    (hinquiry : inquiry = asked descriptor env thread first)
    (hcalm : inquiry.first.outside.account.pending = false) : inquiry.Quiet := by
  subst hinquiry
  exact ⟨hcalm, Program.lawful_play _ (keepsAccount_holding env)⟩

end

end Sample

omit [Host] in
/-- After a reset, when the machine has been adopted once more, the class is searched again,
although the reference to it is still kept. -/
theorem ClassDescriptor.Usage.cached_readopted :
    let _ := Sample.host
    let descriptor : ClassDescriptor := ⟨"T", "LT;", .numbered 0⟩
    let adopt : Activity := .adopt .shared (some Sample.vm) .v1_8
    let env := Env.of .shared ⟨Sample.vm, .v1_8, Sample.thread.id, false, 1⟩ ⟨Sample.vm, 1⟩
    let renewed := Env.of .shared ⟨Sample.vm, .v1_8, Sample.thread.id, false, 2⟩ ⟨Sample.vm, 1⟩
    let first : Moment (Estate Nat) := ⟨{ registry := .empty }, ⟨⟨false, 0⟩, Sample.residue⟩⟩
    let adopted := Sample.acted adopt Sample.thread first
    let searched := Sample.asked descriptor env Sample.thread adopted
    let reused := Sample.asked descriptor env { id := 1, name := none } searched.last
    let reset := Sample.acted (.reset .shared) Sample.thread reused.last
    let readopted := Sample.acted adopt Sample.thread reset
    let again := Sample.asked descriptor renewed Sample.thread readopted
    let inquiries := [searched, reused, again]
    descriptor.Usage .shared inquiries again.last ∧ (∀ inquiry ∈ inquiries, inquiry.Quiet) ∧
      inquiries.map (fun inquiry ↦ (inquiry.result.isOk, inquiry.exchanges.length)) =
        [(true, 3), (true, 1), (true, 3)] ∧
      descriptor.Alone inquiries again.last.bridge ∧
      ∀ earlier inquiry, earlier ++ [inquiry] <+: inquiries →
        descriptor.Cached earlier inquiry := by
  intro _ descriptor adopt env renewed first adopted searched reused reset readopted again inquiries
  have hstart : descriptor.Usage .shared [] first ∧ first.outside.behind = Sample.residue := by
    refine ⟨.start (fun id registration hregistration ↦ ?_) rfl, rfl⟩
    cases hregistration
  have hadopt : ∀ operation env, adopt ≠ .operate operation env := by simp [adopt]
  have hserves : adopted.bridge.registered? .shared 1 =
      some ⟨Sample.vm, .v1_8, Sample.thread.id, false, 1⟩ := by
    decide +kernel
  have hstays : searched.last.bridge.registered? .shared 1 =
      some ⟨Sample.vm, .v1_8, Sample.thread.id, false, 1⟩ := by
    decide +kernel
  have hrenewed : readopted.bridge.registered? .shared 2 =
      some ⟨Sample.vm, .v1_8, Sample.thread.id, false, 2⟩ := by
    decide +kernel
  have hcalm : ∀ inquiry ∈ inquiries, inquiry.first.outside.account.pending = false := by
    decide +kernel
  have hcounts : inquiries.map (fun inquiry ↦ (inquiry.result.isOk, inquiry.exchanges.length)) =
      [(true, 3), (true, 1), (true, 3)] := by
    decide +kernel
  have hadopted : adopted = Sample.acted adopt Sample.thread first := rfl
  have hsearched : searched = Sample.asked descriptor env Sample.thread adopted := rfl
  have hreused : reused = Sample.asked descriptor env { id := 1, name := none } searched.last := rfl
  have hreset : reset = Sample.acted (.reset .shared) Sample.thread reused.last := rfl
  have hreadopted : readopted = Sample.acted adopt Sample.thread reset := rfl
  have hagain : again = Sample.asked descriptor renewed Sample.thread readopted := rfl
  -- From here on it only matters how these come about, so nothing is evaluated any more.
  clear_value again readopted reset reused searched adopted
  have hfound := Sample.usage_asked hsearched rfl ⟨_, hserves, rfl⟩
    (Sample.usage_acted hadopted hadopt hstart)
  have hrenewal := Sample.usage_acted hreadopted hadopt (Sample.usage_acted hreset (by simp)
    (Sample.usage_asked hreused rfl ⟨_, hstays, rfl⟩ hfound))
  have husage : descriptor.Usage .shared inquiries again.last :=
    (Sample.usage_asked hagain rfl ⟨_, hrenewed, rfl⟩ hrenewal).1
  have hquiet : ∀ inquiry ∈ inquiries, inquiry.Quiet := by
    simp only [inquiries, List.forall_mem_cons] at hcalm ⊢
    exact ⟨Sample.quiet_asked hsearched hcalm.1, Sample.quiet_asked hreused hcalm.2.1,
      Sample.quiet_asked hagain hcalm.2.2.1, List.forall_mem_nil _⟩
  exact ⟨husage, hquiet, hcounts, husage.cached⟩

end JavaInterop
