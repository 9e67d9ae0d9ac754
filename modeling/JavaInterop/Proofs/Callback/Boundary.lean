import JavaInterop.Proofs.Callback.Answering

/-!
# The way back into Java

A call from Java always comes back.  If it has not found its way, or its callback has failed or
panicked, nothing is returned and a failure is pending, in place of whatever was pending before.  If
its callback has returned without an exception, either the result has become an object and nothing
is pending, or the conversion has failed and that is thrown.

Nothing is left behind besides the object that is returned.  The class of the failure and those of
the boxes are given back, and so are the references of the result and of the error, as far as they
belong to the machine of the call.  Only a scalar that is boxed while an exception is pending may
leave the reference to its wrapper class behind, if the machine answers a search with an exception
pending.
-/

namespace JavaInterop

open Program (Ensures)
open Text.ModifiedUtf8 (encode encode_injective)

section

variable [Host] {platform : Platform} {caller : VmId} {pointer : EnvPointer} {env : Env}
  {thread : NativeThread}

/-! ## What becomes of an outcome -/

section

variable {ω α : Type} {law : Exchange ω → Prop} {first : Moment ω}

/-- The run itself is known in the end. -/
theorem Program.Ensures.traced {program : Program α}
    {post : List (Exchange ω) → α → Moment ω → Prop}
    (hensures : Ensures law thread program first post) :
    Ensures law thread program first fun exchanges result last ↦
      program.Run thread first exchanges result last ∧ post exchanges result last :=
  fun exchanges result last hrun hlaw ↦ ⟨hrun, hensures exchanges result last hrun hlaw⟩

end

namespace Platform

/-- Nothing is returned, and a failure with this message is pending. -/
def Throws (result : Option Handle) (heap : platform.toHierarchy.Heap) (text : String) : Prop :=
  result = none ∧ Reports heap text

/-- How a call ends whose callback has ended.  What is said about a result holds if the callback has
left no exception behind. -/
def Lands (thread : NativeThread) (env : Env) (outcome : Outcome Value)
    (middle : Moment platform.toHierarchy.Heap)
    (rest : List (Exchange platform.toHierarchy.Heap)) (result : Option Handle)
    (heap : platform.toHierarchy.Heap) : Prop :=
  match outcome with
  | .failed error => Throws result heap s!"Exception during native execution: {error.message}"
  | .panicked => Throws result heap "Unknown exception during native execution"
  | .returned value => middle.outside.pending = none →
    (heap.pending = none ∧ Becomes middle.outside heap value result) ∨
    ∃ error converting after later,
      (value.toObject env).run.Run thread middle converting (.error error) after ∧
      rest = converting ++ later ∧ Unmade value converting error ∧
      Throws result heap s!"Exception during native execution: {error.message}"

variable {first : Moment platform.toHierarchy.Heap}

/-- An error is thrown and dropped, and dropping it leaves the exception alone. -/
theorem ensures_answerFailed (error : Error) :
    Ensures (Exchange.Complies caller) thread (answerJava pointer (.failed error)) first
      fun _ result last ↦ Throws result last.outside
        s!"Exception during native execution: {error.message}" := by
  unfold answerJava
  rw [Program.ensures_bind]
  refine (ensures_throwRuntimeException pointer _).weaken ?_
  rintro thrown _ middle ⟨object, hobject, hreport⟩
  rw [Program.ensures_bind]
  refine (ensures_dropError error).weaken ?_
  rintro dropped _ last hspares
  exact Program.ensures_pure.2 ⟨rfl, object, hspares.pending.trans hobject, hreport⟩

theorem ensures_conclude (outcome : Outcome Value) :
    Ensures (Exchange.Complies caller) thread (conclude pointer env outcome) first
      fun rest result last ↦ Lands thread env outcome first rest result last.outside := by
  rcases outcome with value | error | _
  · by_cases hcalm : first.outside.pending = none
    · unfold conclude
      rw [Program.ensures_bind]
      refine (ensures_toObject value hcalm).traced.weaken ?_
      rintro converting result after ⟨hrun, hconverted⟩
      rw [Program.ensures_bind]
      refine (ensures_dropValue value).weaken ?_
      rintro dropped _ middle hspares
      rcases hconverted with ⟨object, rfl, hcalm', hbecomes⟩ | ⟨error, rfl, hunmade⟩
      · exact Program.ensures_pure.2 fun _ ↦
          .inl ⟨hspares.pending.trans hcalm', hbecomes.spares hspares⟩
      · refine (ensures_answerFailed error).weaken ?_
        intro answered result last hthrows _
        exact .inr ⟨error, converting, after, _, hrun, rfl, hunmade, hthrows⟩
    · intro _ _ _ _ _ hcalm'
      exact absurd hcalm' hcalm
  · exact ensures_answerFailed error
  · unfold conclude answerJava
    rw [Program.ensures_bind]
    refine (ensures_throwRuntimeException pointer _).weaken ?_
    intro thrown _ last hreport
    exact Program.ensures_pure.2 ⟨rfl, hreport⟩

end Platform

/-! ## What remains lent out -/

/-- The reference that goes with the outcome of a callback. -/
def Outcome.held : Outcome Value → Option GlobalReference
  | .returned value => value.held
  | .failed error => error.owned?
  | .panicked => none

/-- Nothing is lent out in the end that was not so before the callback ended, except for the object
that is returned, and what the outcome of the callback held is given back. -/
def Env.Evens (env : Env) (outcome : Outcome Value) (before after : Account)
    (result : Option Handle) : Prop :=
  env.GivesBack outcome.held (localShare result + before.live) after.live

section

variable {account : Moment Account}

/-- Throwing a failure gives back the reference to the class of the failure. -/
theorem ensures_throwRuntimeException_live {law : Exchange Account → Prop}
    (hledger : ∀ exchange, law exchange →
      LedgerLaw exchange.before.outside exchange.after.outside exchange.request exchange.reply)
    (text : String) :
    Ensures law thread (throwRuntimeException pointer text) account fun _ _ last ↦
      last.outside.live = account.outside.live := by
  have hidle : ∀ {function : EnvFunction} {reply : function.Reply} {before after : Moment Account},
      law ⟨thread, .env pointer function, reply, before, after⟩ → function.returned = none →
      function.brought reply = 0 → after.outside.live = before.outside.live := by
    intro function reply before after hlaw hreturned hbrought
    obtain ⟨-, -, hafter⟩ := hledger _ hlaw
    rw [show after.outside.live = _ from hafter, hbrought, hreturned, zero_add]
    rfl
  let same (later : Account) : Prop := later.live = account.outside.live
  refine ensures_throwing same same ?_ ?_ ?_ ?_
  · exact fun checked hlaw ↦ hidle hlaw rfl rfl
  · exact fun checked cleared hlaw hlaw' ↦ (hidle hlaw' rfl rfl).trans (hidle hlaw rfl rfl)
  · exact fun before found hsame hlaw ↦ (hidle hlaw rfl rfl).trans hsame
  · intro before found thrown last classObject status hsame hlaw hlaw' hlaw''
    obtain ⟨hvm, -, hfound⟩ := hledger _ hlaw
    obtain ⟨-, -, hlast⟩ := hledger _ hlaw''
    have hvm : (Resource.localReference classObject).vm = pointer.vm :=
      hvm _ (Multiset.mem_singleton_self _)
    have hfound : found.outside.live = {.localReference classObject} + before.outside.live := hfound
    have hlast : last.outside.live =
        0 + takeBack pointer.vm (some (.localReference classObject)) thrown.outside.live := hlast
    change last.outside.live = _
    rw [hlast, zero_add, takeBack, if_pos hvm, hidle hlaw' rfl rfl, hfound,
      Multiset.singleton_add, Multiset.erase_cons_head]
    exact hsame

/-- An error that holds nothing is only thrown. -/
theorem ensures_answerPlain_live {law : Exchange Account → Prop}
    (hledger : ∀ exchange, law exchange →
      LedgerLaw exchange.before.outside exchange.after.outside exchange.request exchange.reply)
    {error : Error} (hplain : error.owned? = none) :
    Ensures law thread (answerJava pointer (.failed error)) account fun _ _ last ↦
      last.outside.live = account.outside.live := by
  unfold answerJava Error.drop
  dsimp only
  rw [hplain, Program.ensures_bind]
  refine (ensures_throwRuntimeException_live hledger _).weaken ?_
  intro thrown _ last hsame
  exact Program.ensures_bind.2 (Program.ensures_pure.2 (Program.ensures_pure.2 hsame))

/-- An error is dropped after it has been thrown. -/
theorem ensures_answerFailed_givesBack (error : Error) (hserves : account.bridge.Serves env) :
    Ensures (Exchange.KeepsAccount env) thread (answerJava pointer (.failed error)) account
      fun _ result last ↦ result = none ∧
        env.GivesBack error.owned? account.outside.live last.outside.live := by
  unfold answerJava
  rw [Program.ensures_bind]
  refine (((writes_throwRuntimeException pointer _).ensures_served hserves).and
    (ensures_throwRuntimeException_live (fun _ hlaw ↦ hlaw.ledger) _)).weaken ?_
  rintro thrown _ middle ⟨hserves', hsame⟩
  rw [Program.ensures_bind]
  refine (ensures_dropError_givesBack error hserves').weaken ?_
  rintro dropped _ last ⟨-, hback⟩
  exact Program.ensures_pure.2 ⟨rfl, hsame ▸ hback⟩

/-- A value that holds a reference is not made an object by catching exceptions, so that there is
nothing in the error. -/
theorem always_plain_toObject (value : Value) :
    Always (value.toObject env).run fun result ↦
      ∀ error, result = .error error → value.held = none ∨ error.owned? = none := by
  rcases value with (_ | reference) | scalar | _
  · exact Always.trivial.weaken fun _ _ _ _ ↦ .inl rfl
  · intro ω law thread first
    unfold Value.toObject Env.newLocal Fallible.nonNull
    rw [Fallible.ensures_map]
    cases reference.raw with
    | none =>
      rw [Fallible.run_throw_bind, Program.ensures_pure]
      rintro _ ⟨rfl⟩
      exact .inr rfl
    | some handle =>
      rw [pure_bind, Fallible.ensures_liftThen, Env.perform, Program.ensures_perform]
      rintro (_ | gained) after -
      · refine Fallible.ensures_throw.2 ?_
        rintro _ ⟨rfl⟩
        exact .inr rfl
      · refine Fallible.ensures_pure.2 ?_
        rintro _ ⟨⟩
  · exact Always.trivial.weaken fun _ _ _ _ ↦ .inl rfl
  · exact Always.trivial.weaken fun _ _ _ _ ↦ .inl rfl

/-- A value is made an object, and the books are even then, unless a scalar is boxed while an
exception is pending. -/
theorem ensures_concludeReturned_evens (value : Value) (hserves : account.bridge.Serves env)
    (hcalm : ∀ scalar, value = .scalar scalar → account.outside.pending = false) :
    Ensures (Exchange.KeepsAccount env) thread (conclude pointer env (.returned value)) account
      fun _ result last ↦ env.Evens (.returned value) account.outside last.outside result := by
  have hopening : Opening (!account.outside.pending) 0 account.outside.pending 0 :=
    ⟨fun hcalm ↦ by simpa using hcalm, rfl⟩
  have hsettles : Settles env none (!account.outside.pending) (value.toObject env)
      (!account.outside.pending) := by
    refine Settles.toObject value ?_
    rintro scalar rfl
    rw [hcalm scalar rfl, Bool.not_false]
  have hnothing : env.Lent 0 := fun resource hmem ↦ absurd hmem (Multiset.notMem_zero resource)
  unfold conclude
  rw [Program.ensures_bind]
  refine ((hsettles.exact (value.writes_toObject env) hserves hopening hnothing
    (zero_add account.outside.live).symm).and (always_plain_toObject value _ _ _ _)).weaken ?_
  rintro converting result after ⟨⟨hserves', own, ⟨hissued, -, rfl⟩, hlent, hlive⟩, hplain⟩
  rw [Program.ensures_bind]
  refine (ensures_dropValue_givesBack value hserves').weaken ?_
  rintro dropped _ middle ⟨hserves'', hback⟩
  rw [hlive] at hback
  rcases result with error | object
  · refine (ensures_answerFailed_givesBack error hserves'').weaken ?_
    rintro answered result last ⟨rfl, herror⟩
    change env.GivesBack value.held (0 + account.outside.live) last.outside.live
    rw [zero_add]
    -- Either the value held nothing, or the error does.
    rcases hplain error rfl with hheld | hheld
    · have hmiddle : middle.outside.live = owned error.owned? + account.outside.live := by
        rw [hheld] at hback
        exact hback.eq_of_nothing rfl
      rw [hmiddle] at herror
      rw [hheld, herror.all hissued hlent]
      exact .refl rfl _
    · have hnothing : owned error.owned? = 0 := owned_of_plain hheld
      change env.GivesBack value.held (owned error.owned? + account.outside.live) _ at hback
      rw [hnothing, zero_add] at hback
      rwa [herror.eq_of_nothing hnothing]
  · have hshare : owned object = localShare (object.bind LocalReference.raw) := by
      cases object <;> rfl
    refine Program.ensures_pure.2 ?_
    change env.GivesBack value.held (localShare (object.bind LocalReference.raw) + _) _
    rw [← hshare]
    exact hback

/-- Whatever a callback ends with, the books are even in the end, unless a scalar is boxed while an
exception is pending. -/
theorem ensures_conclude_evens (outcome : Outcome Value) (hserves : account.bridge.Serves env)
    (hcalm : ∀ scalar, outcome = .returned (.scalar scalar) → account.outside.pending = false) :
    Ensures (Exchange.KeepsAccount env) thread (conclude pointer env outcome) account
      fun _ result last ↦ env.Evens outcome account.outside last.outside result := by
  cases outcome with
  | returned value =>
    apply ensures_concludeReturned_evens value hserves
    rintro scalar rfl
    exact hcalm scalar rfl
  | failed error =>
    refine (ensures_answerFailed_givesBack error hserves).weaken ?_
    rintro answered result last ⟨rfl, hback⟩
    change env.GivesBack error.owned? (0 + account.outside.live) last.outside.live
    rwa [zero_add]
  | panicked =>
    unfold conclude answerJava
    rw [Program.ensures_bind]
    refine (ensures_throwRuntimeException_live (fun _ hlaw ↦ hlaw.ledger) _).weaken ?_
    intro thrown _ last hsame
    refine Program.ensures_pure.2 ?_
    change env.GivesBack (none : Option GlobalReference) (0 + account.outside.live)
      last.outside.live
    rw [zero_add, hsame]
    exact .refl rfl _

end

/-! ## Calls from Java -/

/-- What is seen of the machine that calls native code: the running thread's references and the
exception that is pending on it, and what the machine has lent out. -/
structure Premises (platform : Platform) where
  heap : platform.toHierarchy.Heap
  lent : Multiset Resource

/-- The part of them that the books are kept on. -/
def Premises.account (premises : Premises platform) : Account :=
  ⟨premises.heap.pending.isSome, premises.lent⟩

/-- How a call from Java with these numbers ends.  The numbers may be any. -/
structure Boundary (platform : Platform) (run : CallbackRunner) (pointer : EnvPointer)
    (table : Int64) (index : Int32) (receiver array : Option Handle) (thread : NativeThread)
    (first : Moment (Premises platform)) : Prop where
  /-- Whatever the machine answers, the call comes back. -/
  returns : ∀ machine : Program.Machine (Premises platform), ∃ exchanges result last,
    (invokeNative run pointer table index receiver array).Run thread first exchanges result last ∧
      ∀ exchange ∈ exchanges,
        (exchange.reply, exchange.after) = machine exchange.request exchange.before
  /-- A call that does not find its way throws the reason and lends nothing out. -/
  lost : ∀ error, first.bridge.route pointer table index = .error error →
    ∀ exchanges result last,
      (invokeNative run pointer table index receiver array).Run thread first exchanges result
        last →
      ((∀ exchange ∈ exchanges, (exchange.onto Premises.heap).Complies pointer.vm) →
        Platform.Throws result last.outside.heap
          s!"Exception during native execution: {error.message}") ∧
      ((∀ exchange ∈ exchanges, LedgerLaw exchange.before.outside.account
          exchange.after.outside.account exchange.request exchange.reply) →
        last.outside.lent = first.outside.lent)
  /-- Any other call runs its callback, and what the callback ends with decides how it ends.  The
  books are even if the callback has left the registration of its lifecycle alone, unless a scalar
  is boxed while an exception is pending. -/
  reached : ∀ callback env, first.bridge.route pointer table index = .ok (callback, env) →
    ∀ exchanges result last,
      (invokeNative run pointer table index receiver array).Run thread first exchanges result
        last →
      ∃ begun outcome middle rest, exchanges = begun ++ rest ∧
        (run callback env receiver ⟨env, array⟩).Run thread first begun outcome middle ∧
        ((∀ exchange ∈ rest, (exchange.onto Premises.heap).Complies pointer.vm) →
          Platform.Lands thread env outcome (middle.onto Premises.heap)
            (rest.map (Exchange.onto Premises.heap)) result last.outside.heap) ∧
        (env.vm = pointer.vm →
          (middle.bridge.lifecycle env.lifecycle).registration =
            (first.bridge.lifecycle env.lifecycle).registration →
          (∀ scalar, outcome = .returned (.scalar scalar) → middle.outside.heap.pending = none) →
          (∀ exchange ∈ rest, (exchange.onto Premises.account).KeepsAccount env) →
          env.Evens outcome middle.outside.account last.outside.account result)

/-- The errors of calls that do not find their way hold nothing. -/
theorem Bridge.owned?_of_route_error {bridge : Bridge} {table : Int64} {index : Int32}
    {error : Error} (hroute : bridge.route pointer table index = .error error) :
    error.owned? = none := by
  unfold Bridge.route at hroute
  split at hroute
  · cases hroute
    rfl
  · split at hroute
    · cases hroute
      rfl
    · split at hroute
      · cases hroute
        rfl
      · cases hroute

/-- A callback that leaves the registration of its lifecycle alone can count on it in the end. -/
theorem Bridge.serves_of_route {bridge later : Bridge} {table : Int64} {index : Int32}
    {callback : Host.Callback} (hroute : bridge.route pointer table index = .ok (callback, env))
    (hvm : env.vm = pointer.vm)
    (hsame : (later.lifecycle env.lifecycle).registration =
      (bridge.lifecycle env.lifecycle).registration) : later.Serves env := by
  obtain ⟨_, _, found, registration, -, -, -, -, hregistration, rfl⟩ :=
    Bridge.route_eq_ok_iff.1 hroute
  refine ⟨registration, ?_, hvm⟩
  unfold Bridge.registered?
  rw [hsame]
  exact Option.filter_eq_some_iff.2 ⟨hregistration, beq_self_eq_true registration.generation⟩

/-- A call from Java always comes back, with an object or with a failure. -/
theorem invokeNative_lands (run : CallbackRunner) (pointer : EnvPointer) (table : Int64)
    (index : Int32) (receiver array : Option Handle) (thread : NativeThread)
    (first : Moment (Premises platform)) :
    Boundary platform run pointer table index receiver array thread first where
  returns machine := by
    refine ⟨_, _, _, Program.run_play machine _, Program.lawful_play _ fun request before ↦ rfl⟩
  lost error hroute exchanges result last hrun := by
    rw [run_invokeNative, hroute] at hrun
    have hrun : (answerJava pointer (.failed error)).Run thread first exchanges result last := hrun
    refine ⟨fun hlaw ↦ ?_, fun hlaw ↦ ?_⟩
    · exact (Platform.ensures_answerFailed error).onto (fun _ hcomplies ↦ hcomplies) exchanges
        result last hrun hlaw
    · have hplain : error.owned? = none := Bridge.owned?_of_route_error hroute
      exact (ensures_answerPlain_live (fun _ hledger ↦ hledger) hplain).onto
        (fun _ hledger ↦ hledger) exchanges result last hrun hlaw
  reached callback env hroute exchanges result last hrun := by
    rw [run_invokeNative, hroute] at hrun
    obtain ⟨begun, outcome, middle, rest, hbegun, hrest, rfl⟩ := Program.Run.of_bind hrun
    refine ⟨begun, outcome, middle, rest, rfl, hbegun, fun hlaw ↦ ?_, ?_⟩
    · exact (Platform.ensures_conclude outcome).onto (fun _ hcomplies ↦ hcomplies) rest result last
        hrest hlaw
    · intro hvm hsame hcalm hlaw
      have hserves : middle.bridge.Serves env := Bridge.serves_of_route hroute hvm hsame
      refine (ensures_conclude_evens outcome hserves fun scalar hscalar ↦ ?_).onto
        (fun _ hkeeps ↦ hkeeps) rest result last hrest hlaw
      exact congrArg Option.isSome (hcalm scalar hscalar)

end

/-! ## A call that ends with an object -/

namespace Sample

/-- A callback that returns a number. -/
def counting [Host] : CallbackRunner := fun _ _ _ _ ↦ pure (.returned (.scalar (.int 1)))

/-- Nothing is pending or lent out, and a callback is registered in the first table. -/
def entered : @Moment host (Premises platform) :=
  let _ := host
  ⟨{ bridge with tables := ⟨[(1, ⟨.shared, #[()]⟩)]⟩ }, ⟨none, .empty⟩, 0⟩

/-- How the machine answers while the books are kept. -/
structure Lawful [Host] (exchange : Exchange (Premises platform)) : Prop where
  complies : (exchange.onto Premises.heap).Complies vm
  keeps : (exchange.onto Premises.account).KeepsAccount env
  steady : ¬ (exchange.onto Premises.heap).Raises
  granted : ¬ exchange.request.Refused exchange.reply

theorem exists_lawful [Host] (request : Call) (before : Moment (Premises platform)) :
    ∃ reply after, Lawful ⟨thread, request, reply, before, after⟩ := by
  obtain ⟨reply, heap, hanswers⟩ := exists_answers false before.outside.heap request
  obtain ⟨lent, hledger⟩ := hanswers.ledger rfl before.outside.lent
  refine ⟨reply, ⟨before.bridge, heap, lent⟩, hanswers.complies, ?_, ?_, hanswers.granted⟩
  · exact ⟨hanswers.pending, hledger, hanswers.attach, id, rfl, fun _ _ _ ↦ id⟩
  · rintro ⟨hraises, hown⟩
    obtain ⟨pointer, function, hrequest, hreplaces⟩ := hanswers.steady hraises
    exact hown pointer function hrequest hreplaces

end Sample

/-- A callback returns a number, and Java gets the box of it.  Nothing else is lent out then. -/
theorem invokeNative_lands_boxed :
    let _ := Sample.host
    ∃ (exchanges : List (Exchange (Premises Sample.platform))) (handle : Handle)
      (last : Moment (Premises Sample.platform)),
      (invokeNative Sample.counting Sample.env.pointer 1 0 none none).Run Sample.thread
        Sample.entered exchanges (some handle) last ∧
      (∀ exchange ∈ exchanges, Sample.Lawful exchange) ∧
      last.outside.heap.live.find? handle = some (.object (.box (.int 1))) ∧
      last.outside.heap.pending = none ∧ last.outside.lent = {.localReference handle} := by
  intro _
  obtain ⟨exchanges, result, last, hrun, hlaw⟩ := @Program.exists_run _ _ _ Sample.thread
    Sample.entered (invokeNative Sample.counting Sample.env.pointer 1 0 none none) Sample.Lawful
    Sample.exists_lawful
  have hroute : Sample.entered.bridge.route Sample.env.pointer 1 0 = .ok ((), Sample.env) := rfl
  obtain ⟨begun, outcome, middle, rest, rfl, hbegun, hlands, hevens⟩ :=
    (invokeNative_lands Sample.counting Sample.env.pointer 1 0 none none Sample.thread
      Sample.entered).reached () Sample.env hroute exchanges result last hrun
  cases hbegun
  have hsteady : ∀ converting ⊆ rest.map (Exchange.onto Premises.heap), ∀ error,
      ¬ Platform.Unmade (.scalar (.int 1)) converting error := by
    rintro converting hsubset error (⟨_, hvalue, -⟩ | ⟨exchange, hmem, hcause⟩)
    · cases hvalue
    · obtain ⟨whole, hwhole, rfl⟩ := List.mem_map.1 (hsubset hmem)
      exact hcause.elim (hlaw whole hwhole).steady (hlaw whole hwhole).granted
  rcases hlands (fun exchange hmem ↦ (hlaw exchange hmem).complies) rfl with
    ⟨hpending, hbecomes⟩ | ⟨error, converting, after, later, -, hrest, hunmade, -⟩
  · cases hbecomes with
    | @scalar _ object handle hboxed hfresh hlive =>
      have hobject : object = .box (.int 1) := by
        cases object with
        | box scalar => exact congrArg Sample.Thing.box (Option.some.inj hboxed)
        | _ => cases hboxed
      obtain ⟨freed, hle, hlent, -⟩ := hevens rfl rfl (fun _ _ ↦ rfl)
        fun exchange hmem ↦ (hlaw exchange hmem).keeps
      refine ⟨_, handle, last, hrun, hlaw, hobject ▸ hlive, hpending, ?_⟩
      rw [Multiset.le_zero.1 hle] at hlent
      calc
        last.outside.lent = last.outside.lent + 0 := (add_zero _).symm
        _ = {.localReference handle} + 0 := hlent
        _ = {.localReference handle} := add_zero _
  · exact absurd hunmade (hsteady converting (hrest ▸ List.subset_append_left _ _) error)

namespace Sample

/-- A reference to an object that can be thrown. -/
def throwable : Handle := ⟨vm, 5⟩

/-- A callback that throws the object and returns a value. -/
def thrower [Host] (value : Value) : CallbackRunner := fun _ env _ _ ↦ do
  match ← (env.raise throwable).run with
  | .ok _ => return .returned value
  | .error error => return .failed error

/-- The functions that throw. -/
def throws : EnvFunction → Bool
  | .throw _ | .throwNew .. => true
  | _ => false

theorem isCulprit_throws (pointer : EnvPointer) (function : EnvFunction)
    (hthrows : throws function = true) :
    function.isSafeWhilePending = false ∧ function.mayFault = true ∧
      function.Fails (something (.env pointer function)) ∧
      function.brought (something (.env pointer function)) = 0 := by
  cases function with
  | throw _ | throwNew _ _ => exact ⟨rfl, rfl, trivial, rfl⟩
  | _ => cases hthrows

end Sample

/-- A callback throws and returns a number.  The machine answers the search for the class of the box
although an exception is pending, and in the end the reference to that class is left behind. -/
theorem invokeNative_leaves_wrapper :
    let _ := Sample.host
    let first : Moment Account := ⟨Sample.entered.bridge, ⟨false, 0⟩⟩
    let machine := Sample.lending Sample.throws Sample.something
    let callback := (Sample.thrower (.scalar (.int 1)) () Sample.env none ⟨Sample.env, none⟩).play
      machine Sample.thread first
    let call := (invokeNative (Sample.thrower (.scalar (.int 1))) Sample.env.pointer 1 0 none
      none).play machine Sample.thread first
    (callback.2.1 = .returned (.scalar (.int 1)) ∧ callback.2.2.outside.pending = true ∧
      callback.2.2.outside.live = 0) ∧
    (∀ exchange ∈ call.1, exchange.KeepsAccount Sample.env) ∧ call.2.1 = none ∧
      call.2.2.outside.pending = true ∧
      call.2.2.outside.live = {.localReference ⟨Sample.vm, 3⟩} := by
  intro _ first machine callback call
  refine ⟨⟨rfl, by decide +kernel, by decide +kernel⟩, ?_, by decide +kernel, by decide +kernel,
    by decide +kernel⟩
  exact Program.lawful_play _ (Sample.keepsAccount_lending Sample.env Sample.thread
    Sample.own_something Sample.isCulprit_throws Sample.attachLaw_something)

end JavaInterop
