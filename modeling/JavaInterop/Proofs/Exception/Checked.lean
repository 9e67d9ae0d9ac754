import JavaInterop.Proofs.Environment.Operation
import JavaInterop.Proofs.Exception.Inspection

/-!
# Every operation checks for exceptions

The operations of an environment keep the discipline with pending exceptions: started without one,
they leave none behind, they call nothing that must not be called while one is pending, and they
fail if a call raised one.  The two operations that take a pending exception from the machine do so
in any situation.

What may happen during a call is left open, and so is what the functions answer.  Everything else
follows the way in which the operations are built on each other.
-/

namespace JavaInterop

open EnvFunction (mayRaise)

variable [Host] {α : Type} {env : Env}

/-! ## Calls that are followed by a check -/

theorem Catches.throwWithCause (text : String) :
    Catches mayRaise (do throw (← env.withCause text) : Fallible α) := by
  rw [Catches, Fallible.run_lift_bind]
  refine Guards.always ?_ (Always.bind fun error ↦ Always.throw)
  refine (contained_withCause text).bind ?_ ?_
  · exact fun error ↦ (Disciplined.throw error).settles
  · exact fun error _ ↦ Always.trivial

/-- A call that is followed by a check, as in most operations. -/
theorem Disciplined.performThenCatch {function : EnvFunction} {next : function.Reply → Fallible α}
    (hsafe : function.isSafeWhilePending = false)
    (hnext : ∀ reply, Disciplined mayRaise (next reply)) :
    Disciplined mayRaise (do
      let reply ← liftM (env.perform function)
      env.catchPending
      next reply) :=
  Disciplined.performChecked hsafe fun reply ↦ Catches.catchPending.andThen fun _ ↦ hnext reply

theorem Disciplined.findClass (internalName : String) :
    Disciplined mayRaise (env.findClass internalName) := by
  refine (Disciplined.ended internalName).andThen fun name ↦ ?_
  refine Disciplined.performThenCatch rfl fun answer ↦ ?_
  exact (Disciplined.nonNull answer _).andThen fun _ ↦ Disciplined.done _

theorem Disciplined.findMethod (classObject : Option Handle) (name signature : String)
    (isStatic : Bool) :
    Disciplined mayRaise (env.findMethod classObject name signature isStatic) := by
  refine (Disciplined.nonNull classObject _).andThen fun classObject ↦ ?_
  refine (Disciplined.ended name).andThen fun endedName ↦ ?_
  refine (Disciplined.ended signature).andThen fun endedSignature ↦ ?_
  refine Disciplined.perform rfl ?_ ?_
  · intro reply _ hfails
    rw [show reply = none from hfails]
    exact Catches.throwWithCause _
  · rintro (_ | method)
    · exact (Catches.throwWithCause _).clear
    · exact Disciplined.done method

theorem Disciplined.registerNatives (classObject : Option Handle) (methods : List NativeMethod) :
    Disciplined mayRaise (env.registerNatives classObject methods) := by
  refine (Disciplined.nonNull classObject _).andThen fun classObject ↦ ?_
  exact Disciplined.performThenCatch rfl fun answer ↦ Disciplined.ofStatus answer _

theorem Disciplined.callObject (receiver : Option Handle) (method : MethodId)
    (arguments : List Argument) :
    Disciplined mayRaise (env.callObject receiver method arguments) := by
  refine (Disciplined.nonNull receiver _).andThen fun receiver ↦ ?_
  exact Disciplined.performThenCatch rfl fun answer ↦ Disciplined.done _

theorem Disciplined.callVoid (receiver : Option Handle) (method : MethodId)
    (arguments : List Argument) :
    Disciplined mayRaise (env.callVoid receiver method arguments) := by
  refine (Disciplined.nonNull receiver _).andThen fun receiver ↦ ?_
  exact Disciplined.performChecked rfl fun _ ↦ Catches.catchPending

theorem Disciplined.callPrimitive (kind : Primitive) (receiver : Option Handle) (method : MethodId)
    (arguments : List Argument) :
    Disciplined mayRaise (env.callPrimitive kind receiver method arguments) := by
  refine (Disciplined.nonNull receiver _).andThen fun receiver ↦ ?_
  exact Disciplined.performThenCatch rfl fun answer ↦ Disciplined.done _

theorem Disciplined.callStaticObject (classObject : Option Handle) (method : MethodId)
    (arguments : List Argument) :
    Disciplined mayRaise (env.callStaticObject classObject method arguments) := by
  refine (Disciplined.nonNull classObject _).andThen fun classObject ↦ ?_
  exact Disciplined.performThenCatch rfl fun answer ↦ Disciplined.done _

theorem Disciplined.callStaticVoid (classObject : Option Handle) (method : MethodId)
    (arguments : List Argument) :
    Disciplined mayRaise (env.callStaticVoid classObject method arguments) := by
  refine (Disciplined.nonNull classObject _).andThen fun classObject ↦ ?_
  exact Disciplined.performChecked rfl fun _ ↦ Catches.catchPending

theorem Disciplined.newObject (classObject : Option Handle) (constructor : MethodId)
    (arguments : List Argument) :
    Disciplined mayRaise (env.newObject classObject constructor arguments) := by
  refine (Disciplined.nonNull classObject _).andThen fun classObject ↦ ?_
  refine Disciplined.performThenCatch rfl fun answer ↦ ?_
  exact (Disciplined.nonNull answer _).andThen fun _ ↦ Disciplined.done _

theorem Disciplined.newString (content : String) :
    Disciplined mayRaise (env.newString content) := by
  refine Disciplined.performThenCatch rfl fun answer ↦ ?_
  exact (Disciplined.nonNull answer _).andThen fun _ ↦ Disciplined.done _

theorem Disciplined.getString (string : Option Handle) :
    Disciplined mayRaise (env.getString string) := by
  refine (Disciplined.nonNull string _).andThen fun string ↦ ?_
  refine Disciplined.readString ?_ ?_
  · exact Catches.catchPending.andThen fun _ ↦ Disciplined.throw _
  · rintro (error | text)
    · exact Disciplined.throw error
    · exact Disciplined.done text

theorem Disciplined.arrayElement (array : Option Handle) (index : Nat) :
    Disciplined mayRaise (env.arrayElement array index) := by
  refine (Disciplined.nonNull array _).andThen fun array ↦ ?_
  exact Disciplined.performThenCatch rfl fun element ↦ Disciplined.done _

theorem Disciplined.describe (object : Option Handle) :
    Disciplined mayRaise (env.describe object) := by
  unfold Env.describe
  split
  · exact Disciplined.done _
  · refine (Disciplined.findClass _).andThen fun classObject ↦ Guards.scope _ ?_
    refine (Disciplined.findMethod _ _ _ _).andThen fun method ↦ ?_
    refine (Disciplined.callObject _ _ _).andThen ?_
    rintro (_ | string)
    · exact Disciplined.done _
    · exact Guards.scope _ (Disciplined.getString _)

theorem Disciplined.className (classObject : Option Handle) :
    Disciplined mayRaise (env.className classObject) := by
  refine (Disciplined.findClass _).andThen fun metaclass ↦ Guards.scope _ ?_
  refine (Disciplined.findMethod _ _ _ _).andThen fun method ↦ ?_
  refine (Disciplined.callObject _ _ _).andThen ?_
  rintro (_ | name)
  · exact Disciplined.throw _
  · exact Guards.scope _ (Disciplined.getString _)

theorem Disciplined.withReason {operation : Fallible α} (text : String)
    (hoperation : Disciplined mayRaise operation) :
    Disciplined mayRaise (operation.withReason text) :=
  hoperation.mapFailure fun error ↦ (Peaceful.dropError error).bind fun _ ↦ Peaceful.done _

/-! ## Values and classes -/

theorem Disciplined.newLocal (object : Option Handle) :
    Disciplined mayRaise (env.newLocal object) := by
  refine (Disciplined.nonNull object _).andThen fun object ↦ ?_
  refine Disciplined.bindPeaceful (peaceful_silent rfl rfl) ?_
  rintro (_ | reference)
  · exact Disciplined.throw _
  · exact Disciplined.done _

theorem Disciplined.isInstanceOf (object classObject : Option Handle) :
    Disciplined mayRaise (env.isInstanceOf object classObject) :=
  (Disciplined.nonNull classObject _).andThen fun _ ↦ Disciplined.lift (peaceful_silent rfl rfl)

theorem Disciplined.toObject (value : Value) : Disciplined mayRaise (value.toObject env) := by
  match value with
  | .void | .object none => exact Disciplined.done none
  | .object (some reference) => exact (Disciplined.newLocal reference.raw).mapResult
  | .scalar content =>
    refine (Disciplined.findClass _).andThen fun wrapper ↦ Guards.scope _ ?_
    refine (Disciplined.findMethod _ _ _ _).andThen fun valueOf ↦ ?_
    exact Disciplined.callStaticObject _ _ _

theorem Disciplined.unbox (object : Option Handle) (kind : Primitive) :
    Disciplined mayRaise (env.unbox object kind) := by
  refine (Disciplined.findClass _).andThen fun wrapper ↦ Guards.scope _ ?_
  refine (Disciplined.isInstanceOf _ _).andThen fun isWrapper ↦ ?_
  split
  · refine (Disciplined.findMethod _ _ _ _).andThen fun method ↦ ?_
    exact Disciplined.callPrimitive _ _ _ _
  · exact Disciplined.throw _

theorem Disciplined.loadThrough (descriptor : ClassDescriptor) (loader : GlobalReference) :
    Disciplined mayRaise (descriptor.loadThrough env loader) := by
  refine (Disciplined.findClass _).andThen fun loaderClass ↦ Guards.scope _ ?_
  refine (Disciplined.findMethod _ _ _ _).andThen fun loadClass ↦ ?_
  refine (Disciplined.newString _).andThen fun name ↦ Guards.scope _ ?_
  refine (Disciplined.callObject _ _ _).andThen ?_
  rintro (_ | classObject)
  · exact Disciplined.throw _
  · exact Disciplined.done _

theorem Disciplined.resolveClass (descriptor : ClassDescriptor) :
    Disciplined mayRaise (descriptor.resolve env) := by
  have hloader : Peaceful mayRaise currentClassLoader := by
    refine Peaceful.current.bind fun running ↦ (Peaceful.update _).bind fun _ ↦ ?_
    exact Peaceful.state.bind fun bridge ↦ Peaceful.done _
  refine Disciplined.bindPeaceful hloader ?_
  rintro (_ | loader)
  · exact Disciplined.findClass _
  · exact Disciplined.loadThrough descriptor loader

theorem Disciplined.classOf (descriptor : ClassDescriptor) :
    Disciplined mayRaise (descriptor.find env) := by
  refine Disciplined.bindPeaceful Peaceful.state fun bridge ↦ ?_
  split
  · exact Disciplined.newLocal _
  · refine (Disciplined.resolveClass descriptor).andThen fun classObject ↦ ?_
    refine Guards.andThen ?_ fun reference ↦ ?_
    · refine (Disciplined.newGlobal _).mapFailure fun error ↦ ?_
      exact (Peaceful.dropLocal classObject).bind fun _ ↦ Peaceful.done error
    · have hkeep : Peaceful mayRaise (descriptor.keep reference) :=
        Peaceful.state.bind fun bridge ↦ (Peaceful.update _).bind fun _ ↦ Peaceful.done _
      refine Disciplined.bindPeaceful hkeep ?_
      rintro (_ | previous)
      · exact Disciplined.done classObject
      · refine Disciplined.bindPeaceful (Peaceful.dropGlobal previous) fun _ ↦ ?_
        exact Disciplined.done classObject

theorem Disciplined.isInstance (type : ProxyType) (object : Option Handle) :
    Disciplined mayRaise (type.isInstance env object) := by
  unfold ProxyType.isInstance
  split
  · exact Disciplined.done _
  · refine (Disciplined.classOf _).andThen fun classObject ↦ Guards.scope _ ?_
    exact Disciplined.isInstanceOf _ _

theorem Disciplined.cast (type : ProxyType) (object : Option Handle) :
    Disciplined mayRaise (type.cast env object) := by
  refine (Disciplined.isInstance type object).andThen fun isInstance ↦ ?_
  split
  · exact (Disciplined.newGlobal object).andThen fun reference ↦ Disciplined.done _
  · exact Disciplined.throw _

/-! ## Implementing interfaces -/

theorem Disciplined.bindForwarding : Disciplined mayRaise (bindForwarding env) := by
  refine Disciplined.bindPeaceful Peaceful.state fun bridge ↦ ?_
  split
  · exact Disciplined.done ()
  · refine (Disciplined.findClass _).andThen fun classObject ↦ Guards.scope _ ?_
    refine (Disciplined.ofExcept _).andThen fun method ↦ ?_
    refine (Disciplined.registerNatives _ _).withReason _ |>.andThen fun _ ↦ ?_
    exact Disciplined.lift (Peaceful.update _)

theorem Disciplined.newBuilder (interface : String) :
    Disciplined mayRaise (Builder.new env interface) := by
  refine Disciplined.bindForwarding.andThen fun _ ↦ ?_
  refine (Disciplined.findClass _).andThen fun classObject ↦ Guards.scope _ ?_
  refine (Disciplined.findMethod _ _ _ _).andThen fun registerMethod ↦ ?_
  refine (Disciplined.findMethod _ _ _ _).andThen fun createMethod ↦ ?_
  refine (Disciplined.findMethod _ _ _ _).andThen fun constructor ↦ ?_
  refine (Disciplined.newString _).andThen fun name ↦ Guards.scope _ ?_
  refine ((Disciplined.newObject _ _ _).withReason _).andThen fun object ↦ Guards.scope _ ?_
  refine (Disciplined.newGlobal _).andThen fun invocation ↦ ?_
  have htable : Peaceful mayRaise (newTable env.lifecycle) :=
    Peaceful.state.bind fun bridge ↦ (Peaceful.update _).bind fun _ ↦ Peaceful.done _
  exact Disciplined.bindPeaceful htable fun table ↦ Disciplined.done _

theorem Disciplined.registerCallback (builder : Builder) (name : String)
    (callback : Host.Callback) : Disciplined mayRaise (builder.register env name callback) := by
  have hsize : Peaceful mayRaise builder.size := Peaceful.state.bind fun bridge ↦ Peaceful.done _
  refine Disciplined.bindPeaceful hsize fun index ↦ ?_
  refine (Disciplined.newString _).andThen fun javaName ↦ Guards.scope _ ?_
  refine ((Disciplined.callVoid _ _ _).withReason _).andThen fun _ ↦ ?_
  exact Disciplined.lift (Peaceful.update _)

theorem Disciplined.instantiate (builder : Builder) :
    Disciplined mayRaise (builder.instantiate env) := by
  refine ((Disciplined.callObject _ _ _).withReason _).andThen ?_
  rintro (_ | object)
  · exact Disciplined.throw _
  · exact Disciplined.done object

theorem Disciplined.build (builder : Builder) (type : ProxyType) :
    Disciplined mayRaise (builder.build env type) := by
  refine (Disciplined.instantiate builder).andThen fun object ↦ Guards.scope _ ?_
  refine (Disciplined.isInstance _ _).andThen fun isInstance ↦ ?_
  split
  · exact (Disciplined.newGlobal _).andThen fun reference ↦ Disciplined.done _
  · exact Disciplined.throw _

theorem Disciplined.registerShutdownHook :
    Disciplined mayRaise (registerShutdownHook env) := by
  refine (Disciplined.findClass _).andThen fun classObject ↦ Guards.scope _ ?_
  refine (Disciplined.ofExcept _).andThen fun method ↦ ?_
  refine ((Disciplined.registerNatives _ _).withReason _).andThen fun _ ↦ ?_
  refine (Disciplined.findMethod _ _ _ _).andThen fun register ↦ ?_
  refine ((Disciplined.callStaticVoid _ _ _).withReason _).andThen fun _ ↦ ?_
  exact Disciplined.lift (Peaceful.update _)

/-! ## All operations -/

/-- The operations that take up a pending exception may be started with one. -/
theorem Operation.catches {operation : Operation} (hcatch : operation.IsCatch) :
    Catches mayRaise (operation.program env) := by
  cases operation with
  | catchWith registry => exact Catches.catchWith registry
  | withCause text => exact Catches.throwWithCause text
  | _ => exact hcatch.elim

theorem Operation.disciplined {operation : Operation} (hchecked : operation.IsChecked) :
    Disciplined mayRaise (operation.program env) := by
  cases operation with
  | findClass => exact Disciplined.findClass _
  | findMethod => exact Disciplined.findMethod _ _ _ _
  | registerNatives => exact Disciplined.registerNatives _ _
  | callObject => exact Disciplined.callObject _ _ _
  | callVoid => exact Disciplined.callVoid _ _ _
  | callPrimitive => exact Disciplined.callPrimitive _ _ _ _
  | callStaticObject => exact Disciplined.callStaticObject _ _ _
  | callStaticVoid => exact Disciplined.callStaticVoid _ _ _
  | newObject => exact Disciplined.newObject _ _ _
  | newString => exact Disciplined.newString _
  | getString => exact Disciplined.getString _
  | arrayElement => exact Disciplined.arrayElement _ _
  | describe => exact Disciplined.describe _
  | className => exact Disciplined.className _
  | raiseNew => exact hchecked.elim
  | toObject => exact Disciplined.toObject _
  | unbox => exact Disciplined.unbox _ _
  | classOf => exact Disciplined.classOf _
  | isInstance => exact Disciplined.isInstance _ _
  | cast => exact Disciplined.cast _ _
  | isAssignable => exact hchecked.elim
  | newBuilder => exact Disciplined.newBuilder _
  | registerCallback => exact Disciplined.registerCallback _ _ _
  | instantiate => exact Disciplined.instantiate _
  | build => exact Disciplined.build _ _
  | registerShutdownHook => exact Disciplined.registerShutdownHook
  | catchWith registry => exact (Catches.catchWith registry).clear
  | withCause text => exact (Catches.throwWithCause text).clear

/-- Whatever the machine does in the calls of an operation, the operation leaves no exception
pending, fails if a call raised one, and makes only safe calls while one is pending. -/
theorem Operation.keeps_discipline {operation : Operation} {thread : NativeThread}
    {first last : Moment Bool} {exchanges : List (Exchange Bool)}
    {result : Except Error operation.Result} (hchecked : operation.IsChecked)
    (hstart : first.outside = true → operation.IsCatch)
    (hrun : (operation.program env).run.Run thread first exchanges result last)
    (hlaw : ∀ exchange ∈ exchanges, exchange.KeepsPending mayRaise) :
    last.outside = false ∧ (first.outside = true ∨ Raises exchanges → Failed result) ∧
      ∀ exchange ∈ exchanges, exchange.before.outside = true →
        exchange.request.isSafeWhilePending = true := by
  have hguards : Settled exchanges last ∧
      (first.outside = true ∨ Raises exchanges → Failed result) := by
    cases hfirst : first.outside with
    | false =>
      have hoperation : Disciplined mayRaise (operation.program env) :=
        Operation.disciplined hchecked
      simpa [hfirst] using hoperation thread first hfirst exchanges result last hrun hlaw
    | true =>
      have hoperation : Catches mayRaise (operation.program env) :=
        Operation.catches (hstart hfirst)
      simpa [hfirst] using hoperation thread first trivial exchanges result last hrun hlaw
  exact ⟨hguards.1.clear, hguards.2, hguards.1.safe⟩

/-! ## Runs in which a function raises an exception -/

namespace Sample

/-- A machine that keeps account of a pending exception, and raises one in the functions that are
wanted to.  Otherwise it answers as it is told. -/
def raising (culprit : EnvFunction → Bool) (answer : (request : Call) → request.Reply) :
    Program.Machine Bool
  | .env _ .exceptionCheck, moment => (moment.outside, moment)
  | .env _ .exceptionOccurred, moment => (if moment.outside then some ⟨vm, 1⟩ else none, moment)
  | .env _ .exceptionClear, moment => ((), { moment with outside := false })
  | .env _ .exceptionDescribe, moment => ((), { moment with outside := false })
  | .env pointer function, moment =>
    (answer (.env pointer function), { moment with outside := moment.outside || culprit function })
  | request, moment => (answer request, moment)

/-- Such a machine keeps the law if the functions in question may raise and answer accordingly. -/
theorem keepsPending_raising {culprit may : EnvFunction → Bool}
    {answer : (request : Call) → request.Reply} (thread : NativeThread)
    (hculprit : ∀ function pointer, culprit function = true → function.isSafeWhilePending = false ∧
      may function = true ∧ function.Fails (answer (.env pointer function)))
    (request : Call) (before : Moment Bool) :
    Exchange.KeepsPending may ⟨thread, request, (raising culprit answer request before).1, before,
      (raising culprit answer request before).2⟩ := by
  obtain ⟨bridge, pending⟩ := before
  cases request with
  | env pointer function =>
    have hraised := hculprit function pointer
    cases hcause : culprit function with
    | false =>
      have hstays : (pending || culprit function) = pending := by simp [hcause]
      cases function with
      | exceptionCheck => exact ⟨rfl, rfl⟩
      | exceptionOccurred =>
        refine ⟨?_, rfl⟩
        cases pending with
        | false => rfl
        | true => rfl
      | exceptionClear => exact rfl
      | exceptionDescribe => exact fun hafter ↦ absurd hafter Bool.false_ne_true
      | deleteLocalRef | deleteGlobalRef | releaseStringChars => exact hstays
      | _ => exact fun hafter ↦ .inl (hstays.symm.trans hafter)
    | true =>
      obtain ⟨hsafe, hmay, hfails⟩ := hraised hcause
      cases function with
      | exceptionOccurred | exceptionCheck | exceptionClear | exceptionDescribe | deleteLocalRef
      | deleteGlobalRef | releaseStringChars => cases hsafe
      | _ => exact fun _ ↦ .inr ⟨hmay, hfails⟩
  | _ => exact id

end Sample

omit [Host] in
/-- Making a string fails if the machine raises an exception in it, with nothing left pending. -/
theorem Operation.newString_raising :
    let _ := Sample.host
    ∃ (exchanges : List (Exchange Bool)) (result : Except Error LocalReference)
      (last : Moment Bool),
      ((Operation.newString "text").program Sample.env).run.Run Sample.thread
        ⟨Sample.bridge, false⟩ exchanges result last ∧
      Raises exchanges ∧ last.outside = false ∧ Failed result := by
  intro _
  let first : Moment Bool := ⟨Sample.bridge, false⟩
  let machine := Sample.raising (fun function ↦ function matches .newString _) Sample.nothing
  let program := (Operation.newString "text").program Sample.env
  have hrun := @Program.run_play _ _ _ Sample.thread first machine program.run
  have hculprit : ∀ (function : EnvFunction) (pointer : EnvPointer),
      (function matches .newString _) = true → function.isSafeWhilePending = false ∧
        mayRaise function = true ∧ function.Fails (Sample.nothing (.env pointer function)) := by
    intro function pointer hculprit
    cases function with
    | newString => exact ⟨rfl, rfl, trivial⟩
    | _ => cases hculprit
  have hlaw := @Program.lawful_play _ _ _ Sample.thread first machine _ program.run
    (Sample.keepsPending_raising Sample.thread hculprit)
  have hdiscipline := Operation.keeps_discipline (by trivial) (by simp [first]) hrun hlaw
  have hraised : Raises (program.run.play machine Sample.thread first).1 :=
    ⟨_, List.mem_cons_self, rfl, rfl⟩
  exact ⟨_, _, _, hrun, hraised, hdiscipline.1, hdiscipline.2.1 (.inr hraised)⟩

/-! ## Exceptions that nobody looks for -/

/-- Some functions may raise an exception whatever they answer. -/
def Exchange.KeepsOrRaises (culprit : EnvFunction → Bool) (exchange : Exchange Bool) : Prop :=
  exchange.KeepsPending mayRaise ∨ ∃ pointer function,
    exchange.request = .env pointer function ∧ culprit function = true ∧
      exchange.after.outside = true

namespace Operation

variable (env : Env) (operation : Operation) (culprit : EnvFunction → Bool) (thread : NativeThread)
  (first : Moment Bool)

/-- The operation may succeed although a call has raised an exception, which stays pending. -/
def Overlooks : Prop :=
  ∃ exchanges value last, (operation.program env).run.Run thread first exchanges (.ok value) last ∧
    (∀ exchange ∈ exchanges, exchange.KeepsOrRaises culprit) ∧ Raises exchanges ∧
    last.outside = true

/-- The operation may go on after an exception with a call that is not allowed then. -/
def GoesAstray : Prop :=
  ∃ exchanges result last, (operation.program env).run.Run thread first exchanges result last ∧
    (∀ exchange ∈ exchanges, exchange.KeepsOrRaises culprit) ∧
    ∃ exchange ∈ exchanges, exchange.before.outside = true ∧
      exchange.request.isSafeWhilePending = false

end Operation

namespace Sample

section

variable {culprit : EnvFunction → Bool} {answer : (request : Call) → request.Reply}
  {operation : Operation} {thread : NativeThread} {first : Moment Bool} {env : Env}
  (hculprit : ∀ function, culprit function = true → function.isSafeWhilePending = false)

include hculprit in
theorem keepsOrRaises_raising (request : Call) (before : Moment Bool) :
    Exchange.KeepsOrRaises culprit ⟨thread, request, (raising culprit answer request before).1,
      before, (raising culprit answer request before).2⟩ := by
  by_cases hcause : ∃ pointer function, request = .env pointer function ∧ culprit function = true
  · obtain ⟨pointer, function, rfl, hcause⟩ := hcause
    refine .inr ⟨pointer, function, rfl, hcause, ?_⟩
    have hsafe := hculprit function hcause
    cases function with
    | exceptionCheck | exceptionOccurred | exceptionClear | exceptionDescribe => cases hsafe
    | _ => exact Bool.or_eq_true_iff.2 (.inr hcause)
  · -- The machine does what one does that raises no exception.
    have hnever : raising culprit answer request before =
        raising (fun _ ↦ false) answer request before := by
      cases request with
      | env pointer function =>
        have hinnocent : culprit function = false :=
          Bool.eq_false_iff.2 fun htrue ↦ hcause ⟨pointer, function, rfl, htrue⟩
        cases function <;> simp [raising, hinnocent]
      | _ => rfl
    rw [hnever]
    exact .inl (keepsPending_raising thread (fun _ _ hfalse ↦ absurd hfalse Bool.false_ne_true)
      request before)

include hculprit in
theorem overlooks {value : operation.Result}
    (hresult : ((operation.program env).run.play (raising culprit answer) thread first).2.1 =
      .ok value)
    (hraised : ((operation.program env).run.play (raising culprit answer) thread first).1.any
      (fun exchange ↦ !exchange.before.outside && exchange.after.outside) = true)
    (hlast : ((operation.program env).run.play (raising culprit answer) thread
      first).2.2.outside = true) :
    operation.Overlooks env culprit thread first := by
  have hrun := @Program.run_play _ _ _ thread first (raising culprit answer)
    (operation.program env).run
  rw [hresult] at hrun
  obtain ⟨exchange, hmem, hboth⟩ := List.any_eq_true.1 hraised
  obtain ⟨hbefore, hafter⟩ := Bool.and_eq_true_iff.1 hboth
  exact ⟨_, value, _, hrun, Program.lawful_play _ (keepsOrRaises_raising hculprit),
    ⟨exchange, hmem, by simpa using hbefore, hafter⟩, hlast⟩

include hculprit in
theorem goesAstray
    (hrash : ((operation.program env).run.play (raising culprit answer) thread first).1.any
      (fun exchange ↦ exchange.before.outside && !exchange.request.isSafeWhilePending) = true) :
    operation.GoesAstray env culprit thread first := by
  obtain ⟨exchange, hmem, hboth⟩ := List.any_eq_true.1 hrash
  obtain ⟨hbefore, hunsafe⟩ := Bool.and_eq_true_iff.1 hboth
  exact ⟨_, _, _, Program.run_play _ _, Program.lawful_play _ (keepsOrRaises_raising hculprit),
    exchange, hmem, hbefore, by simpa using hunsafe⟩

end

/-- A situation in which the class of a proxy type was looked up before. -/
def looked : Bridge :=
  { bridge with
    classes := ⟨[(ProxyType.object.descriptor.key, ⟨some ⟨vm, 2⟩, .shared, 1⟩)]⟩ }

/-- The answers of a machine for which every object is an instance of every class. -/
def instances : (request : Call) → request.Reply
  | .env _ (.newLocalRef _) => some ⟨vm, 4⟩
  | .env _ (.isInstanceOf ..) => true
  | request => nothing request

def testsInstance : EnvFunction → Bool
  | .isInstanceOf .. => true
  | _ => false

def seeksMethod : EnvFunction → Bool
  | .getMethodId .. => true
  | _ => false

def readsString : EnvFunction → Bool
  | .getStringChars _ => true
  | _ => false

def asksClass : EnvFunction → Bool
  | .getObjectClass _ => true
  | _ => false

def seeksClass : EnvFunction → Bool
  | .findClass _ => true
  | _ => false

omit [Host] in
theorem unsafe_of_culprit {culprit : EnvFunction → Bool}
    (hmem : culprit ∈
      [testsInstance, seeksMethod, readsString, asksSuperclass, asksClass, seeksClass])
    (function : EnvFunction) (hculprit : culprit function = true) :
    function.isSafeWhilePending = false := by
  simp only [List.mem_cons, List.not_mem_nil, or_false] at hmem
  rcases hmem with rfl | rfl | rfl | rfl | rfl | rfl
  all_goals cases function <;> first | rfl | cases hculprit

end Sample

omit [Host] in
/-- If one more of these functions may raise an exception whatever it answers, the exception may be
overlooked.  It stays pending after the test of an instance, and after a search for a method or the
reading of a string that succeeds nevertheless.  It is pending while an inspection goes on that has
asked for the class of an object or for a superclass, or has found the class that it needs. -/
theorem Operation.raises_unnoticed :
    let _ := Sample.host
    let object : Option Handle := some ⟨Sample.vm, 3⟩
    (Operation.isInstance .object object).Overlooks Sample.env Sample.testsInstance Sample.thread
      ⟨Sample.looked, false⟩ ∧
    (Operation.findMethod object "m" "()V" false).Overlooks Sample.env Sample.seeksMethod
      Sample.thread ⟨Sample.bridge, false⟩ ∧
    (Operation.getString object).Overlooks Sample.env Sample.readsString Sample.thread
      ⟨Sample.bridge, false⟩ ∧
    ∀ culprit ∈ [Sample.asksSuperclass, Sample.asksClass, Sample.seeksClass],
      (Operation.catchWith Sample.linked).GoesAstray Sample.env culprit Sample.thread
        ⟨Sample.bridge, true⟩ := by
  intro _ object
  refine ⟨?_, ?_, ?_, ?_⟩
  · exact @Sample.overlooks _ _ Sample.instances _ _ _ _
      (Sample.unsafe_of_culprit (by simp)) true rfl rfl rfl
  · exact @Sample.overlooks _ _ Sample.something _ _ _ _
      (Sample.unsafe_of_culprit (by simp)) ⟨Sample.vm, 1⟩ rfl rfl rfl
  · exact @Sample.overlooks _ _ Sample.something _ _ _ _
      (Sample.unsafe_of_culprit (by simp)) "T" rfl rfl rfl
  · intro culprit hmem
    refine @Sample.goesAstray _ _ Sample.something _ _ _ _
      (Sample.unsafe_of_culprit (List.mem_cons_of_mem _ (List.mem_cons_of_mem _
        (List.mem_cons_of_mem _ hmem)))) ?_
    simp only [List.mem_cons, List.not_mem_nil, or_false] at hmem
    rcases hmem with rfl | rfl | rfl
    · decide +kernel
    · decide +kernel
    · decide +kernel

end JavaInterop
