import JavaInterop.Proofs.Callback.Routing
import JavaInterop.Proofs.Class.Recognition
import JavaInterop.Proofs.Exception.Inspection
import JavaInterop.Proofs.Reference.Release
import JavaInterop.Proofs.Text.RoundTrip

/-!
# Turning results into objects

When a callback has ended its result has to become an object, and a failure has to become an
exception.  Both need a little of the class library of the machine: the class that failures are
thrown as, the wrapper classes of scalars and their methods `valueOf`.

The machine is only relied on where it is asked about these while nothing is pending.  It may raise
an exception whenever it is asked for a wrapper, and it may refuse a new reference.  An exception
that is pending stays so until it is cleared, whatever else the machine is asked for.
-/

namespace JavaInterop

open Program (Ensures)
open Hierarchy (Heap)
open Text.ModifiedUtf8 (encode)

/-- How `java.lang` names the class for a kind of scalars, and its methods. -/
structure BoxNames where
  keyword : String
  /-- The class, as Java programs write it. -/
  dotted : String
  /-- The class, as a machine looks it up. -/
  internal : String
  /-- The signature of the static method `valueOf`, which puts a scalar into a box. -/
  valueOf : String
  /-- The method that takes the scalar out again. -/
  taking : String
  takingSignature : String

/-- The classes of `java.lang` that hold scalars. -/
def javaLang : Primitive → BoxNames
  | .boolean => ⟨"boolean", "java.lang.Boolean", "java/lang/Boolean", "(Z)Ljava/lang/Boolean;",
    "booleanValue", "()Z"⟩
  | .byte => ⟨"byte", "java.lang.Byte", "java/lang/Byte", "(B)Ljava/lang/Byte;",
    "byteValue", "()B"⟩
  | .char => ⟨"char", "java.lang.Character", "java/lang/Character", "(C)Ljava/lang/Character;",
    "charValue", "()C"⟩
  | .short => ⟨"short", "java.lang.Short", "java/lang/Short", "(S)Ljava/lang/Short;",
    "shortValue", "()S"⟩
  | .int => ⟨"int", "java.lang.Integer", "java/lang/Integer", "(I)Ljava/lang/Integer;",
    "intValue", "()I"⟩
  | .long => ⟨"long", "java.lang.Long", "java/lang/Long", "(J)Ljava/lang/Long;",
    "longValue", "()J"⟩
  | .float => ⟨"float", "java.lang.Float", "java/lang/Float", "(F)Ljava/lang/Float;",
    "floatValue", "()F"⟩
  | .double => ⟨"double", "java.lang.Double", "java/lang/Double", "(D)Ljava/lang/Double;",
    "doubleValue", "()D"⟩

/-- The part of a class library that the way back into Java needs. -/
structure Platform extends Hierarchy where
  /-- The class that failures are thrown as. -/
  runtime : Class
  /-- The class whose objects hold the scalars of a kind. -/
  wrapper : Primitive → Class
  /-- The static method of the wrapper class that makes them. -/
  valueOf : Primitive → MethodId
  /-- The scalar that an object holds. -/
  boxed : Object → Option Scalar
  name_runtime : name runtime = "java.lang.RuntimeException"
  name_wrapper : ∀ kind, name (wrapper kind) = (javaLang kind).dotted
  class_boxed : ∀ object scalar, boxed object = some scalar → classOf object = wrapper scalar.kind

/-- A call that was made without a pending exception and left one behind. -/
def Hierarchy.Heap.Raises {hierarchy : Hierarchy} (before after : hierarchy.Heap) : Prop :=
  before.pending = none ∧ ∃ object, after.pending = some object

/-- The function raises an exception and gives nothing, or it gives a new reference. -/
def Hierarchy.Heap.Yields {hierarchy : Hierarchy} (before after : hierarchy.Heap)
    (reply : Option Handle) (denoted : hierarchy.Denoted) : Prop :=
  reply = none ∧ before.Raises after ∨ before.Offers after reply (some denoted)

namespace Platform

variable {platform : Platform}

/-- What the machine answers while no exception is pending. -/
def Tells (before after : platform.toHierarchy.Heap) :
    (function : EnvFunction) → function.Reply → Prop
  | .findClass name, reply =>
    (name = encode "java/lang/RuntimeException" →
      before.Offers after reply (some (.classObject platform.runtime))) ∧
    ∀ kind : Primitive, name = encode (javaLang kind).internal →
      before.Yields after reply (.classObject (platform.wrapper kind))
  | .throwNew classObject content, reply => ∀ handle text, classObject = some handle →
    before.live.find? handle = some (.classObject platform.runtime) → content = encode text →
    reply = .ok () ∧ after.live = before.live ∧ ∃ object, after.pending = some object ∧
      platform.classOf object = platform.runtime ∧ platform.message object = some text
  | .throw throwable, reply => ∀ object, before.live.find? throwable = some (.object object) →
    reply = .ok () ∧ after = { before with pending := some object }
  | .getMethodId classObject name signature isStatic, reply => ∀ kind : Primitive,
    before.live.find? classObject = some (.classObject (platform.wrapper kind)) →
    name = encode "valueOf" → signature = encode (javaLang kind).valueOf → isStatic = true →
    reply = none ∧ before.Raises after ∨ reply = some (platform.valueOf kind) ∧ after = before
  | .callStaticObject classObject method arguments, reply => ∀ scalar : Scalar,
    before.live.find? classObject = some (.classObject (platform.wrapper scalar.kind)) →
    method = platform.valueOf scalar.kind → arguments = [.scalar scalar] →
    ∃ object, platform.boxed object = some scalar ∧ before.Yields after reply (.object object)
  | _, _ => True

/-- The functions that put an exception in the place of the one that is pending. -/
def Replaces : EnvFunction → Prop
  | .throw _ | .throwNew .. => True
  | _ => False

/-- What may be relied on in a call, on a thread that a native method of the machine `caller` runs
on.  Such a thread stays attached, and calls of other machines do not concern it. -/
def Law (caller : VmId) (before after : platform.toHierarchy.Heap) :
    (request : Call) → request.Reply → Prop
  | .env _ .exceptionOccurred, reply => before.Offers after reply (before.pending.map .object)
  | .env _ .exceptionClear, _ => after = { before with pending := none }
  | .env _ .exceptionCheck, reply => reply = before.pending.isSome ∧ after = before
  | .env _ .exceptionDescribe, _ => True
  | .env _ (.deleteLocalRef reference), _ | .env _ (.deleteGlobalRef reference), _ =>
    Heap.Forgets reference before after
  | .env _ (.newLocalRef object), reply =>
    (∀ denoted, before.live.find? object = some denoted →
      reply = none ∨ before.Offers after reply (some denoted)) ∧
    (reply ≠ none → after.pending = before.pending)
  | .env _ function, reply =>
    (before.pending = none → Tells before after function reply) ∧
    ∀ object, before.pending = some object → ¬ Replaces function → after.pending = some object
  | .getEnv vm _, reply => after = before ∧ (vm = caller → reply.isOk)
  | .attach vm _, _ | .detach vm, _ => vm ≠ caller → after = before
  | _, _ => True

/-! The bridge asks for the classes and methods by the names that they have. -/

theorem ofText_wrapperClass (kind : Primitive) :
    Text.CString.ofText kind.wrapperClass = .ok (encode (javaLang kind).internal) := by
  cases kind <;> decide +kernel

theorem ofText_valueOf : Text.CString.ofText "valueOf" = .ok (encode "valueOf") := by
  decide +kernel

theorem ofText_valueOfSignature (kind : Primitive) :
    Text.CString.ofText kind.valueOfSignature = .ok (encode (javaLang kind).valueOf) := by
  cases kind <;> decide +kernel

end Platform

variable [Host] {platform : Platform}

/-- An exchange on a thread that a native method of the machine `caller` runs on. -/
def Exchange.Complies (caller : VmId) (exchange : Exchange platform.toHierarchy.Heap) : Prop :=
  Platform.Law caller exchange.before.outside exchange.after.outside exchange.request
    exchange.reply

/-- The machine raised an exception in a call that was not made for that. -/
def Exchange.Raises (exchange : Exchange platform.toHierarchy.Heap) : Prop :=
  exchange.before.outside.Raises exchange.after.outside ∧
    ∀ pointer function, exchange.request = .env pointer function → ¬ Platform.Replaces function

/-- Throwing a failure goes through these calls: what is pending is cleared, the class for failures
is found, an object of it is thrown, and the reference to the class is given back. -/
theorem ensures_throwing {ω : Type} {law : Exchange ω → Prop} {first : Moment ω}
    {thread : NativeThread} {pointer : EnvPointer} {text : String} (calm done : ω → Prop)
    (hcheck : ∀ checked, law ⟨thread, .env pointer .exceptionCheck, false, first, checked⟩ →
      calm checked.outside)
    (hclear : ∀ checked cleared,
      law ⟨thread, .env pointer .exceptionCheck, true, first, checked⟩ →
      law ⟨thread, .env pointer .exceptionClear, (), checked, cleared⟩ → calm cleared.outside)
    (hlost : ∀ before found, calm before.outside → law ⟨thread,
      .env pointer (.findClass (encode "java/lang/RuntimeException")), none, before, found⟩ →
      done found.outside)
    (hthrow : ∀ before found thrown last (classObject : Handle) status, calm before.outside →
      law ⟨thread, .env pointer (.findClass (encode "java/lang/RuntimeException")),
        some classObject, before, found⟩ →
      law ⟨thread, .env pointer (.throwNew classObject (encode text)), status, found, thrown⟩ →
      law ⟨thread, .env pointer (.deleteLocalRef classObject), (), thrown, last⟩ →
      done last.outside) :
    Ensures law thread (throwRuntimeException pointer text) first fun _ _ last ↦
      done last.outside := by
  have hfound : ∀ (before found : Moment ω) (classObject : Handle), calm before.outside →
      law ⟨thread, .env pointer (.findClass (encode "java/lang/RuntimeException")),
        some classObject, before, found⟩ →
      Ensures law thread (do
        let _ ← Program.perform (.env pointer (.throwNew classObject (encode text)))
        Program.perform (.env pointer (.deleteLocalRef classObject))) found
        fun _ _ last ↦ done last.outside := by
    intro before found classObject hcalm hlaw
    rw [Program.ensures_bind, Program.ensures_perform]
    intro status thrown hlaw'
    rw [Program.ensures_perform]
    intro _ last hlaw''
    exact hthrow before found thrown last classObject status hcalm hlaw hlaw' hlaw''
  unfold throwRuntimeException
  rw [Program.ensures_bind, Program.ensures_perform]
  rintro (_ | _) checked hlaw
  · simp only [Bool.false_eq_true, ↓reduceIte]
    rw [Program.ensures_bind, Program.ensures_perform]
    rintro (_ | classObject) found hlaw'
    · exact Program.ensures_complain.2 (hlost checked found (hcheck checked hlaw) hlaw')
    · exact hfound checked found classObject (hcheck checked hlaw) hlaw'
  · simp only [↓reduceIte]
    rw [Program.ensures_bind, Program.ensures_perform]
    intro _ cleared hlaw'
    have hcalm : calm cleared.outside := hclear checked cleared hlaw hlaw'
    rw [Program.ensures_bind, Program.ensures_perform]
    rintro (_ | classObject) found hlaw''
    · exact Program.ensures_complain.2 (hlost cleared found hcalm hlaw'')
    · exact hfound cleared found classObject hcalm hlaw''

namespace Platform

variable {caller : VmId} {env : Env} {thread : NativeThread}
  {first : Moment platform.toHierarchy.Heap}

/-! ## Single calls -/

theorem ensures_deleteLocal (handle : Handle) :
    Ensures (Exchange.Complies caller) thread (env.deleteLocal (some handle)) first fun _ _ last ↦
      Heap.Forgets handle first.outside last.outside := by
  unfold Env.deleteLocal LifecycleId.registered?
  rw [Program.ensures_bind, Program.ensures_look]
  split
  · unfold Env.perform
    rw [Program.ensures_perform]
    exact fun _ after hlaw ↦ hlaw
  · exact Program.ensures_pure.2 ⟨rfl, fun _ _ ↦ rfl⟩

/-- Whether the catch does anything depends on whether an exception is pending. -/
theorem ensures_catchPending :
    Ensures (Exchange.Complies caller) thread env.catchPending.run first fun _ result last ↦
      (first.outside.pending = none ∧ result = .ok () ∧ last.outside = first.outside) ∨
        (∃ object, first.outside.pending = some object) ∧ Failed result := by
  refine ensures_catchPending_cases (fun after hlaw ↦ .inl ?_)
    fun throwable after _ error _ hlaw ↦ .inr ⟨?_, failed_error error⟩
  · have hoffers : first.outside.Offers after.outside none
        (first.outside.pending.map .object) := hlaw
    cases hpending : first.outside.pending with
    | none =>
      rw [hpending] at hoffers
      exact ⟨rfl, rfl, hoffers.2⟩
    | some object =>
      rw [hpending] at hoffers
      obtain ⟨_, ⟨⟩, -⟩ := hoffers
  · have hoffers : first.outside.Offers after.outside (some throwable)
        (first.outside.pending.map .object) := hlaw
    cases hpending : first.outside.pending with
    | none =>
      rw [hpending] at hoffers
      cases hoffers.1
    | some object => exact ⟨object, rfl⟩

/-! ## Scalars -/

/-- The operation failed, and on the way the machine raised an exception or refused a reference. -/
def Thwarted {α : Type} (exchanges : List (Exchange platform.toHierarchy.Heap))
    (result : Except Error α) : Prop :=
  Failed result ∧
    ∃ exchange ∈ exchanges, exchange.Raises ∨ exchange.request.Refused exchange.reply

/-- What else was exchanged does not matter. -/
theorem Thwarted.mono {α β : Type} {exchanges wider : List (Exchange platform.toHierarchy.Heap)}
    {result : Except Error α} {other : Except Error β} (hthwarted : Thwarted exchanges result)
    (hsubset : exchanges ⊆ wider) (hfailed : Failed other) : Thwarted wider other := by
  obtain ⟨-, exchange, hmem, hcause⟩ := hthwarted
  exact ⟨hfailed, exchange, hsubset hmem, hcause⟩

/-- If a call has raised an exception, the catch after it fails.  Otherwise what the call has given
is still there after the catch. -/
theorem ensures_caught {α : Type} (call : Exchange platform.toHierarchy.Heap)
    (value : Handle → α) {reply : Option Handle} {denoted : platform.Denoted} {next : Fallible α}
    (hyields : call.before.outside.Yields call.after.outside reply denoted)
    (hown : ∀ pointer function, call.request = .env pointer function → ¬ Replaces function)
    (hcalm : call.before.outside.pending = none)
    (hnext : ∀ handle, reply = some handle → next = pure (value handle)) :
    Ensures (Exchange.Complies caller) thread (do env.catchPending; next : Fallible α).run
      call.after fun exchanges result last ↦
        (∃ handle, result = .ok (value handle) ∧
          call.before.outside.Gains handle denoted last.outside) ∨
        Thwarted (call :: exchanges) result := by
  rw [Fallible.ensures_bind]
  refine ensures_catchPending.weaken ?_
  rintro begun result middle hcaught
  rcases hyields with ⟨rfl, hraises⟩ | hoffers
  · obtain ⟨-, object, hobject⟩ := id hraises
    rcases hcaught with ⟨hnone, -, -⟩ | ⟨-, error, rfl⟩
    · rw [hnone] at hobject
      cases hobject
    · exact .inr ⟨failed_error error, call, List.mem_cons_self, .inl ⟨hraises, hown⟩⟩
  · obtain ⟨handle, rfl, hgains⟩ := hoffers.gains
    rcases hcaught with ⟨-, rfl, hsame⟩ | ⟨⟨object, hobject⟩, -⟩
    · rw [Fallible.continues_ok, hnext handle rfl]
      exact Fallible.ensures_pure.2 (.inl ⟨handle, rfl, hsame ▸ hgains⟩)
    · rw [hgains.grows.pending, hcalm] at hobject
      cases hobject

theorem ensures_findClass (kind : Primitive) (hcalm : first.outside.pending = none) :
    Ensures (Exchange.Complies caller) thread (env.findClass kind.wrapperClass).run first
      fun exchanges result last ↦ (∃ handle, result = .ok (env.own (some handle)) ∧
        first.outside.Gains handle (.classObject (platform.wrapper kind)) last.outside) ∨
        Thwarted exchanges result := by
  unfold Env.findClass Fallible.ended
  rw [ofText_wrapperClass, pure_bind, Fallible.ensures_liftThen, Env.perform,
    Program.ensures_perform]
  intro reply after hlaw
  have hyields : first.outside.Yields after.outside reply (.classObject (platform.wrapper kind)) :=
    (hlaw.1 hcalm).2 kind rfl
  refine ensures_caught ⟨thread, _, reply, first, after⟩ (fun handle ↦ env.own (some handle))
    hyields ?_ hcalm ?_
  · rintro _ _ ⟨⟩
    exact id
  · rintro handle rfl
    rfl

theorem ensures_findMethod (kind : Primitive) {wrapper : Handle}
    (hcalm : first.outside.pending = none)
    (hwrapper : first.outside.live.find? wrapper = some (.classObject (platform.wrapper kind))) :
    Ensures (Exchange.Complies caller) thread
      (env.findMethod (some wrapper) "valueOf" kind.valueOfSignature true).run first
      fun exchanges result last ↦
        (result = .ok (platform.valueOf kind) ∧ last.outside = first.outside) ∨
        Thwarted exchanges result := by
  unfold Env.findMethod Fallible.ended Fallible.nonNull
  rw [ofText_valueOf, ofText_valueOfSignature, pure_bind, pure_bind, pure_bind,
    Fallible.ensures_liftThen, Env.perform, Program.ensures_perform]
  intro reply after hlaw
  rcases hlaw.1 hcalm kind hwrapper rfl rfl rfl with
    ⟨rfl, hraises⟩ | ⟨rfl, hsame⟩
  · have hfailed : Always (do
        throw (← env.withCause s!"Unable to find the method, valueOf {kind.valueOfSignature}") :
          Fallible MethodId).run Failed :=
      Always.lift fun _ ↦ Always.throw
    refine (hfailed _ _ thread after).weaken ?_
    refine fun _ _ _ hresult ↦ .inr ⟨hresult, _, List.mem_cons_self, .inl ⟨hraises, ?_⟩⟩
    rintro _ _ ⟨⟩
    exact id
  · exact Fallible.ensures_pure.2 (.inl ⟨rfl, hsame⟩)

theorem ensures_callValueOf (scalar : Scalar) {wrapper : Handle}
    (hcalm : first.outside.pending = none)
    (hwrapper : first.outside.live.find? wrapper =
      some (.classObject (platform.wrapper scalar.kind))) :
    Ensures (Exchange.Complies caller) thread
      (env.callStaticObject (some wrapper) (platform.valueOf scalar.kind) [.scalar scalar]).run
      first fun exchanges result last ↦
        (∃ handle object, result = .ok (some (env.own (some handle))) ∧
          platform.boxed object = some scalar ∧
          first.outside.Gains handle (.object object) last.outside) ∨
        Thwarted exchanges result := by
  unfold Env.callStaticObject Fallible.nonNull
  rw [pure_bind, Fallible.ensures_liftThen, Env.perform, Program.ensures_perform]
  intro reply after hlaw
  obtain ⟨object, hboxed, hyields⟩ := hlaw.1 hcalm scalar hwrapper rfl rfl
  refine (ensures_caught ⟨thread, _, reply, first, after⟩
    (fun handle ↦ some (env.own (some handle))) hyields ?_ hcalm ?_).weaken ?_
  · rintro _ _ ⟨⟩
    exact id
  · rintro handle rfl
    rfl
  · rintro exchanges result last (⟨handle, rfl, hgains⟩ | hthwarted)
    · exact .inl ⟨handle, object, rfl, hboxed, hgains⟩
    · exact .inr hthwarted

/-- A scalar is boxed, unless the machine raises an exception on the way. -/
theorem ensures_box (scalar : Scalar) (hcalm : first.outside.pending = none) :
    Ensures (Exchange.Complies caller) thread (scalar.box env).run first
      fun exchanges result last ↦
        (∃ handle object, result = .ok (some (env.own (some handle))) ∧
          platform.boxed object = some scalar ∧
          first.outside.Gains handle (.object object) last.outside) ∨
        Thwarted exchanges result := by
  unfold Scalar.box
  rw [Fallible.ensures_bind]
  refine (ensures_findClass scalar.kind hcalm).weaken ?_
  rintro begun result middle (⟨wrapper, rfl, hwrapper⟩ | hthwarted)
  · have hcalm' := hwrapper.grows.pending.trans hcalm
    rw [Fallible.continues_ok, LocalReference.scope, Fallible.ensures_thenAlways,
      Fallible.ensures_bind]
    refine (ensures_findMethod scalar.kind hcalm' hwrapper.live).weaken ?_
    rintro asked result middle' (⟨rfl, hsame⟩ | hthwarted)
    · rw [Fallible.continues_ok]
      refine (ensures_callValueOf scalar (hsame ▸ hcalm') (hsame ▸ hwrapper.live)).weaken ?_
      rintro called result middle'' hcalled
      refine (ensures_deleteLocal wrapper).weaken ?_
      rintro rest _ last hforgets
      rcases hcalled with ⟨handle, object, rfl, hboxed, hgains⟩ | hthwarted
      · rw [hsame] at hgains
        exact .inl ⟨handle, object, rfl, hboxed, hwrapper.forgets hgains hforgets⟩
      · exact .inr (hthwarted.mono (fun _ hmem ↦ by simp [hmem]) hthwarted.1)
    · obtain ⟨error, rfl⟩ := hthwarted.1
      intro rest _ last _ _
      exact .inr (hthwarted.mono (fun _ hmem ↦ by simp [hmem]) (failed_error error))
  · obtain ⟨error, rfl⟩ := hthwarted.1
    exact .inr (hthwarted.mono (List.Subset.refl _) (failed_error error))

/-! ## References -/

/-- Another reference to an object is made, whether an exception is pending or not.  A released
reference has no object, and the machine may refuse to make a new one. -/
theorem ensures_newLocal (object : Option Handle) :
    Ensures (Exchange.Complies caller) thread (env.newLocal object).run first
      fun exchanges result last ↦
        (∃ handle gained, object = some handle ∧ result = .ok (env.own (some gained)) ∧
          last.outside.pending = first.outside.pending ∧
          ∀ denoted, first.outside.live.find? handle = some denoted →
            first.outside.Gains gained denoted last.outside) ∨
        (object = none ∧ result = .error (.nullPointer "new_local obj")) ∨
        (result = .error .localReferencesExhausted ∧
          ∃ exchange ∈ exchanges, exchange.request.Refused exchange.reply) := by
  unfold Env.newLocal Fallible.nonNull
  cases object with
  | none =>
    rw [Fallible.run_throw_bind, Program.ensures_pure]
    exact .inr (.inl ⟨rfl, rfl⟩)
  | some handle =>
    rw [pure_bind, Fallible.ensures_liftThen, Env.perform, Program.ensures_perform]
    rintro (_ | gained) after hlaw
    · exact Fallible.ensures_throw.2 (.inr (.inr ⟨rfl, _, List.mem_cons_self, rfl⟩))
    · refine Fallible.ensures_pure.2 (.inl ⟨handle, gained, rfl, rfl, ?_, fun denoted hlive ↦ ?_⟩)
      · exact hlaw.2 (Option.some_ne_none gained)
      · rcases hlaw.1 denoted hlive with hnone | hoffers
        · cases hnone
        · obtain ⟨_, hgained, hgains⟩ := Heap.Offers.gains hoffers
          cases hgained
          exact hgains

/-- Calls about another machine do not concern the heap. -/
theorem undisturbed_heap (caller : VmId) (stays : platform.toHierarchy.Heap → Prop) :
    Undisturbed (Exchange.Complies caller) (fun vm ↦ vm ≠ caller) stays where
  find _ vm _ reply before after hlaw hstays := by
    obtain ⟨hsame, hattached⟩ : after.outside = before.outside ∧ (vm = caller → reply.isOk) := hlaw
    refine ⟨hsame ▸ hstays, ?_⟩
    rintro hfailed rfl
    rw [hattached rfl] at hfailed
    cases hfailed
  attach _ _ _ _ before after hlaw hstrange hstays := by
    rw [show after.outside = before.outside from hlaw hstrange]
    exact hstays
  detach _ _ _ before after hlaw hstrange hstays := by
    rw [show after.outside = before.outside from hlaw hstrange]
    exact hstays

end Platform

/-- Apart from the given reference nothing has changed. -/
structure Hierarchy.Heap.Spares {hierarchy : Hierarchy} (held : Option Handle)
    (before after : hierarchy.Heap) : Prop where
  pending : after.pending = before.pending
  live : ∀ other, held ≠ some other → after.live.find? other = before.live.find? other

omit [Host] in
theorem Hierarchy.Heap.Spares.refl {hierarchy : Hierarchy} (held : Option Handle)
    (heap : hierarchy.Heap) : Heap.Spares held heap heap :=
  ⟨rfl, fun _ _ ↦ rfl⟩

namespace Platform

variable {caller : VmId} {env : Env} {thread : NativeThread}
  {first : Moment platform.toHierarchy.Heap}

theorem ensures_drop (reference : GlobalReference) :
    Ensures (Exchange.Complies caller) thread reference.drop first fun _ _ last ↦
      Heap.Spares reference.raw first.outside last.outside := by
  have hspares := undisturbed_heap caller (Heap.Spares reference.raw first.outside)
  refine (hspares.ensures_drop hspares ?_ (.refl _ _)).weaken fun _ _ _ hlast ↦ hlast.elim id id
  intro thread pointer handle before after hraw hlaw hbefore
  have hforgets : Heap.Forgets handle before.outside after.outside := hlaw
  refine ⟨hforgets.pending.trans hbefore.pending, fun other hother ↦ ?_⟩
  have hne : other ≠ handle := fun hsame ↦ hother (hsame ▸ hraw)
  exact (hforgets.live other hne).trans (hbefore.live other hother)

theorem ensures_dropValue (value : Value) :
    Ensures (Exchange.Complies caller) thread value.drop first fun _ _ last ↦
      Heap.Spares (value.held.bind GlobalReference.raw) first.outside last.outside := by
  rcases value with (_ | reference) | scalar | _
  · exact Program.ensures_pure.2 (.refl _ _)
  · exact ensures_drop reference
  · exact Program.ensures_pure.2 (.refl _ _)
  · exact Program.ensures_pure.2 (.refl _ _)

theorem ensures_dropError (error : Error) :
    Ensures (Exchange.Complies caller) thread error.drop first fun _ _ last ↦
      Heap.Spares (error.owned?.bind GlobalReference.raw) first.outside last.outside := by
  unfold Error.drop
  cases error.owned? with
  | none => exact Program.ensures_pure.2 (.refl _ _)
  | some reference => exact ensures_drop reference

/-! ## Values -/

/-- What a value becomes when it is made an object: a new reference to what it refers to, or to a
box that holds it. -/
inductive Becomes (before after : platform.toHierarchy.Heap) : Value → Option Handle → Prop
  | void : Becomes before after .void none
  | null : Becomes before after (.object none) none
  | object {reference : GlobalReference} {handle gained : Handle}
    (hraw : reference.raw = some handle)
    (hgained : ∀ denoted, before.live.find? handle = some denoted →
      before.live.find? gained = none ∧ after.live.find? gained = some denoted) :
    Becomes before after (.object (some reference)) (some gained)
  | scalar {scalar : Scalar} {object : platform.Object} {gained : Handle}
    (hboxed : platform.boxed object = some scalar) (hfresh : before.live.find? gained = none)
    (hlive : after.live.find? gained = some (.object object)) :
    Becomes before after (.scalar scalar) (some gained)

omit [Host] in
/-- Dropping the value does not concern the object that it has become. -/
theorem Becomes.spares {before middle last : platform.toHierarchy.Heap} {value : Value}
    {object : Option Handle} (hbecomes : Becomes before middle value object)
    (hspares : Heap.Spares (value.held.bind GlobalReference.raw) middle last) :
    Becomes before last value object := by
  cases hbecomes with
  | void => exact .void
  | null => exact .null
  | @object reference handle gained hraw hgained =>
    refine .object hraw fun denoted hdenoted ↦ ?_
    obtain ⟨hfresh, hlive⟩ := hgained denoted hdenoted
    refine ⟨hfresh, (hspares.live gained ?_).trans hlive⟩
    change reference.raw ≠ some gained
    rintro hsame
    cases hraw.symm.trans hsame
    rw [hfresh] at hdenoted
    cases hdenoted
  | @scalar _ _ gained hboxed hfresh hlive =>
    exact .scalar hboxed hfresh ((hspares.live gained (fun hnone ↦ nomatch hnone)).trans hlive)

/-- Why a value cannot be made an object: its reference was released before, or the machine raised
an exception or refused a reference. -/
def Unmade (value : Value) (exchanges : List (Exchange platform.toHierarchy.Heap))
    (error : Error) : Prop :=
  (∃ reference, value = .object (some reference) ∧ reference.raw = none ∧
    error = .nullPointer "new_local obj") ∨
  ∃ exchange ∈ exchanges, exchange.Raises ∨ exchange.request.Refused exchange.reply

/-- While no exception is pending a value is made an object, or there is a reason why not. -/
theorem ensures_toObject (value : Value) (hcalm : first.outside.pending = none) :
    Ensures (Exchange.Complies caller) thread (value.toObject env).run first
      fun exchanges result last ↦
        (∃ object, result = .ok object ∧ last.outside.pending = none ∧
          Becomes first.outside last.outside value (object.bind LocalReference.raw)) ∨
        ∃ error, result = .error error ∧ Unmade value exchanges error := by
  rcases value with (_ | reference) | scalar | _
  · exact Fallible.ensures_pure.2 (.inl ⟨none, rfl, hcalm, .null⟩)
  · unfold Value.toObject
    rw [Fallible.ensures_map]
    refine (ensures_newLocal reference.raw).weaken ?_
    rintro exchanges _ last (⟨handle, gained, hraw, rfl, hpending, hgained⟩ | ⟨hraw, rfl⟩ |
      ⟨rfl, exchange, hmem, hrefused⟩)
    · refine .inl ⟨some (env.own (some gained)), rfl, hpending.trans hcalm, .object hraw ?_⟩
      intro denoted hdenoted
      exact ⟨(hgained denoted hdenoted).fresh, (hgained denoted hdenoted).live⟩
    · exact .inr ⟨_, rfl, .inl ⟨reference, rfl, hraw, rfl⟩⟩
    · exact .inr ⟨_, rfl, .inr ⟨exchange, hmem, .inr hrefused⟩⟩
  · refine (ensures_box scalar hcalm).weaken ?_
    rintro exchanges result last (⟨handle, object, rfl, hboxed, hgains⟩ |
      ⟨⟨error, rfl⟩, hcause⟩)
    · refine .inl ⟨_, rfl, hgains.grows.pending.trans hcalm, ?_⟩
      exact .scalar hboxed hgains.fresh hgains.live
    · exact .inr ⟨error, rfl, .inr hcause⟩
  · exact Fallible.ensures_pure.2 (.inl ⟨none, rfl, hcalm, .void⟩)

/-! ## Failures -/

/-- A new exception of the class for failures is pending, and this is its message. -/
def Reports (heap : platform.toHierarchy.Heap) (text : String) : Prop :=
  ∃ object, heap.pending = some object ∧ platform.classOf object = platform.runtime ∧
    platform.message object = some text

/-- Whatever is pending, a failure is thrown in its place. -/
theorem ensures_throwRuntimeException (pointer : EnvPointer) (text : String) :
    Ensures (Exchange.Complies caller) thread (throwRuntimeException pointer text) first
      fun _ _ last ↦ Reports last.outside text := by
  have hgains : ∀ {before after : platform.toHierarchy.Heap} {reply : Option Handle},
      Tells before after (.findClass (encode "java/lang/RuntimeException")) reply →
      ∃ handle, reply = some handle ∧
        before.Gains handle (.classObject platform.runtime) after :=
    fun htells ↦ Heap.Offers.gains (htells.1 rfl)
  refine ensures_throwing (fun heap ↦ heap.pending = none) (Reports · text) ?_ ?_ ?_ ?_
  · intro checked hlaw
    obtain ⟨hreply, hsame⟩ : false = first.outside.pending.isSome ∧
      checked.outside = first.outside := hlaw
    rw [hsame]
    simpa using hreply.symm
  · intro checked cleared _ hlaw
    rw [show cleared.outside = { checked.outside with pending := none } from hlaw]
  · intro before found hcalm hlaw
    obtain ⟨_, hnone, -⟩ := hgains (hlaw.1 hcalm)
    cases hnone
  · intro before found thrown last classObject status hcalm hlaw hlaw' hlaw''
    obtain ⟨_, hsome, hfound⟩ := hgains (hlaw.1 hcalm)
    cases hsome
    have hcalm' := hfound.grows.pending.trans hcalm
    obtain ⟨-, -, object, hobject, hruntime, hmessage⟩ :=
      hlaw'.1 hcalm' classObject text rfl hfound.live rfl
    have hforgets : Heap.Forgets classObject thrown.outside last.outside := hlaw''
    exact ⟨object, hforgets.pending.trans hobject, hruntime, hmessage⟩

end Platform

end JavaInterop
