import JavaInterop.Proofs.Callback.Boundary
import JavaInterop.Proofs.Exception.Matched

/-!
# Exceptions that callbacks raise

A callback may raise an exception and return nevertheless, so that the exception is pending once
control is back in Java.  It stays pending if the callback returns nothing or null, and if its
result is a reference that can be copied.

A scalar has to be boxed.  The first look at the exception that is pending then takes it for one
that was raised by the search for the wrapper class, and the conversion fails with the error that
stands for it.  Java gets a failure with the text of that error in place of the exception.
-/

namespace JavaInterop

open Program (Ensures)
open Hierarchy (Heap Lineage)

section

variable [Host] {platform : Platform} {caller : VmId} {pointer : EnvPointer} {env : Env}
  {thread : NativeThread} {first : Moment platform.toHierarchy.Heap}
  {raised : platform.Object}

/-- An exchange in which the machine tells truly what it knows of its objects, and in which no
factory is enlisted but those of proxy types. -/
structure Exchange.Relays (caller : VmId) (exchange : Exchange platform.toHierarchy.Heap) : Prop
    where
  complies : exchange.Complies caller
  obeys : exchange.Obeys
  proxies : ∀ factory ∈ exchange.after.bridge.registry.factories, ∃ type, factory = .proxy type

namespace Platform

/-- How a call ends whose callback has raised an exception and returned a value. -/
def Escapes (thread : NativeThread) (env : Env) (raised : platform.Object) (value : Value)
    (middle : Moment platform.toHierarchy.Heap)
    (rest : List (Exchange platform.toHierarchy.Heap)) (result : Option Handle)
    (heap : platform.toHierarchy.Heap) : Prop :=
  match value with
  | .void | .object none => result = none ∧ heap.pending = some raised ∧ rest = []
  | .object (some reference) =>
    (heap.pending = some raised ∧
      Becomes middle.outside heap (.object (some reference)) result) ∨
    ∃ error, Unmade (.object (some reference)) rest error ∧
      Throws result heap s!"Exception during native execution: {error.message}"
  | .scalar scalar =>
    ∃ error converting after later,
      (scalar.box env).run.Run thread middle converting (.error error) after ∧
      rest = converting ++ later ∧
      (∀ names, platform.Lineage (platform.classOf raised) names → names.length < maxAncestors →
        ∃ call ∈ converting, error.StandsFor raised env
          (names.findSome? call.after.bridge.registry.lookup) converting after.outside) ∧
      Throws result heap s!"Exception during native execution: {error.message}"

/-- Catching what a callback has raised gives the error that stands for it. -/
theorem ensures_catchRaised (hpending : first.outside.pending = some raised)
    (hproxies : ∀ factory ∈ first.bridge.registry.factories, ∃ type, factory = .proxy type) :
    Ensures (Exchange.Relays caller) thread env.catchPending.run first fun exchanges result last ↦
      ∃ error, result = .error error ∧
        ∀ names, platform.Lineage (platform.classOf raised) names → names.length < maxAncestors →
          error.StandsFor raised env (names.findSome? first.bridge.registry.lookup) exchanges
            last.outside := by
  intro exchanges result last hrun hlaw
  obtain ⟨hnone, -, -⟩ | ⟨-, error, rfl⟩ := ensures_catchPending exchanges result last hrun
    fun exchange hmem ↦ (hlaw exchange hmem).complies
  · rw [hpending] at hnone
    cases hnone
  · refine ⟨error, rfl, fun names hlineage hlength ↦ ?_⟩
    have hcatch : Ensures Exchange.Obeys thread env.catchPending.run first
        fun exchanges result last ↦ ∃ error, result = .error error ∧ last.outside.pending = none ∧
          error.StandsFor raised env (names.findSome? first.bridge.registry.lookup) exchanges
            last.outside := by
      unfold Env.catchPending
      rw [Fallible.ensures_liftThen, Program.ensures_state]
      exact ensures_catchWith_pending hproxies hpending hlineage hlength
    obtain ⟨_, hsame, -, hstands⟩ :=
      hcatch exchanges _ last hrun fun exchange hmem ↦ (hlaw exchange hmem).obeys
    cases hsame
    exact hstands

/-- Boxing a scalar while an exception is pending fails with the error that stands for it. -/
theorem ensures_boxRaised (scalar : Scalar) (hpending : first.outside.pending = some raised) :
    Ensures (Exchange.Relays caller) thread (scalar.box env).run first fun exchanges result last ↦
      ∃ error, result = .error error ∧
        ∀ names, platform.Lineage (platform.classOf raised) names → names.length < maxAncestors →
          ∃ call ∈ exchanges, error.StandsFor raised env
            (names.findSome? call.after.bridge.registry.lookup) exchanges last.outside := by
  unfold Scalar.box Env.findClass Fallible.ended
  rw [ofText_wrapperClass, pure_bind, Fallible.ensures_bind, Fallible.ensures_liftThen, Env.perform,
    Program.ensures_perform]
  intro reply found hlaw
  have hfound : found.outside.pending = some raised := hlaw.complies.2 raised hpending id
  rw [Fallible.ensures_bind]
  refine (ensures_catchRaised hfound hlaw.proxies).weaken ?_
  rintro caught _ last ⟨error, rfl, hstands⟩
  refine ⟨error, rfl, fun names hlineage hlength ↦ ⟨_, List.mem_cons_self, ?_⟩⟩
  exact (hstands names hlineage hlength).mono fun _ hmem ↦ List.mem_cons_of_mem _ hmem

/-- What a callback has raised is given to Java, unless its result cannot be made an object. -/
theorem ensures_concludeRaised (value : Value) (hpending : first.outside.pending = some raised) :
    Ensures (Exchange.Relays caller) thread (conclude pointer env (.returned value)) first
      fun rest result last ↦ Escapes thread env raised value first rest result last.outside := by
  rcases value with (_ | reference) | scalar | _
  · exact Program.ensures_done.2 ⟨rfl, hpending, rfl⟩
  · refine (?_ : Ensures (Exchange.Complies caller) _ _ _ _).strict fun _ hlaw ↦ hlaw.complies
    unfold conclude Value.toObject
    rw [Program.ensures_bind, Fallible.ensures_map]
    refine (ensures_newLocal reference.raw).weaken ?_
    rintro converting result middle hnew
    rw [Program.ensures_bind]
    refine (ensures_drop reference).weaken ?_
    rintro dropped _ after hspares
    rcases hnew with ⟨handle, gained, hraw, rfl, hsame, hgained⟩ | ⟨hraw, rfl⟩ |
      ⟨rfl, exchange, hmem, hrefused⟩
    · have hbecomes : Becomes first.outside middle.outside (.object (some reference))
          (some gained) :=
        .object hraw fun denoted hdenoted ↦
          ⟨(hgained denoted hdenoted).fresh, (hgained denoted hdenoted).live⟩
      exact Program.ensures_pure.2 (.inl ⟨hspares.pending.trans (hsame.trans hpending),
        hbecomes.spares hspares⟩)
    · refine (ensures_answerFailed _).weaken fun answered result last hthrows ↦ ?_
      exact .inr ⟨_, .inl ⟨reference, rfl, hraw, rfl⟩, hthrows⟩
    · refine (ensures_answerFailed _).weaken fun answered result last hthrows ↦ ?_
      exact .inr ⟨_, .inr ⟨exchange, List.mem_append_left _ hmem, .inr hrefused⟩, hthrows⟩
  · unfold conclude
    rw [Program.ensures_bind]
    refine (ensures_boxRaised scalar hpending).traced.weaken ?_
    rintro converting _ after ⟨hrun, error, rfl, hstands⟩
    rw [Program.ensures_bind]
    refine Program.ensures_pure.2 ?_
    refine ((ensures_answerFailed error).strict fun _ hlaw ↦ hlaw.complies).weaken ?_
    intro answered result last hthrows
    exact ⟨error, converting, after, _, hrun, rfl, hstands, hthrows⟩
  · exact Program.ensures_done.2 ⟨rfl, hpending, rfl⟩

end Platform

/-- An exception that a callback leaves behind reaches Java if the callback returns nothing, null or
a reference that can be copied.  If it returns a scalar, a failure is thrown instead that only has
the text of the exception. -/
theorem invokeNative_escapes {run : CallbackRunner} {pointer : EnvPointer} {table : Int64}
    {index : Int32} {receiver array result : Option Handle} {callback : Host.Callback}
    {last : Moment platform.toHierarchy.Heap}
    {exchanges : List (Exchange platform.toHierarchy.Heap)}
    (hroute : first.bridge.route pointer table index = .ok (callback, env))
    (hrun : (invokeNative run pointer table index receiver array).Run thread first exchanges result
      last) :
    ∃ begun outcome middle rest, exchanges = begun ++ rest ∧
      (run callback env receiver ⟨env, array⟩).Run thread first begun outcome middle ∧
      ∀ value raised, outcome = .returned value → middle.outside.pending = some raised →
        (∀ exchange ∈ rest, exchange.Relays pointer.vm) →
        Platform.Escapes thread env raised value middle rest result last.outside := by
  rw [run_invokeNative, hroute] at hrun
  obtain ⟨begun, outcome, middle, rest, hbegun, hrest, rfl⟩ := Program.Run.of_bind hrun
  refine ⟨begun, outcome, middle, rest, rfl, hbegun, ?_⟩
  rintro value raised rfl hpending hlaw
  exact Platform.ensures_concludeRaised value hpending rest result last hrest hlaw

end

/-! ## A callback that throws -/

namespace Sample

/-- Nothing is pending, the object is at hand, and a callback is registered in the first table. -/
def rising : @Moment host platform.toHierarchy.Heap :=
  let _ := host
  ⟨entered.bridge, ⟨none, ⟨[(throwable, .object .thrown)]⟩⟩⟩

theorem route_rising :
    let _ := host
    rising.bridge.route env.pointer 1 0 = .ok ((), env) := rfl

/-- The callback leaves the exception behind. -/
theorem ensures_thrower (value : Value) :
    let _ := host
    ∀ (arguments : CallArguments), Ensures (Exchange.Complies vm) thread
      (thrower value () env none arguments) rising fun _ outcome last ↦
        outcome = .returned value ∧ last.outside.pending = some Thing.thrown := by
  intro _ arguments
  unfold thrower Env.raise Fallible.nonNull
  rw [Program.ensures_bind, pure_bind, Fallible.ensures_liftThen, Env.perform,
    Program.ensures_perform]
  intro reply after hlaw
  obtain ⟨rfl, hafter⟩ := hlaw.1 rfl .thrown rfl
  have hafter : after.outside = { rising.outside with pending := some Thing.thrown } := hafter
  exact Fallible.ensures_pure.2 (Program.ensures_pure.2 ⟨rfl, congrArg Heap.pending hafter⟩)

/-- How the machine answers while nothing is enlisted. -/
structure Relayed [Host] (exchange : Exchange platform.toHierarchy.Heap) : Prop where
  relays : exchange.Relays vm
  registry : exchange.after.bridge.registry = .empty

theorem exists_relayed [Host] (request : Call) (before : Moment platform.toHierarchy.Heap) :
    ∃ reply after, Relayed ⟨thread, request, reply, before, after⟩ := by
  obtain ⟨reply, heap, hanswers⟩ := exists_answers true before.outside request
  refine ⟨reply, ⟨{ before.bridge with registry := .empty }, heap⟩,
    ⟨hanswers.complies, hanswers.obeys rfl, ?_⟩, rfl⟩
  intro factory hmem
  cases hmem

/-- The names of the object's class and of those above it, without the root. -/
def ancestors : List String :=
  ["java/lang/IllegalStateException", "java/lang/RuntimeException", "java/lang/Exception",
    "java/lang/Throwable"].map platform.name

theorem lineage_thrown : platform.Lineage (platform.classOf .thrown) ancestors :=
  .inherits (by decide +kernel) rfl (.inherits (by decide +kernel) rfl
    (.inherits (by decide +kernel) rfl (.inherits (by decide +kernel) rfl
      (.root (by decide +kernel)))))

end Sample

/-- A callback throws and returns nothing, and what it has thrown is pending in the end. -/
theorem invokeNative_escapes_void :
    let _ := Sample.host
    ∃ (exchanges : List (Exchange Sample.platform.toHierarchy.Heap))
      (last : Moment Sample.platform.toHierarchy.Heap),
      (invokeNative (Sample.thrower .void) Sample.env.pointer 1 0 none none).Run Sample.thread
        Sample.rising exchanges none last ∧
      (∀ exchange ∈ exchanges, exchange.Relays Sample.vm) ∧
      last.outside.pending = some Sample.Thing.thrown := by
  intro _
  obtain ⟨exchanges, result, last, hrun, hlaw⟩ := @Program.exists_run _ _ _ Sample.thread
    Sample.rising (invokeNative (Sample.thrower .void) Sample.env.pointer 1 0 none none)
    Sample.Relayed Sample.exists_relayed
  obtain ⟨begun, outcome, middle, rest, rfl, hbegun, hescapes⟩ :=
    invokeNative_escapes Sample.route_rising hrun
  obtain ⟨rfl, hpending⟩ := Sample.ensures_thrower .void _ begun outcome middle hbegun
    fun exchange hmem ↦ (hlaw exchange (List.mem_append_left _ hmem)).relays.complies
  obtain ⟨rfl, hlast, -⟩ := hescapes .void .thrown rfl hpending
    fun exchange hmem ↦ (hlaw exchange (List.mem_append_right _ hmem)).relays
  exact ⟨_, last, hrun, fun exchange hmem ↦ (hlaw exchange hmem).relays, hlast⟩

/-- The same callback returns a number, and what it has thrown is lost.  Java gets a failure that
only has the name of its class. -/
theorem invokeNative_swallows :
    let _ := Sample.host
    ∃ (begun rest : List (Exchange Sample.platform.toHierarchy.Heap))
      (middle last : Moment Sample.platform.toHierarchy.Heap) (object : Sample.Thing),
      (Sample.thrower (.scalar (.int 1)) () Sample.env none ⟨Sample.env, none⟩).Run Sample.thread
        Sample.rising begun (.returned (.scalar (.int 1))) middle ∧
      middle.outside.pending = some Sample.Thing.thrown ∧
      (invokeNative (Sample.thrower (.scalar (.int 1))) Sample.env.pointer 1 0 none none).Run
        Sample.thread Sample.rising (begun ++ rest) none last ∧
      (∀ exchange ∈ begun ++ rest, exchange.Relays Sample.vm) ∧
      last.outside.pending = some object ∧ object ≠ .thrown ∧
      Sample.platform.classOf object = Sample.platform.runtime ∧
      Sample.platform.message object = some ("Exception during native execution: " ++
        "Can't find any linked-in parent exception for `java.lang.IllegalStateException`") := by
  intro _
  obtain ⟨exchanges, result, last, hrun, hlaw⟩ := @Program.exists_run _ _ _ Sample.thread
    Sample.rising
    (invokeNative (Sample.thrower (.scalar (.int 1))) Sample.env.pointer 1 0 none none)
    Sample.Relayed Sample.exists_relayed
  have hsplit := hrun
  rw [run_invokeNative, Sample.route_rising] at hsplit
  obtain ⟨begun, outcome, middle, rest, hbegun, hrest, rfl⟩ := Program.Run.of_bind hsplit
  obtain ⟨rfl, hpending⟩ := Sample.ensures_thrower (.scalar (.int 1)) _ begun outcome middle hbegun
    fun exchange hmem ↦ (hlaw exchange (List.mem_append_left _ hmem)).relays.complies
  obtain ⟨error, converting, after, later, -, rfl, hstands, rfl, object, hobject, hclass,
    hmessage⟩ := Platform.ensures_concludeRaised _ hpending rest result last hrest
    fun exchange hmem ↦ (hlaw exchange (List.mem_append_right _ hmem)).relays
  obtain ⟨call, hmem, herror⟩ := hstands _ Sample.lineage_thrown (by decide)
  have hregistry : call.after.bridge.registry = .empty :=
    (hlaw call (List.mem_append_right _ (List.mem_append_left _ hmem))).registry
  have hnone : Sample.ancestors.findSome? Registry.empty.lookup = none := by decide +kernel
  rw [hregistry, hnone] at herror
  obtain rfl : error =
      .unlinkedException (Sample.platform.name "java/lang/IllegalStateException") := herror
  refine ⟨begun, _, middle, last, object, hbegun, hpending, hrun,
    fun exchange hmem ↦ (hlaw exchange hmem).relays, hobject, ?_, hclass,
    hmessage.trans (congrArg some ?_)⟩
  · rintro rfl
    have hsame : "java/lang/IllegalStateException" = "java/lang/RuntimeException" := hclass
    exact absurd hsame (by decide)
  · decide +kernel

end JavaInterop
