import JavaInterop.Proofs.Callback.History
import JavaInterop.Proofs.Environment.Operation

/-!
# Which callback a call from Java reaches

Java calls native code with the number of a table and an index.  Nothing is known of the two: Java
code may make them up, keep them longer than the builder lives, or have them from another machine.

A call reaches a callback exactly if a builder that has not been dropped has that table, the index
is that of a callback registered with it, and a machine is registered in the lifecycle that the
builder was made in.  The callback is run once, with the receiver and the arguments of the call, and
otherwise none is run: what the call does then does not depend on what callbacks do.
-/

namespace JavaInterop

variable [Host]

/-! ## The program of a call -/

/-- How a call from Java ends once it is known what it comes to. -/
def answerJava (pointer : EnvPointer) : Outcome (Option Handle) → Program (Option Handle)
  | .returned object => pure object
  | .failed error => do
    throwRuntimeException pointer s!"Exception during native execution: {error.message}"
    error.drop
    return none
  | .panicked => do
    throwRuntimeException pointer "Unknown exception during native execution"
    return none

/-- How a call from Java ends once its callback has ended. -/
def conclude (pointer : EnvPointer) (env : Env) : Outcome Value → Program (Option Handle)
  | .failed error => answerJava pointer (.failed error)
  | .panicked => answerJava pointer .panicked
  | .returned value => do
    let object ← (value.toObject env).run
    value.drop
    match object with
    | .ok object => answerJava pointer (.returned (object.bind LocalReference.raw))
    | .error error => answerJava pointer (.failed error)

/-- The callback that a call is meant for and the environment that it gets. -/
def Bridge.route (bridge : Bridge) (pointer : EnvPointer) (table : Int64) (index : Int32) :
    Except Error (Host.Callback × Env) :=
  match bridge.table? table with
  | none =>
    .error (.bridge s!"The native callbacks of proxy table {table.toInt} have been dropped")
  | some callbacks =>
    match callbacks.callback? index with
    | none => .error (.bridge s!"No native callback at index {index.toInt}")
    | some callback =>
      match (bridge.lifecycle callbacks.lifecycle).registration with
      | none => .error .vmShutdown
      | some registration => .ok (callback, Env.of callbacks.lifecycle registration pointer)

omit [Host] in
/-- A number from Java that is not negative. -/
theorem natural_iff {number : Int} {α : Type} {look : Nat → Option α} {value : α} :
    (if 0 ≤ number then look number.toNat else none) = some value ↔
      ∃ natural : Nat, number = natural ∧ look natural = some value := by
  constructor
  · intro hsome
    obtain ⟨hnonneg, hlook⟩ := Option.ite_none_right_eq_some.1 hsome
    exact ⟨number.toNat, (Int.toNat_of_nonneg hnonneg).symm, hlook⟩
  · rintro ⟨natural, rfl, hlook⟩
    exact (if_pos (Int.natCast_nonneg natural)).trans hlook

/-- A call finds its way if there are a table and a callback for it and a machine is registered. -/
theorem Bridge.route_eq_ok_iff {bridge : Bridge} {pointer : EnvPointer} {table : Int64}
    {index : Int32} {callback : Host.Callback} {env : Env} :
    bridge.route pointer table index = .ok (callback, env) ↔
      ∃ (number position : Nat) (found : CallbackTable) (registration : Registration),
        table.toInt = number ∧ bridge.tables.find? number = some found ∧
        index.toInt = position ∧ found.callbacks[position]? = some callback ∧
        (bridge.lifecycle found.lifecycle).registration = some registration ∧
        env = Env.of found.lifecycle registration pointer := by
  constructor
  · intro hroute
    unfold Bridge.route at hroute
    split at hroute
    · cases hroute
    · rename_i found hfound
      split at hroute
      · cases hroute
      · rename_i other hother
        split at hroute
        · cases hroute
        · rename_i registration hregistration
          cases hroute
          obtain ⟨number, hnumber, hfound⟩ := natural_iff.1 hfound
          obtain ⟨position, hposition, hcallback⟩ := natural_iff.1 hother
          exact ⟨number, position, found, registration, hnumber, hfound, hposition, hcallback,
            hregistration, rfl⟩
  · rintro ⟨number, position, found, registration, hnumber, hfound, hposition, hcallback,
      hregistration, rfl⟩
    have htable : bridge.table? table = some found := natural_iff.2 ⟨number, hnumber, hfound⟩
    have hother : found.callback? index = some callback :=
      natural_iff.2 ⟨position, hposition, hcallback⟩
    unfold Bridge.route
    rw [htable]
    dsimp only
    rw [hother]
    dsimp only
    rw [hregistration]

/-- A call from Java after its way has been found. -/
def follow (run : CallbackRunner) (pointer : EnvPointer) (receiver array : Option Handle) :
    Except Error (Host.Callback × Env) → Program (Option Handle)
  | .error error => answerJava pointer (.failed error)
  | .ok (callback, env) => run callback env receiver ⟨env, array⟩ >>= conclude pointer env

variable {α ω : Type} {thread : NativeThread} {first last : Moment ω}
  {exchanges : List (Exchange ω)}

/-- What comes after a look at the bridge sees the bridge as it is. -/
theorem run_look_bind {β : Type} {view : Bridge → α} {next : α → Program β} {result : β} :
    (Program.look view >>= next).Run thread first exchanges result last ↔
      (next (view first.bridge)).Run thread first exchanges result last := by
  constructor
  · intro hrun
    cases hrun with
    | read hrest => exact hrest
  · intro hrest
    exact .read hrest

/-- The way is found without a break. -/
theorem run_route (pointer : EnvPointer) (table : Int64) (index : Int32)
    (next : Except Error (Host.Callback × Env) → Program α) {result : α} :
    ((do
      let (lifecycle, callback) ← findCallback table index
      let env ← Env.ofPointer lifecycle pointer
      return (callback, env) : Fallible (Host.Callback × Env)).run >>= next).Run thread first
        exchanges result last ↔
      (next (first.bridge.route pointer table index)).Run thread first exchanges result last := by
  unfold Bridge.route findCallback
  rw [ExceptT.run_bind, Fallible.run_lift_bind, bind_assoc, bind_assoc]
  refine run_look_bind.trans ?_
  cases htable : first.bridge.table? table with
  | none => exact Iff.rfl
  | some callbacks =>
    dsimp only
    cases hcallback : callbacks.callback? index with
    | none => exact Iff.rfl
    | some callback =>
      unfold Env.ofPointer Fallible.nonNull LifecycleId.registration?
      simp only [pure_bind, ExceptT.run_pure, Fallible.run_lift_bind, bind_assoc]
      rw [run_look_bind]
      cases hregistration : (first.bridge.lifecycle callbacks.lifecycle).registration with
      | none => exact Iff.rfl
      | some registration => exact Iff.rfl

theorem invokeNative_eq (run : CallbackRunner) (pointer : EnvPointer) (table : Int64)
    (index : Int32) (receiver array : Option Handle) :
    invokeNative run pointer table index receiver array = (do
      let (lifecycle, callback) ← findCallback table index
      let env ← Env.ofPointer lifecycle pointer
      return (callback, env) : Fallible (Host.Callback × Env)).run >>=
        follow run pointer receiver array := by
  unfold invokeNative dispatch
  rw [bind_assoc]
  refine congrArg _ ?_
  funext found
  rcases found with error | ⟨callback, env⟩
  · rfl
  · dsimp only
    rw [bind_assoc]
    refine congrArg _ ?_
    funext outcome
    rcases outcome with value | error | _
    · dsimp only
      unfold conclude
      simp only [bind_assoc]
      refine congrArg _ ?_
      funext object
      refine congrArg _ ?_
      funext _
      cases object with
      | ok object => rfl
      | error error => rfl
    · rfl
    · rfl

/-- A call from Java finds its way first, and nobody else gets a turn before it has. -/
theorem run_invokeNative (run : CallbackRunner) (pointer : EnvPointer) (table : Int64)
    (index : Int32) (receiver array result : Option Handle) :
    (invokeNative run pointer table index receiver array).Run thread first exchanges result last ↔
      (follow run pointer receiver array (first.bridge.route pointer table index)).Run thread first
        exchanges result last := by
  rw [invokeNative_eq]
  exact run_route pointer table index _

theorem writes_throwRuntimeException {allowed : Bridge → Bridge → Prop} (pointer : EnvPointer)
    (message : String) : (throwRuntimeException pointer message).Writes allowed := by
  have hthrow : ∀ classObject : Handle, Program.Writes allowed (do
      let _ ← Program.perform
        (.env pointer (.throwNew classObject (Text.ModifiedUtf8.encode message)))
      Program.perform (.env pointer (.deleteLocalRef classObject))) :=
    fun _ ↦ (Program.Writes.perform _).bind fun _ ↦ .perform _
  refine (Program.Writes.perform _).bind ?_
  rintro (_ | _)
  · refine (Program.Writes.perform _).bind ?_
    rintro (_ | classObject)
    · exact .complain _
    · exact hthrow classObject
  · refine (Program.Writes.perform _).bind fun _ ↦ (Program.Writes.perform _).bind ?_
    rintro (_ | classObject)
    · exact .complain _
    · exact hthrow classObject

namespace Coherent

variable {errands : List Errand} {log : List Posting} {bridge : Bridge}

/-- A drop that has ended has taken the table away. -/
theorem dropped (hcoherent : Coherent errands log bridge) {thread : NativeThread}
    {builder : Builder} {calls : List Call} {effect : Option Nat} {result : Unit}
    (hmem : ⟨thread, .drop builder, calls, effect, .done result⟩ ∈ errands) :
    effect = some builder.table ∧ ⟨.drop builder, builder.table⟩ ∈ log ∧
      ∀ env, ¬ Lives errands log env builder := by
  have heffect : effect = some builder.table := hcoherent.ends hmem rfl
  subst heffect
  have hlogged : ⟨.drop builder, builder.table⟩ ∈ log := hcoherent.mem_log hmem rfl
  exact ⟨rfl, hlogged, fun _ hlives ↦ hlives.2 _ hlogged rfl ⟨builder, rfl⟩⟩

end Coherent

/-- Whether the tables have changed or not, it can be recorded. -/
theorem Dealing.exists_records (dealing : Dealing) (before after : Bridge) (effect : Option Nat)
    (log : List Posting) :
    ∃ effect' log', dealing.Records before after effect log effect' log' := by
  by_cases hsame : before.SameTables after
  · exact ⟨effect, log, .still hsame⟩
  · exact ⟨_, _, .changed hsame⟩

/-- A dealing that has begun may run to its end, against machines that always give the same answers.
-/
theorem CallbackHistory.finish (answer : (request : Call) → request.Reply) {earlier : List Errand}
    {thread : NativeThread} {dealing : Dealing} {calls : List Call} {effect : Option Nat}
    {log : List Posting} {rest : Program dealing.Result} {bridge : Bridge}
    (hhistory : CallbackHistory (earlier ++ [⟨thread, dealing, calls, effect, rest⟩]) log bridge) :
    let (_, result, last) :=
      rest.play (.answering answer : Program.Machine Unit) thread ⟨bridge, ()⟩
    ∃ calls effect log,
      CallbackHistory (earlier ++ [⟨thread, dealing, calls, effect, .done result⟩]) log
        last.bridge := by
  have hproceed : ∀ (rest : Program dealing.Result) calls effect log bridge,
      CallbackHistory (earlier ++ [⟨thread, dealing, calls, effect, rest⟩]) log bridge →
        ∃ effect' log', CallbackHistory (earlier ++ [⟨thread, dealing, calls, effect',
          (rest.advance thread bridge).2⟩]) log' (rest.advance thread bridge).1 := by
    intro rest calls effect log bridge hhistory
    obtain ⟨effect', log', hrecords⟩ :=
      dealing.exists_records bridge (rest.advance thread bridge).1 effect log
    exact ⟨effect', log', hhistory.proceed hrecords⟩
  obtain ⟨effect', log', hadvanced⟩ := hproceed rest calls effect log bridge hhistory
  clear hhistory
  induction rest generalizing calls effect' log' bridge with
  | done result => exact ⟨calls, effect', log', hadvanced⟩
  | call request next ih =>
    obtain ⟨effect'', log'', hadvanced'⟩ := hproceed _ _ _ _ _ (hadvanced.answer (answer request))
    exact ih (answer request) effect'' log'' hadvanced'
  | read next ih => exact ih bridge effect' log' hadvanced
  | write changed next ih => exact ih effect' log' hadvanced
  | thread next ih => exact ih thread effect' log' hadvanced
  | notify notice next ih => exact ih effect' log' hadvanced
  | remark note next ih => exact ih effect' log' hadvanced

namespace Sample

/-- Machines that also create strings and objects. -/
def creative : (request : Call) → request.Reply
  | .env pointer (.newString _) => some ⟨pointer.vm, 6⟩
  | .env pointer (.newObject ..) => some ⟨pointer.vm, 7⟩
  | request => something request

/-- The first builder that is made with the environment. -/
def builder : Builder :=
  ⟨"I", ⟨some ⟨vm, 5⟩, .shared, 1⟩, ⟨vm, 1⟩, ⟨vm, 1⟩, 1⟩

end Sample

section

omit [Host]

end

end JavaInterop
