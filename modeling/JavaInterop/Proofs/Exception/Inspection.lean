import JavaInterop.Exception.Catch
import JavaInterop.Proofs.Exception.Discipline

/-!
# Catching keeps the discipline

Turning a pending exception into an error may be started in any situation, and all that it raises
itself while it inspects the thrown object stays with it.  The inspection makes many calls, and any
of them may raise an exception in turn, for every class of the hierarchy and once more for the
message; each of these exceptions is printed and cleared, or ends the inspection with an error.

Some functions of the interface are called without a check afterwards.  The specification lists no
exceptions for them, and they are left out of `EnvFunction.mayRaise`.
-/

namespace JavaInterop

/-- The functions that may raise an exception.  References and superclasses are obtained and
instances are tested without one, and no function raises one that may be called while one is
pending. -/
def EnvFunction.mayRaise : EnvFunction → Bool
  | newLocalRef _ | newGlobalRef _ | getSuperclass _ | isInstanceOf .. => false
  | function => !function.isSafeWhilePending

open EnvFunction (mayRaise)

variable [Host] {α β : Type} {env : Env}

/-! ## Calls of an environment -/

/-- A call of a function that may be made while an exception is pending raises none. -/
theorem peaceful_safe {function : EnvFunction} (hsafe : function.isSafeWhilePending = true) :
    Peaceful mayRaise (env.perform function) := by
  refine Peaceful.perform ?_
  intro reply after hlaw
  cases hafter : after with
  | false => rfl
  | true => exact hlaw.safe hsafe hafter |>.symm

/-- A call of a function that never raises an exception. -/
theorem peaceful_silent {function : EnvFunction} (hsafe : function.isSafeWhilePending = false)
    (hsilent : mayRaise function = false) : Peaceful mayRaise (env.perform function) := by
  refine Peaceful.perform ?_
  intro reply after hlaw
  cases hafter : after with
  | false => rfl
  | true =>
    have hraised := hlaw.raised rfl hafter hsafe
    rw [hsilent] at hraised
    exact absurd hraised.1 Bool.false_ne_true

theorem Peaceful.deleteLocal (reference : Option Handle) :
    Peaceful mayRaise (env.deleteLocal reference) := by
  cases reference with
  | none => exact Peaceful.done ()
  | some handle =>
    refine Peaceful.bind (Peaceful.look _) ?_
    rintro (_ | registration)
    · exact Peaceful.done ()
    · exact peaceful_safe rfl

theorem Peaceful.dropLocal (reference : LocalReference) : Peaceful mayRaise reference.drop :=
  Peaceful.deleteLocal reference.raw

theorem Guards.scope {start : Bool → Prop} {body : Fallible α} (reference : LocalReference)
    (hbody : Guards mayRaise start body.run Failed) :
    Guards mayRaise start (reference.scope body).run Failed :=
  hbody.thenAlways (Peaceful.dropLocal reference)

/-- An operation that goes on with the answer of a call. -/
theorem Disciplined.perform {function : EnvFunction} {next : function.Reply → Fallible α}
    (hsafe : function.isSafeWhilePending = false)
    (hfailed : ∀ reply, mayRaise function = true → function.Fails reply →
      Catches mayRaise (next reply))
    (hnext : ∀ reply, Disciplined mayRaise (next reply)) :
    Disciplined mayRaise (liftM (env.perform function) >>= next) := by
  rw [Disciplined, Fallible.run_lift_bind]
  exact guards_perform hsafe hfailed hnext

theorem Disciplined.bindPeaceful {program : Program α} {next : α → Fallible β}
    (hprogram : Peaceful mayRaise program) (hnext : ∀ value, Disciplined mayRaise (next value)) :
    Disciplined mayRaise (liftM program >>= next) := by
  rw [Disciplined, Fallible.run_lift_bind]
  exact hprogram.bind hnext

/-! ## Releasing references -/

/-- Attaching and detaching a thread has nothing to do with exceptions. -/
theorem peaceful_invocation {request : Call} (hinvocation : ∀ pointer function,
    request ≠ .env pointer function) : Peaceful mayRaise (Program.perform request) := by
  refine Peaceful.perform ?_
  intro reply after hlaw
  cases request with
  | env pointer function => exact absurd rfl (hinvocation pointer function)
  | _ =>
    cases after with
    | false => rfl
    | true => exact (hlaw rfl).symm

theorem Peaceful.deferDetach (id : LifecycleId) (generation : Nat) :
    Peaceful mayRaise (id.deferDetach generation) := by
  refine Peaceful.current.bind fun running ↦ ?_
  split
  · exact Peaceful.warn _
  · exact Peaceful.update _

theorem Peaceful.attachTo (id : LifecycleId) (registration : Registration) (config : AttachConfig) :
    Peaceful mayRaise (id.attachTo registration config).run := by
  unfold LifecycleId.attachTo
  rw [Fallible.run_lift_bind]
  refine (peaceful_invocation (by simp)).bind ?_
  intro answer
  dsimp only
  split
  · exact Peaceful.done _
  · refine Peaceful.andThen (Guards.map Peaceful.current) ?_
    intro running
    refine Peaceful.andThen (Guards.map (peaceful_invocation (by simp))) ?_
    rintro (status | pointer)
    · rw [Fallible.ofStatus, Fallible.run_throw_bind]
      exact Peaceful.done _
    · rw [Fallible.ofStatus, pure_bind]
      refine Peaceful.andThen (Guards.map (Peaceful.update _)) ?_
      intro _
      split
      · exact Peaceful.andThen (Guards.map (Peaceful.deferDetach id _)) fun _ ↦ Peaceful.done _
      · exact Peaceful.done _
  · rw [Fallible.run_throw_bind]
    exact Peaceful.done _

theorem Peaceful.detachFrom (id : LifecycleId) (registration : Registration) :
    Peaceful mayRaise (id.detachFrom registration) := by
  refine Peaceful.bind (Peaceful.current.bind fun _ ↦ Peaceful.update _) ?_
  intro _
  refine (peaceful_invocation (by simp)).bind ?_
  rintro (status | pointer)
  · exact Peaceful.done ()
  · refine (peaceful_invocation (by simp)).bind ?_
    rintro (status | _)
    · exact Peaceful.current.bind fun _ ↦ Peaceful.complain _
    · exact Peaceful.update _

theorem Peaceful.deleteGlobal (id : LifecycleId) (generation : Nat) (reference : Handle) :
    Peaceful mayRaise (id.deleteGlobal generation reference) := by
  refine Peaceful.bind (Peaceful.look _) ?_
  rintro (_ | registration)
  · exact Peaceful.done ()
  · refine (Peaceful.attachTo id registration _).bind ?_
    rintro (error | ⟨pointer, attachedHere⟩)
    · exact Peaceful.warn _
    · have hdelete :
          Peaceful mayRaise (Program.perform (.env pointer (.deleteGlobalRef reference))) :=
        Peaceful.perform fun _ _ hafter ↦ hafter
      cases attachedHere with
      | true =>
        refine (Peaceful.warn _).bind fun _ ↦ hdelete.bind fun _ ↦ ?_
        exact Peaceful.detachFrom id registration
      | false => exact hdelete.bind fun _ ↦ Peaceful.done ()

theorem Peaceful.dropGlobal (reference : GlobalReference) : Peaceful mayRaise reference.drop := by
  refine Guards.map ?_
  unfold GlobalReference.release
  cases reference.raw with
  | none => exact Peaceful.done _
  | some handle => exact (Peaceful.deleteGlobal _ _ handle).bind fun _ ↦ Peaceful.done _

theorem Peaceful.dropError (error : Error) : Peaceful mayRaise error.drop := by
  unfold Error.drop
  cases error.owned? with
  | none => exact Peaceful.done ()
  | some reference => exact Peaceful.dropGlobal reference

/-! ## Inspecting a thrown object -/

theorem contained_inspectionFailed (call : String) :
    Contained mayRaise (env.inspectionFailed call) := by
  have hdone : ∀ error : Error, Guards mayRaise Clear (pure error : Program Error) fun _ ↦ True :=
    fun error ↦ (Peaceful.done error).widen
  refine guards_check ?_ (hdone _)
  refine guards_describe ?_
  exact guards_clear (hdone _) Always.trivial

/-- A failed inspection is an error in any case, whatever it raised. -/
theorem Catches.inspectionFailed (call : String) :
    Catches mayRaise (do throw (← env.inspectionFailed call) : Fallible α) := by
  rw [Catches, Fallible.run_lift_bind]
  refine Guards.always ?_ (Always.bind fun error ↦ Always.throw)
  refine (contained_inspectionFailed call).bind ?_ ?_
  · intro error
    exact (Disciplined.throw error).settles
  · intro error _
    exact Always.trivial

/-- An operation that checks for an exception after a call, whatever the answer was. -/
theorem Disciplined.performChecked {function : EnvFunction} {next : function.Reply → Fallible α}
    (hsafe : function.isSafeWhilePending = false) (hnext : ∀ reply, Catches mayRaise (next reply)) :
    Disciplined mayRaise (liftM (env.perform function) >>= next) :=
  Disciplined.perform hsafe (fun reply _ _ ↦ hnext reply) fun reply ↦ (hnext reply).clear

/-- An inspection goes on only if no exception is pending. -/
theorem Catches.checkInspection {call : String} {next : Unit → Fallible α}
    (hnext : ∀ done, Disciplined mayRaise (next done)) :
    Catches mayRaise (do
      let pending ← liftM (env.perform .exceptionCheck)
      if pending = true then do
        let error ← liftM (env.inspectionFailed call)
        let done ← throw error
        next done
      else next ()) := by
  rw [Catches, Fallible.run_lift_bind]
  refine guards_check ?_ (hnext ())
  have hfailed : Catches mayRaise (do throw (← env.inspectionFailed call) : Fallible Unit) :=
    Catches.inspectionFailed call
  have hthen := hfailed.andThen hnext
  rw [bind_assoc] at hthen
  exact hthen.weaken (fun _ _ ↦ trivial) fun _ halarm ↦ halarm

/-- Reading a string may raise an exception, and then gives nothing. -/
theorem Disciplined.readString {string : Handle}
    {next : Option (Except Error String) → Fallible α} (hnone : Catches mayRaise (next none))
    (hsome : ∀ content, Disciplined mayRaise (next (some content))) :
    Disciplined mayRaise (liftM (env.readString string) >>= next) := by
  rw [Disciplined, Fallible.run_lift_bind, Env.readString, bind_assoc]
  refine guards_perform rfl ?_ ?_
  · intro reply _ hfails
    rw [show reply = none from hfails, pure_bind]
    exact hnone
  · rintro (_ | chars)
    · rw [pure_bind]
      exact hnone.clear
    · dsimp only
      rw [bind_assoc]
      refine (peaceful_safe rfl).bind ?_
      intro _
      rw [pure_bind]
      exact hsome _

theorem Disciplined.callStringMethod (object : Handle) (className method : String) :
    Disciplined mayRaise (env.callStringMethod object className method) := by
  unfold Env.callStringMethod
  refine Disciplined.perform rfl ?_ ?_
  · intro reply _ hfails
    rw [show reply = none from hfails]
    exact Catches.inspectionFailed method
  · rintro (_ | classObject)
    · exact (Catches.inspectionFailed method).clear
    · refine Guards.scope _ ?_
      refine Disciplined.perform rfl ?_ ?_
      · intro reply _ hfails
        rw [show reply = none from hfails]
        exact Catches.inspectionFailed method
      · rintro (_ | methodId)
        · exact (Catches.inspectionFailed method).clear
        · refine Disciplined.performChecked rfl ?_
          intro answer
          refine Catches.checkInspection ?_
          rintro ⟨⟩
          cases answer with
          | none => exact Disciplined.done none
          | some string =>
            refine Guards.scope _ ?_
            refine Disciplined.readString (Catches.inspectionFailed method) ?_
            rintro (error | text)
            · exact Disciplined.throw error
            · exact Disciplined.done (some text)

theorem guards_ancestry (current : Option Handle) :
    Guards mayRaise Clear (env.ancestry.run.run current) fun answer ↦ Failed answer.1 := by
  cases current with
  | none => exact (Peaceful.done _).widen
  | some classObject =>
    refine Guards.bind (Disciplined.callStringMethod _ _ _) ?_ ?_
    · rintro (error | _ | name)
      · exact (Peaceful.deleteLocal _).bind fun _ ↦ (Peaceful.done _).widen
      · refine (contained_inspectionFailed "getName").clear.bind ?_ ?_
        · intro error
          exact (Peaceful.deleteLocal _).bind fun _ ↦ (Peaceful.done _).widen
        · intro error _
          exact Always.bind fun _ ↦ Always.done (failed_error error)
      · refine (peaceful_silent rfl rfl).bind ?_
        intro sup
        exact (Peaceful.deleteLocal _).bind fun _ ↦ (Peaceful.done _).widen
    · rintro _ ⟨error, rfl⟩
      exact Always.bind fun _ ↦ Always.done (failed_error error)

/-- The rest of a walk, after the answer of its source. -/
theorem guards_ancestry_bind
    {source : ExceptT Error (StateT (Option Handle) Program) (Option String)}
    {next : Option String → ExceptT Error (StateT (Option Handle) Program) Resolution}
    {current : Option Handle}
    (hsource : Guards mayRaise Clear (source.run.run current) fun answer ↦ Failed answer.1)
    (hnext : ∀ name rest, Guards mayRaise Clear ((next name).run.run rest)
      fun answer ↦ Failed answer.1) :
    Guards mayRaise Clear ((source >>= next).run.run current) fun answer ↦ Failed answer.1 := by
  rw [Fallible.run_stateful_bind]
  refine hsource.bind ?_ ?_
  · rintro ⟨error | name, rest⟩
    · exact (Peaceful.done _).widen
    · exact hnext name rest
  · rintro ⟨_, rest⟩ ⟨error, rfl⟩
    exact Always.done (failed_error error)

theorem guards_walk (registry : Registry) (className name : String) (remaining : Nat)
    (current : Option Handle) :
    Guards mayRaise Clear ((walk registry env.ancestry className remaining name).run.run current)
      fun answer ↦ Failed answer.1 := by
  induction remaining generalizing name current with
  | zero =>
    unfold walk
    split
    · exact (Peaceful.done _).widen
    · split
      · exact (Peaceful.done _).widen
      · exact (Peaceful.done _).widen
  | succ remaining ih =>
    unfold walk
    split
    · exact (Peaceful.done _).widen
    · split
      · exact (Peaceful.done _).widen
      · refine guards_ancestry_bind (guards_ancestry current) ?_
        rintro (_ | next) rest
        · exact (Peaceful.done _).widen
        · exact ih next rest

theorem guards_resolve (registry : Registry) (current : Option Handle) :
    Guards mayRaise Clear ((resolve registry env.ancestry).run.run current)
      fun answer ↦ Failed answer.1 := by
  refine guards_ancestry_bind (guards_ancestry current) ?_
  rintro (_ | className) rest
  · exact (Peaceful.done _).widen
  · exact guards_walk registry className className _ rest

theorem Disciplined.resolveThrown (registry : Registry) (throwable : Handle) :
    Disciplined mayRaise (env.resolveThrown registry throwable) := by
  refine Disciplined.perform rfl ?_ ?_
  · intro reply _ hfails
    rw [show reply = none from hfails]
    exact Catches.inspectionFailed _
  · rintro (_ | classObject)
    · exact (Catches.inspectionFailed _).clear
    · refine Guards.bind (guards_resolve registry (some classObject)) ?_ ?_
      · intro answer
        exact (Peaceful.deleteLocal _).bind fun _ ↦ (Peaceful.done _).widen
      · intro answer hfailed
        exact Always.bind fun _ ↦ Always.done hfailed

/-- Reading the message of a thrown object may raise exceptions, but none of them is left. -/
theorem contained_thrownMessage (throwable : Handle) :
    Guards mayRaise Clear (env.thrownMessage throwable) fun _ ↦ True := by
  refine Guards.bind (Disciplined.callStringMethod _ _ _) ?_ ?_
  · rintro (error | message)
    · exact (Peaceful.warn _).bind fun _ ↦ (Peaceful.done _).widen
    · exact (Peaceful.done _).widen
  · intro result _
    exact Always.trivial

/-! ## Catching -/

theorem Disciplined.newGlobal (object : Option Handle) :
    Disciplined mayRaise (env.newGlobal object) := by
  refine (Disciplined.nonNull object _).andThen ?_
  intro handle
  refine Disciplined.bindPeaceful (peaceful_silent rfl rfl) ?_
  rintro (_ | reference)
  · exact Disciplined.throw _
  · exact Disciplined.done _

/-- A resolved exception becomes an error in any case. -/
theorem always_throwResolved (throwable : Handle) (resolution : Resolution)
    (message : Option String) :
    Always (env.throwResolved throwable resolution message).run Failed := by
  cases resolution with
  | unmatched className => exact Always.throw
  | matched factory className =>
    refine Always.andThen fun reference ↦ ?_
    split
    · exact Always.andThen fun _ ↦ Always.throw
    · exact Always.throw

theorem Disciplined.throwResolved (throwable : Handle) (resolution : Resolution)
    (message : Option String) :
    Disciplined mayRaise (env.throwResolved throwable resolution message) := by
  cases resolution with
  | unmatched className => exact Disciplined.throw _
  | matched factory className =>
    refine (Disciplined.newGlobal _).andThen ?_
    intro reference
    dsimp only
    split
    · exact Disciplined.bindPeaceful (Peaceful.dropGlobal _) fun _ ↦ Disciplined.throw _
    · exact Disciplined.throw _

/-- What follows the clearing of an exception settles, and fails on every path, also if reading the
message of the thrown object raised another one. -/
theorem Disciplined.inspect (registry : Registry) (throwable : Handle) :
    Disciplined mayRaise (do
      let resolution ← env.resolveThrown registry throwable
      let message ← env.thrownMessage throwable
      env.throwResolved throwable resolution message) := by
  refine (Disciplined.resolveThrown registry throwable).andThen ?_
  intro resolution
  rw [Disciplined, Fallible.run_lift_bind]
  have hfails : ∀ message, Always (env.throwResolved throwable resolution message).run Failed :=
    always_throwResolved throwable resolution
  refine (contained_thrownMessage throwable).bind ?_ fun message _ ↦ hfails message
  exact fun message ↦ Disciplined.throwResolved throwable resolution message

/-- A catch that has found an exception always ends with an error. -/
theorem always_caught (registry : Registry) (throwable : Handle) :
    Always ((env.own (some throwable)).scope (do
      let resolution ← env.resolveThrown registry throwable
      let message ← env.thrownMessage throwable
      env.throwResolved throwable resolution message)).run Failed :=
  Always.thenAlways <| Always.andThen fun resolution ↦ Always.andThen fun message ↦
    always_throwResolved throwable resolution message

theorem Catches.catchWith (registry : Registry) : Catches mayRaise (env.catchWith registry) := by
  rw [Catches, Env.catchWith, Fallible.run_lift_bind]
  refine guards_occurred ?_ (Disciplined.done ())
  intro throwable
  dsimp only
  rw [Fallible.run_lift_bind]
  refine guards_clear ?_ (always_caught registry throwable)
  exact (Guards.scope _ (Disciplined.inspect registry throwable)).settles

theorem Catches.catchPending : Catches mayRaise env.catchPending := by
  intro thread first hstart
  unfold Env.catchPending
  rw [Fallible.run_lift_bind, Program.ensures_bind, Program.ensures_state]
  exact Catches.catchWith first.bridge.registry thread first hstart

/-- A catch begins by asking for the pending exception.  If there is none it does nothing else, and
otherwise it fails. -/
theorem ensures_catchPending_cases {ω : Type} {law : Exchange ω → Prop} {thread : NativeThread}
    {first : Moment ω} {post : List (Exchange ω) → Except Error Unit → Moment ω → Prop}
    (hnone : ∀ after, law ⟨thread, .env env.pointer .exceptionOccurred, none, first, after⟩ →
      post [⟨thread, .env env.pointer .exceptionOccurred, none, first, after⟩] (.ok ()) after)
    (hsome : ∀ throwable after rest error last,
      law ⟨thread, .env env.pointer .exceptionOccurred, some throwable, first, after⟩ →
      post (⟨thread, .env env.pointer .exceptionOccurred, some throwable, first, after⟩ :: rest)
        (.error error) last) :
    Program.Ensures law thread env.catchPending.run first post := by
  unfold Env.catchPending Env.catchWith
  rw [Fallible.ensures_liftThen, Program.ensures_state, Fallible.ensures_liftThen, Env.perform,
    Program.ensures_perform]
  intro reply after hlaw
  cases reply with
  | none => exact Fallible.ensures_pure.2 (hnone after hlaw)
  | some throwable =>
    dsimp only
    rw [Fallible.ensures_liftThen]
    intro begun _ middle _ _
    refine (always_caught first.bridge.registry throwable ω law thread middle).weaken ?_
    rintro rest _ last ⟨error, rfl⟩
    exact hsome throwable after _ error last hlaw

/-- The error of a failed look-up takes up a pending exception, and keeps what describing it raises
to itself. -/
theorem contained_withCause (text : String) : Contained mayRaise (env.withCause text) := by
  refine guards_occurred ?_ (Peaceful.done _).widen
  intro throwable
  refine guards_clear ?_ Always.trivial
  refine Guards.bind (Disciplined.callStringMethod _ _ _) ?_ fun _ _ ↦ Always.trivial
  have hrest : ∀ error : Error, Guards mayRaise Clear
      (env.deleteLocal (some throwable) >>= fun _ ↦ pure error) fun _ ↦ True :=
    fun error ↦ (Peaceful.deleteLocal _).bind fun _ ↦ (Peaceful.done error).widen
  rintro (error | _ | cause)
  · exact (Peaceful.warn _).bind fun _ ↦ hrest _
  · exact hrest _
  · exact hrest _

end JavaInterop
