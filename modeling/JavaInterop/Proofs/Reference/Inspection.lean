import JavaInterop.Proofs.Reference.Settlement

/-!
# Catching keeps the balance

Inspecting a thrown object borrows many local references: the object itself, its class and the
superclasses, the classes that are needed for the calls, and strings with their buffers.  All of
them are given back, on every path that the inspection may take, and only the reference that goes
with the error remains.

The inspection works without a pending exception.  One that it raises itself is cleared at once,
and then the inspection is over.
-/

namespace JavaInterop

variable [Host] {α : Type} {env : Env} {vacant : Option DescriptorKey} {calm calmAfter : Bool}
  {share : Multiset Resource}

theorem Balances.inspectionFailed (call : String) :
    Balances env vacant (Opening calm share) (env.inspectionFailed call) fun error pending own ↦
      Opening true share pending own ∧ error.owned? = none := by
  refine Balances.check.bind fun reply ↦ Balances.given fun _ ↦ ?_
  cases reply with
  | false =>
    rw [Bool.not_false, Bool.or_true]
    exact Balances.done fun _ _ hholds ↦ ⟨hholds, rfl⟩
  | true =>
    refine Balances.anyway ?_
    refine (Balances.idle rfl (fun _ ↦ rfl) rfl).bind fun _ ↦ ?_
    refine (Balances.clear fun _ _ hholds ↦ hholds.2).bind fun _ ↦ ?_
    exact Balances.done fun _ _ hholds ↦ ⟨hholds, rfl⟩

theorem Balances.failInspection [Owner α] (call : String) :
    Balances env vacant (Opening calm 0) (do throw (← env.inspectionFailed call) : Fallible α).run
      (HandsOver env calmAfter) := by
  refine Balances.liftThen (Balances.inspectionFailed call) ?_
  exact fun error ↦ Balances.given fun howned ↦ Balances.fail howned

/-- The buffer of a string is given back.  If there is none, an exception may be pending. -/
theorem Balances.readString (string : Handle) :
    Balances env vacant (Opening calm 0) (env.readString string)
      fun content ↦ Opening (calm && content.isSome) 0 := by
  have hnothing : ∀ calm', Balances env vacant (Opening calm' 0)
      (pure none : Program (Option (Except Error String)))
      fun content ↦ Opening (calm && content.isSome) 0 := by
    intro calm'
    refine Balances.done ?_
    rintro pending own ⟨-, hown⟩
    exact ⟨by simp, hown⟩
  refine Balances.askThen rfl rfl ?_ ?_
  · rintro reply hfails -
    rw [show reply = none from hfails]
    exact hnothing false
  · rintro (_ | chars)
    · exact hnothing calm
    · have hrelease : Balances env vacant (Opening calm ({.characters string} + 0))
          (env.perform (.releaseStringChars string)) fun _ ↦ Opening calm 0 :=
        Balances.giveBack rfl rfl
      refine hrelease.bind fun _ ↦ Balances.done ?_
      rintro pending own ⟨hcalm, hown⟩
      exact ⟨fun hyes ↦ hcalm (Bool.and_eq_true_iff.1 hyes).1, hown⟩

/-- A result that owns nothing if it is an error. -/
def Plain (result : Except Error α) : Prop := ∀ error, result = .error error → error.owned? = none

omit [Host] in
theorem plain_error {error : Error} (herror : error.owned? = none) :
    Plain (.error error : Except Error α) := by
  rintro _ ⟨rfl⟩
  exact herror

omit [Host] in
theorem plain_ok (value : α) : Plain (.ok value) := by
  rintro error ⟨⟩

theorem always_inspectionFailed (call : String) :
    Always (env.inspectionFailed call) fun error ↦ error.owned? = none := by
  refine Always.bind fun pending ↦ ?_
  cases pending with
  | false => exact Always.done rfl
  | true => exact Always.bind fun _ ↦ Always.bind fun _ ↦ Always.done rfl

theorem always_plain_failInspection (call : String) :
    Always (do throw (← env.inspectionFailed call) : Fallible α).run Plain := by
  rw [Fallible.run_lift_bind]
  exact (always_inspectionFailed call).after fun error herror ↦ Always.done (plain_error herror)

/-- A string that cannot be read is an error that owns nothing. -/
theorem always_readString (string : Handle) : Always (env.readString string) fun content ↦
    ∀ error, content = some (.error error) → error.owned? = none := by
  refine Always.bind fun chars ↦ ?_
  cases chars with
  | none => exact Always.done (by simp)
  | some chars =>
    refine Always.bind fun _ ↦ Always.done ?_
    intro error herror
    split at herror
    · cases herror
    · cases herror
      rfl

theorem always_plain_callStringMethod (object : Handle) (className method : String) :
    Always (env.callStringMethod object className method).run Plain := by
  refine Always.lift fun classObject ↦ ?_
  cases classObject with
  | none => exact always_plain_failInspection method
  | some classObject =>
    refine Always.thenAlways (Always.lift fun methodId ↦ ?_)
    cases methodId with
    | none => exact always_plain_failInspection method
    | some methodId =>
      refine Always.lift fun answer ↦ Always.lift fun pending ↦ ?_
      cases pending with
      | true =>
        rw [if_pos rfl, Fallible.run_lift_bind]
        refine (always_inspectionFailed method).after fun error herror ↦ ?_
        rw [Fallible.run_throw_bind]
        exact Always.done (plain_error herror)
      | false =>
        cases answer with
        | none => exact Always.done (plain_ok none)
        | some string =>
          refine Always.thenAlways ?_
          rw [Fallible.run_lift_bind]
          refine (always_readString string).after ?_
          rintro (_ | error | text) hcontent
          · exact always_plain_failInspection method
          · exact Always.done (plain_error (hcontent error rfl))
          · exact Always.done (plain_ok (some text))

theorem Settles.callStringMethod (object : Handle) (className method : String) :
    Settles env vacant true (env.callStringMethod object className method) true := by
  have hfailed : ∀ calm, Settles env vacant calm
      (do throw (← env.inspectionFailed method) : Fallible (Option String)) true :=
    fun _ ↦ Balances.failInspection method
  refine Balances.askLift rfl rfl ?_ ?_
  · rintro reply hfails -
    rw [show reply = none from hfails]
    exact hfailed false
  · rintro (_ | classObject)
    · exact hfailed true
    · refine Balances.scope rfl rfl ?_
      refine Balances.askLift rfl rfl ?_ ?_
      · rintro reply hfails -
        rw [show reply = none from hfails]
        exact hfailed false
      · rintro (_ | methodId)
        · exact hfailed true
        · refine Balances.askLift rfl rfl ?_ ?_
          · rintro answer - hnothing
            rw [localShare_eq_zero.1 hnothing]
            refine Balances.liftThen Balances.check fun pending ↦ Balances.given fun _ ↦ ?_
            cases pending with
            | false => exact Balances.succeed (fun _ hpresent ↦ nomatch hpresent) rfl
            | true =>
              refine Balances.liftThen (Balances.inspectionFailed method) ?_
              exact fun error ↦ Balances.given fun howned ↦ Balances.failThen howned
          · intro answer
            refine Balances.liftThen Balances.check fun pending ↦ Balances.given fun hpending ↦ ?_
            obtain rfl := hpending rfl
            cases answer with
            | none => exact Balances.succeed (fun _ hpresent ↦ nomatch hpresent) rfl
            | some string =>
              refine Balances.scope rfl rfl ?_
              refine Balances.liftThen
                ((Balances.readString string).certain (always_readString string)) ?_
              rintro (_ | error | text)
              · exact Balances.given fun _ ↦ Balances.failInspection method
              · exact Balances.given fun hplain ↦ Balances.fail (hplain error rfl)
              · exact Balances.given fun _ ↦ Balances.succeed (fun _ _ ↦ trivial) rfl

/-! ## Walking the classes -/

/-- The situation after a step of a walk: besides its result, the class to be named next is held. -/
def Visits [Owner α] (env : Env) (answer : Except Error α × Option Handle) : Holding :=
  fun pending own ↦ IssuedBy env answer.1 ∧
    Opening answer.1.isOk (owned answer.1 + localShare answer.2) pending own

theorem Balances.visit [Owner α] {value : α} {current : Option Handle}
    (hissued : IssuedBy env value) (hvalue : owned value = 0) :
    Balances env vacant (Opening true (localShare current))
      (pure (Except.ok value, current) : Program (Except Error α × Option Handle))
      (Visits env) := by
  refine Balances.done ?_
  rintro pending own ⟨hcalm, rfl⟩
  refine ⟨hissued, hcalm, ?_⟩
  change _ = owned value + _
  rw [hvalue, zero_add]

theorem Balances.giveUp [Owner α] {error : Error} {current : Option Handle}
    (herror : error.owned? = none) :
    Balances env vacant (Opening true (localShare current))
      (pure (Except.error error, current) : Program (Except Error α × Option Handle))
      (Visits env) := by
  refine Balances.done ?_
  rintro pending own ⟨-, rfl⟩
  refine ⟨issuedBy_of_plain herror, fun hyes ↦ absurd hyes Bool.false_ne_true, ?_⟩
  change _ = owned error + _
  rw [owned_of_plain herror, zero_add]

/-- A walk that ends with an error gives back the class that it was at. -/
theorem Balances.leaveWalk [Owner α] {error : Error} {classObject : Handle}
    (hissued : IssuedBy env error) :
    Balances env vacant (Opening calm (owned error + localShare (some classObject)))
      (do
        env.deleteLocal (some classObject)
        return (Except.error error, none) : Program (Except Error α × Option Handle))
      (Visits env) := by
  rw [add_comm]
  refine (Balances.deleteLocal (some classObject)).bind fun _ ↦ Balances.done ?_
  rintro pending own ⟨-, rfl⟩
  refine ⟨hissued, fun hyes ↦ absurd hyes Bool.false_ne_true, ?_⟩
  rw [localShare_none, add_zero]
  rfl

theorem Balances.ancestry (current : Option Handle) :
    Balances env vacant (Opening true (localShare current)) (env.ancestry.run.run current)
      (Visits env) := by
  cases current with
  | none => exact Balances.visit (fun _ hpresent ↦ nomatch hpresent) rfl
  | some classObject =>
    refine Balances.bind (Settles.callStringMethod _ _ _).aside ?_
    rintro (error | _ | name) thread first own rest hready ⟨hissued, hholds⟩
    · exact Balances.leaveWalk hissued thread first own rest hready hholds
    · have hnothing : owned (Except.ok none : Except Error (Option String)) = 0 := rfl
      rw [hnothing, zero_add] at hholds
      refine Balances.bind (Balances.inspectionFailed "getName") (fun error ↦ ?_) thread first own
        rest hready hholds
      refine Balances.given fun howned ↦ ?_
      rw [← zero_add (localShare (some classObject)), ← owned_of_plain howned]
      exact Balances.leaveWalk (issuedBy_of_plain howned)
    · rw [show owned (Except.ok (some name) : Except Error (Option String)) = 0 from rfl,
        zero_add] at hholds
      refine Balances.bind (Balances.askQuiet rfl rfl rfl) (fun sup ↦ ?_) thread first own
        rest hready hholds
      rw [add_comm]
      refine (Balances.deleteLocal _).bind fun _ ↦ ?_
      exact Balances.visit (fun _ _ ↦ trivial) rfl

theorem Balances.walkThen [Owner α] [Owner β] {pre : Holding}
    {source : ExceptT Error (StateT (Option Handle) Program) α}
    {next : α → ExceptT Error (StateT (Option Handle) Program) β} {current : Option Handle}
    (hsource : Balances env vacant pre (source.run.run current) (Visits env))
    (hnext : ∀ value rest, IssuedBy env value →
      Balances env vacant (Opening true (owned value + localShare rest)) ((next value).run.run rest)
        (Visits env)) :
    Balances env vacant pre ((source >>= next).run.run current) (Visits env) := by
  rw [Fallible.run_stateful_bind]
  refine hsource.bind ?_
  rintro ⟨error | value, rest⟩
  · exact Balances.done fun _ _ hholds ↦ hholds
  · rintro thread first own others hready ⟨hissued, hholds⟩
    exact hnext value rest hissued thread first own others hready hholds

theorem Balances.walk (registry : Registry) (className name : String) (remaining : Nat)
    (current : Option Handle) :
    Balances env vacant (Opening true (localShare current))
      ((walk registry env.ancestry className remaining name).run.run current) (Visits env) := by
  induction remaining generalizing name current with
  | zero =>
    unfold JavaInterop.walk
    split
    · exact Balances.visit trivial rfl
    · split
      · exact Balances.visit trivial rfl
      · exact Balances.giveUp rfl
  | succ remaining ih =>
    unfold JavaInterop.walk
    split
    · exact Balances.visit trivial rfl
    · split
      · exact Balances.visit trivial rfl
      · refine Balances.walkThen (Balances.ancestry current) ?_
        rintro (_ | next) rest -
        · rw [show owned (none : Option String) = 0 from rfl, zero_add]
          exact Balances.visit trivial rfl
        · rw [show owned (some next) = 0 from rfl, zero_add]
          exact ih next rest

theorem Settles.resolveThrown (registry : Registry) (throwable : Handle) :
    Settles env vacant true (env.resolveThrown registry throwable) true := by
  have hfailed : ∀ calm, Settles env vacant calm
      (do throw (← env.inspectionFailed "GetObjectClass") : Fallible Resolution) true :=
    fun _ ↦ Balances.failInspection _
  refine Balances.askLift rfl rfl ?_ ?_
  · rintro reply hfails -
    rw [show reply = none from hfails]
    exact hfailed false
  · rintro (_ | classObject)
    · exact hfailed true
    · have hresolve : Balances env vacant (Opening true (localShare (some classObject)))
          ((resolve registry env.ancestry).run.run (some classObject)) (Visits env) := by
        refine Balances.walkThen (Balances.ancestry _) ?_
        rintro (_ | className) rest -
        · rw [show owned (none : Option String) = 0 from rfl, zero_add]
          exact Balances.giveUp rfl
        · rw [show owned (some className) = 0 from rfl, zero_add]
          exact Balances.walk registry className className _ rest
      refine hresolve.bind ?_
      rintro ⟨resolution, rest⟩ thread first own others hready ⟨hissued, hholds⟩
      rw [add_comm] at hholds
      refine (Balances.deleteLocal rest).bind (fun _ ↦ Balances.done ?_) thread first own others
        hready hholds
      rintro pending own' hholds'
      exact ⟨hissued, hholds'⟩

/-- The message of a thrown object is read without holding on to anything. -/
theorem Balances.thrownMessage (throwable : Handle) :
    Balances env vacant (Opening true 0) (env.thrownMessage throwable) fun _ ↦ Opening false 0 := by
  refine Balances.bind ((Settles.callStringMethod _ _ _).certain
    (always_plain_callStringMethod _ _ _)) fun result ↦ Balances.given fun hplain ↦ ?_
  rcases result with error | message
  · refine (Balances.warn _).bind fun _ ↦ Balances.done ?_
    rintro pending own ⟨-, -, rfl⟩
    exact ⟨fun hyes ↦ absurd hyes Bool.false_ne_true, owned_of_plain (hplain error rfl)⟩
  · refine Balances.done ?_
    rintro pending own ⟨-, -, rfl⟩
    refine ⟨fun hyes ↦ absurd hyes Bool.false_ne_true, ?_⟩
    cases message with
    | none => rfl
    | some text => rfl

/-! ## Catching -/

theorem Settles.newGlobal (object : Option Handle) :
    Settles env vacant calm (env.newGlobal object) calm := by
  refine (Settles.nonNull object _).andThen fun handle _ ↦ ?_
  refine Balances.askLift rfl rfl ?_ ?_
  · rintro reply hfails -
    rw [show reply = none from hfails]
    exact Balances.fail rfl
  · rintro (_ | reference)
    · exact Balances.fail rfl
    · exact Balances.succeed ⟨rfl, rfl⟩ rfl

/-- The error of a caught exception owns the new reference to the thrown object, if the factory
keeps it. -/
theorem Settles.throwResolved (throwable : Handle) (resolution : Resolution)
    (message : Option String) :
    Settles env vacant false (env.throwResolved throwable resolution message) calmAfter := by
  cases resolution with
  | unmatched className => exact Balances.fail rfl
  | matched factory className =>
    refine (Settles.newGlobal _).andThen fun reference hissued ↦ ?_
    cases factory with
    | proxy type =>
      refine Balances.failWith ?_ rfl
      rintro present ⟨rfl⟩
      exact hissued
    | refusing descriptor tag =>
      have hdrop : Balances env vacant (Opening false (owned reference + 0)) reference.drop
          fun _ ↦ Opening false 0 := Balances.dropGlobal hissued
      rw [add_zero] at hdrop
      exact Balances.liftThen hdrop fun _ ↦ Balances.fail rfl

/-- A pending exception becomes an error that owns what is left of it. -/
theorem Settles.catchWith (registry : Registry) :
    Settles env vacant calm (env.catchWith registry) true := by
  refine Balances.liftThen Balances.occurred ?_
  rintro (_ | throwable)
  · refine Balances.done ?_
    rintro pending own ⟨hown, hpending, -⟩
    exact ⟨trivial, fun _ ↦ hpending, hown⟩
  · have hclear : Balances env vacant
        (fun pending own ↦ own = localShare (some throwable) + 0 ∧
          pending = (some throwable).isSome ∧ (calm = true → some throwable = none))
        (env.perform .exceptionClear) fun _ ↦ Opening true (localShare (some throwable)) :=
      Balances.clear fun _ _ hholds ↦ hholds.1.trans (add_zero _)
    refine Balances.liftThen hclear fun _ ↦ Balances.scope rfl rfl ?_
    refine (Settles.resolveThrown registry throwable).andThen fun resolution _ ↦ ?_
    refine Balances.liftThen (Balances.thrownMessage throwable) fun message ↦ ?_
    exact Settles.throwResolved throwable resolution message

theorem Settles.catchPending : Settles env vacant calm env.catchPending true := by
  refine Balances.liftThen Balances.state fun bridge ↦ ?_
  exact Settles.catchWith bridge.registry

/-- If nothing is pending, there is nothing to catch. -/
theorem Balances.catchNothing [Owner β] {next : Unit → Fallible β}
    (hnext : Balances env vacant (Opening true share) (next ()).run (HandsOver env calmAfter)) :
    Balances env vacant (Opening true share) (env.catchPending >>= next).run
      (HandsOver env calmAfter) := by
  have hnothing : Balances env vacant (Opening true share) env.catchPending.run
      fun result pending own ↦ Opening true share pending own ∧ result = .ok () := by
    unfold Env.catchPending
    rw [Fallible.run_lift_bind]
    refine Balances.state.bind fun bridge ↦ ?_
    unfold Env.catchWith
    rw [Fallible.run_lift_bind]
    refine Balances.occurred.bind ?_
    rintro throwable thread first own rest hready ⟨hown, hpending, hnone⟩
    obtain rfl := hnone rfl
    refine Balances.done (fun pending own hholds ↦ ⟨hholds, rfl⟩) thread first own rest hready ?_
    exact ⟨fun _ ↦ hpending, hown.trans (zero_add share)⟩
  rw [ExceptT.run_bind]
  refine hnothing.bind fun result ↦ Balances.given ?_
  rintro rfl
  exact hnext

/-- Most calls are followed by a check.  What comes after it is responsible for the answer. -/
theorem Settles.performThenCatch [Owner β] {function : EnvFunction}
    {next : function.Reply → Fallible β} (hsafe : function.isSafeWhilePending = false)
    (hreturned : function.returned = none)
    (hnext : ∀ reply, Balances env vacant (Opening true (function.brought reply)) (next reply).run
      (HandsOver env calmAfter)) :
    Settles env vacant true (do
      let reply ← liftM (env.perform function)
      env.catchPending
      next reply) calmAfter := by
  refine Balances.askLift hsafe hreturned ?_ ?_
  · intro reply _ hnothing
    refine Settles.catchPending.andThen fun _ _ ↦ ?_
    have hreply := hnext reply
    rwa [hnothing] at hreply
  · exact fun reply ↦ Balances.catchNothing (hnext reply)

/-- The error of a failed look-up owns nothing, and neither is anything left of its cause. -/
theorem Balances.withCause (text : String) :
    Balances env vacant (Opening calm 0) (env.withCause text) fun error pending own ↦
      Opening false 0 pending own ∧ error.owned? = none := by
  refine Balances.occurred.bind ?_
  rintro (_ | throwable)
  · refine Balances.done ?_
    rintro pending own ⟨hown, -, -⟩
    exact ⟨⟨fun hyes ↦ absurd hyes Bool.false_ne_true, hown⟩, rfl⟩
  · have hclear : Balances env vacant
        (fun pending own ↦ own = localShare (some throwable) + 0 ∧
          pending = (some throwable).isSome ∧ (calm = true → some throwable = none))
        (env.perform .exceptionClear) fun _ ↦ Opening true (localShare (some throwable)) :=
      Balances.clear fun _ _ hholds ↦ hholds.1.trans (add_zero _)
    refine hclear.bind fun _ ↦ ?_
    have hrest : ∀ text, Balances env vacant (Opening false (localShare (some throwable)))
        (do
          env.deleteLocal (some throwable)
          return Error.bridge text)
        fun error pending own ↦ Opening false 0 pending own ∧ error.owned? = none := by
      intro text
      rw [← add_zero (localShare (some throwable))]
      exact (Balances.deleteLocal _).bind fun _ ↦ Balances.done fun _ _ hholds ↦ ⟨hholds, rfl⟩
    refine Balances.bind ((Settles.callStringMethod _ _ _).aside.certain
      (always_plain_callStringMethod _ _ _)) ?_
    rintro (error | _ | cause) thread first own rest hready ⟨⟨-, -, hown⟩, hplain⟩
    · have hheld : Opening false (localShare (some throwable)) first.outside.pending own := by
        refine ⟨fun hyes ↦ absurd hyes Bool.false_ne_true, hown.trans ?_⟩
        change owned error + _ = _
        rw [owned_of_plain (hplain error rfl), zero_add]
      exact (Balances.warn _).bind (fun _ ↦ hrest _) thread first own rest hready hheld
    · exact hrest _ thread first own rest hready
        ⟨fun hyes ↦ absurd hyes Bool.false_ne_true, hown.trans (zero_add _)⟩
    · exact hrest _ thread first own rest hready
        ⟨fun hyes ↦ absurd hyes Bool.false_ne_true, hown.trans (zero_add _)⟩

theorem Settles.throwWithCause [Owner α] (text : String) :
    Settles env vacant calm (do throw (← env.withCause text) : Fallible α) calmAfter := by
  refine Balances.liftThen (Balances.withCause text) fun error ↦ Balances.given fun hplain ↦ ?_
  exact Balances.fail hplain

end JavaInterop
