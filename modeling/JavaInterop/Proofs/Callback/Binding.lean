import JavaInterop.Callback.Builder
import JavaInterop.Proofs.Exception.Inspection
import JavaInterop.Proofs.Lifecycle.Clerical
import JavaInterop.Proofs.Program.Throughout
import Mathlib.Control.Monad.Basic

/-!
# Binding the forwarding method

Before a builder is made the method that forwards calls has to be bound.  The bridge remembers one
generation only, the last one in which that was done, and nothing is asked of the machine if this is
the generation of the environment.  Otherwise the class is looked up and the method is bound, and
the generation is remembered if no step has failed.

`Binding` says how one round of this goes by what is remembered before it, whatever the machine
answers, and `Rounds` how one round follows another.
-/

namespace JavaInterop

open Program (Ensures)

variable [Host] {ω α : Type}

/-! ## What a catch does not do -/

/-- Native functions are bound to methods. -/
def Call.RegistersNatives : Call → Prop
  | .env _ (.registerNatives ..) => True
  | _ => False

/-- No call of the program binds a native function. -/
abbrev Program.RegistersNothing (program : Program α) : Prop :=
  program.Calls fun request ↦ ¬ request.RegistersNatives

theorem Program.Calls.registersNothing {program : Program α} (hclerical : program.Clerical) :
    program.RegistersNothing := by
  apply hclerical.weaken
  intro request hrequest
  cases request with
  | env pointer function =>
    cases function with
    | registerNatives => exact hrequest.elim
    | _ => exact id
  | _ => exact id

namespace Env

open Program (Calls)

variable (env : Env)

theorem deleteLocal_registersNothing (reference : Option Handle) :
    (env.deleteLocal reference).RegistersNothing := by
  cases reference with
  | none => exact .done
  | some handle =>
    apply Calls.look.bind
    rintro (_ | registration)
    · exact .done
    · exact .perform id

theorem scope_registersNothing {handle : Option Handle} {body : Fallible α}
    (hbody : body.run.RegistersNothing) :
    ((env.own handle).scope body).run.RegistersNothing :=
  hbody.bind fun _ ↦ (env.deleteLocal_registersNothing handle).bind fun _ ↦ .done

theorem inspectionFailed_registersNothing (call : String) :
    (env.inspectionFailed call).RegistersNothing := by
  apply Calls.bind (.perform id)
  rintro (_ | _)
  · exact .done
  · exact (Calls.perform id).bind fun _ ↦ (Calls.perform id).bind fun _ ↦ .done

theorem fail_registersNothing (call : String) :
    (do throw (← env.inspectionFailed call) : Fallible α).run.RegistersNothing :=
  .liftThen (env.inspectionFailed_registersNothing call) fun _ ↦ .throw

theorem readString_registersNothing (string : Handle) :
    (env.readString string).RegistersNothing := by
  apply Calls.bind (.perform id)
  rintro (_ | chars)
  · exact .done
  · exact (Calls.perform id).bind fun _ ↦ .done

theorem callStringMethod_registersNothing (object : Handle) (className method : String) :
    (env.callStringMethod object className method).run.RegistersNothing := by
  apply Calls.liftThen (.perform id)
  rintro (_ | classObject)
  · exact env.fail_registersNothing method
  apply env.scope_registersNothing
  apply Calls.liftThen (.perform id)
  rintro (_ | methodId)
  · exact env.fail_registersNothing method
  apply Calls.liftThen (.perform id)
  intro answer
  apply Calls.liftThen (.perform id)
  rintro (_ | _)
  · cases answer with
    | none => exact .done
    | some string =>
      apply env.scope_registersNothing
      apply Calls.liftThen (env.readString_registersNothing string)
      rintro (_ | error | text)
      · exact env.fail_registersNothing method
      · exact .done
      · exact .done
  · exact env.fail_registersNothing method

theorem ancestry_registersNothing (current : Option Handle) :
    (env.ancestry.run.run current).RegistersNothing := by
  cases current with
  | none => exact .done
  | some classObject =>
    apply Calls.bind (env.callStringMethod_registersNothing classObject _ _)
    rintro (error | _ | name)
    · exact (env.deleteLocal_registersNothing _).bind fun _ ↦ .done
    · apply (env.inspectionFailed_registersNothing _).bind
      exact fun _ ↦ (env.deleteLocal_registersNothing _).bind fun _ ↦ .done
    · apply Calls.bind (.perform id)
      exact fun _ ↦ (env.deleteLocal_registersNothing _).bind fun _ ↦ .done

theorem walk_registersNothing (registry : Registry) (className : String) (remaining : Nat)
    (name : String) (current : Option Handle) :
    ((walk registry env.ancestry className remaining name).run.run current).RegistersNothing := by
  induction remaining generalizing name current with
  | zero =>
    unfold walk
    split
    · exact .done
    · split
      · exact .done
      · exact .done
  | succ remaining ih =>
    unfold walk
    split
    · exact .done
    · split
      · exact .done
      · rw [Fallible.run_stateful_bind]
        apply (env.ancestry_registersNothing current).bind
        rintro ⟨error | _ | name, rest⟩
        · exact .done
        · exact .done
        · exact ih name rest

theorem resolveThrown_registersNothing (registry : Registry) (throwable : Handle) :
    (env.resolveThrown registry throwable).run.RegistersNothing := by
  have hresolve (current : Option Handle) :
      ((resolve registry env.ancestry).run.run current).RegistersNothing := by
    unfold resolve
    rw [Fallible.run_stateful_bind]
    apply (env.ancestry_registersNothing current).bind
    rintro ⟨error | _ | name, rest⟩
    · exact .done
    · exact .done
    · exact env.walk_registersNothing registry name _ name rest
  apply Calls.liftThen (.perform id)
  rintro (_ | classObject)
  · exact env.fail_registersNothing _
  · apply (hresolve _).bind
    exact fun _ ↦ (env.deleteLocal_registersNothing _).bind fun _ ↦ .done

theorem thrownMessage_registersNothing (throwable : Handle) :
    (env.thrownMessage throwable).RegistersNothing := by
  apply Calls.bind (env.callStringMethod_registersNothing throwable _ _)
  rintro (error | message)
  · exact Calls.warn.bind fun _ ↦ .done
  · exact .done

theorem throwResolved_registersNothing (throwable : Handle) (resolution : Resolution)
    (message : Option String) :
    (env.throwResolved throwable resolution message).run.RegistersNothing := by
  cases resolution with
  | unmatched className => exact .throw
  | matched factory className =>
    have hnewGlobal : (env.newGlobal throwable).run.RegistersNothing := by
      apply Calls.andThen .nonNull
      intro object
      apply Calls.liftThen (.perform id)
      rintro (_ | handle)
      · exact .throw
      · exact .succeed
    apply hnewGlobal.andThen
    intro reference
    dsimp only
    split
    · exact .liftThen reference.clerical_drop.registersNothing fun _ ↦ .throw
    · exact .throw

theorem catchPending_registersNothing : env.catchPending.run.RegistersNothing := by
  apply Calls.liftThen .state
  intro bridge
  apply Calls.liftThen (.perform id)
  rintro (_ | throwable)
  · exact .succeed
  apply Calls.liftThen (.perform id)
  intro _
  apply env.scope_registersNothing
  apply (env.resolveThrown_registersNothing _ throwable).andThen
  intro resolution
  apply Calls.liftThen (env.thrownMessage_registersNothing throwable)
  exact fun message ↦ env.throwResolved_registersNothing throwable resolution message

end Env

theorem Error.drop_registersNothing (error : Error) : error.drop.RegistersNothing := by
  unfold Error.drop
  split
  · exact (GlobalReference.clerical_drop _).registersNothing
  · exact Program.Calls.done

/-! ## A round -/

/-- What is remembered of bindings is the same. -/
def Bridge.SameBinding (before after : Bridge) : Prop := after.boundIn = before.boundIn

instance : Bridge.Bookkeeping Bridge.SameBinding := ⟨fun _ _ _ ↦ rfl, fun _ _ _ ↦ rfl⟩

/-- While a call is under way nobody else changes what is remembered. -/
def Exchange.KeepsBinding (exchange : Exchange ω) : Prop :=
  exchange.before.bridge.SameBinding exchange.after.bridge

/-- The name of the class that forwards calls, as it is passed. -/
def invocationName : Text.CString := Text.ModifiedUtf8.encode "org/jnibridge/NativeInvocation"

/-- The forwarding method with the function behind it. -/
def forwarding : NativeMethod where
  name := Text.ModifiedUtf8.encode "invokeNative"
  signature :=
    Text.ModifiedUtf8.encode "(JILjava/lang/Object;[Ljava/lang/Object;)Ljava/lang/Object;"
  function := forwardFunction

namespace Env

/-- The class that forwards calls is looked up. -/
def finds (env : Env) (found : Option Handle) : Talk :=
  ⟨.env env.pointer (.findClass invocationName), found⟩

/-- The machine is asked for a pending exception. -/
def notices (env : Env) (pending : Option Handle) : Talk :=
  ⟨.env env.pointer .exceptionOccurred, pending⟩

/-- The forwarding method is bound. -/
def binds (env : Env) (classObject : Handle) (answer : Except Status Unit) : Talk :=
  ⟨.env env.pointer (.registerNatives classObject [forwarding]), answer⟩

end Env

/-- Nothing is bound in the rest of a round. -/
def BindsNothing (rest : List Talk) : Prop := ∀ talk ∈ rest, ¬ talk.1.RegistersNatives

/-- How a round goes, from what is remembered before it to what is remembered after it. -/
inductive Binding (env : Env) (before : Option Nat) :
    List Talk → Except Error Unit → Option Nat → Prop
  /-- The method was bound in this generation and in no other one since. -/
  | known (hknown : before = some env.generation) : Binding env before [] (.ok ()) before
  | bound {classObject : Handle} {rest : List Talk} (hnew : before ≠ some env.generation)
      (hrest : BindsNothing rest) :
      Binding env before (env.finds (some classObject) :: env.notices none ::
        env.binds classObject (.ok ()) :: env.notices none :: rest) (.ok ()) (some env.generation)
  | refused {classObject : Handle} {answer : Except Status Unit} {pending : Option Handle}
      {rest : List Talk} {error : Error} (hnew : before ≠ some env.generation)
      (hrefused : pending = none → ¬ answer = .ok ()) (hrest : BindsNothing rest) :
      Binding env before (env.finds (some classObject) :: env.notices none ::
        env.binds classObject answer :: env.notices pending :: rest) (.error error) before
  | missing {found pending : Option Handle} {rest : List Talk} {error : Error}
      (hnew : before ≠ some env.generation) (hmissing : pending = none → found = none)
      (hrest : BindsNothing rest) :
      Binding env before (env.finds found :: env.notices pending :: rest) (.error error) before

variable {env : Env} {thread : NativeThread} {first : Moment ω}

/-- What a program says that binds nothing, if it leaves what is remembered alone. -/
theorem ensures_bindsNothing {program : Program α} (hwrites : program.Writes Bridge.SameBinding)
    (hcalls : program.RegistersNothing) :
    Ensures Exchange.KeepsBinding thread program first fun exchanges _ last ↦
      first.bridge.SameBinding last.bridge ∧ BindsNothing (exchanges.map Exchange.talk) := by
  intro exchanges result last hrun hlaw
  have hsame : first.bridge.SameBinding last.bridge :=
    hrun.writes (fun _ ↦ rfl) (fun _ _ _ hfirst hlast ↦ hlast.trans hfirst) (hwrites _) hlaw
  refine ⟨hsame, fun talk hmem ↦ ?_⟩
  obtain ⟨exchange, hexchange, rfl⟩ := List.mem_map.1 hmem
  exact hrun.calls hcalls hexchange

/-- A catch asks for the pending exception first, and fails if there is one. -/
theorem ensures_catchPending_binding :
    Ensures Exchange.KeepsBinding thread env.catchPending.run first fun exchanges result last ↦
      first.bridge.SameBinding last.bridge ∧ ∃ pending rest,
        exchanges.map Exchange.talk = env.notices pending :: rest ∧ BindsNothing rest ∧
          (pending = none ∧ rest = [] ∧ result = .ok () ∨ pending ≠ none ∧ Failed result) := by
  have haside : Ensures Exchange.KeepsBinding thread env.catchPending.run first
      fun exchanges _ last ↦
        first.bridge.SameBinding last.bridge ∧ BindsNothing (exchanges.map Exchange.talk) :=
    ensures_bindsNothing env.writes_catchPending env.catchPending_registersNothing
  have hshape : Ensures Exchange.KeepsBinding thread env.catchPending.run first
      fun exchanges result _ ↦ ∃ pending rest,
        exchanges.map Exchange.talk = env.notices pending :: rest ∧
          (pending = none ∧ rest = [] ∧ result = .ok () ∨ pending ≠ none ∧ Failed result) := by
    apply ensures_catchPending_cases
    · exact fun _ _ ↦ ⟨none, [], rfl, .inl ⟨rfl, rfl, rfl⟩⟩
    · exact fun throwable _ rest error _ _ ↦
        ⟨some throwable, rest.map Exchange.talk, rfl, .inr ⟨nofun, error, rfl⟩⟩
  refine (haside.and hshape).weaken ?_
  rintro exchanges result last ⟨⟨hsame, hnothing⟩, pending, rest, htalk, hresult⟩
  rw [htalk] at hnothing
  exact ⟨hsame, pending, rest, htalk, fun talk hmem ↦ hnothing talk (List.mem_cons_of_mem _ hmem),
    hresult⟩

omit [Host] in
theorem ofText_invocationClass : Text.CString.ofText invocationClass = .ok invocationName := by
  decide +kernel

omit [Host] in
theorem nativeMethod_forwarding :
    NativeMethod.of forwardMethod.1 forwardMethod.2 forwardFunction = .ok forwarding := by
  decide +kernel

theorem ensures_findClass_binding :
    Ensures Exchange.KeepsBinding thread (env.findClass invocationClass).run first
      fun exchanges result last ↦ first.bridge.SameBinding last.bridge ∧ ∃ found pending rest,
        exchanges.map Exchange.talk = env.finds found :: env.notices pending :: rest ∧
          BindsNothing rest ∧
            ((∃ classObject, found = some classObject ∧ pending = none ∧ rest = [] ∧
                result = .ok (env.own (some classObject))) ∨
              (pending = none → found = none) ∧ Failed result) := by
  unfold Env.findClass Fallible.ended
  rw [ofText_invocationClass, pure_bind, Fallible.ensures_liftThen, Env.perform,
    Program.ensures_perform]
  intro found after hkeeps
  rw [Fallible.ensures_bind]
  refine ensures_catchPending_binding.weaken ?_
  rintro begun result middle ⟨hsame, pending, rest, htalk, hnothing, hcaught⟩
  have hboth : first.bridge.SameBinding middle.bridge := hsame.trans hkeeps
  have hsaid := congrArg (env.finds found :: ·) htalk
  rcases hcaught with ⟨rfl, rfl, rfl⟩ | ⟨hpending, error, rfl⟩
  · cases found with
    | none =>
      unfold Fallible.nonNull
      rw [Fallible.continues_ok, Fallible.run_throw_bind, Program.ensures_pure, List.append_nil]
      exact ⟨hboth, none, none, [], hsaid, hnothing, .inr ⟨fun _ ↦ rfl, failed_error _⟩⟩
    | some classObject =>
      unfold Fallible.nonNull
      rw [Fallible.continues_ok, pure_bind, Fallible.ensures_pure, List.append_nil]
      exact ⟨hboth, _, none, [], hsaid, hnothing, .inl ⟨classObject, rfl, rfl, rfl, rfl⟩⟩
  · exact ⟨hboth, found, pending, rest, hsaid, hnothing,
      .inr ⟨fun hnone ↦ absurd hnone hpending, failed_error error⟩⟩

theorem ensures_registerNatives_binding (classObject : Handle) :
    Ensures Exchange.KeepsBinding thread
      (env.registerNatives (some classObject) [forwarding]).run first
      fun exchanges result last ↦ first.bridge.SameBinding last.bridge ∧ ∃ answer pending rest,
        exchanges.map Exchange.talk =
          env.binds classObject answer :: env.notices pending :: rest ∧ BindsNothing rest ∧
            (answer = .ok () ∧ pending = none ∧ rest = [] ∧ result = .ok () ∨
              (pending = none → ¬ answer = .ok ()) ∧ Failed result) := by
  unfold Env.registerNatives Fallible.nonNull
  rw [pure_bind, Fallible.ensures_liftThen, Env.perform, Program.ensures_perform]
  intro answer after hkeeps
  rw [Fallible.ensures_bind]
  refine ensures_catchPending_binding.weaken ?_
  rintro begun result middle ⟨hsame, pending, rest, htalk, hnothing, hcaught⟩
  have hboth : first.bridge.SameBinding middle.bridge := hsame.trans hkeeps
  have hsaid := congrArg (env.binds classObject answer :: ·) htalk
  rcases hcaught with ⟨rfl, rfl, rfl⟩ | ⟨hpending, error, rfl⟩
  · cases answer with
    | error status =>
      unfold Fallible.ofStatus
      rw [Fallible.continues_ok, Fallible.ensures_throw, List.append_nil]
      have hanswer : ¬ (Except.error status : Except Status Unit) = .ok () := by simp
      exact ⟨hboth, _, none, [], hsaid, hnothing, .inr ⟨fun _ ↦ hanswer, failed_error _⟩⟩
    | ok value =>
      unfold Fallible.ofStatus
      rw [Fallible.continues_ok, Fallible.ensures_pure, List.append_nil]
      exact ⟨hboth, _, none, [], hsaid, hnothing, .inl ⟨rfl, rfl, rfl, rfl⟩⟩
  · exact ⟨hboth, answer, pending, rest, hsaid, hnothing,
      .inr ⟨fun hnone ↦ absurd hnone hpending, failed_error error⟩⟩

/-- Binding the method and remembering that, once the class was found. -/
theorem ensures_remembered (classObject : Handle) :
    Ensures Exchange.KeepsBinding thread (do
      (env.registerNatives (some classObject) [forwarding]).withReason
        "Unable to register native callback for invokeNative()"
      rememberBinding env.generation : Fallible Unit).run first
      fun exchanges result last ↦ ∃ answer pending rest,
        exchanges.map Exchange.talk =
          env.binds classObject answer :: env.notices pending :: rest ∧ BindsNothing rest ∧
            (answer = .ok () ∧ pending = none ∧ result = .ok () ∧
                last.bridge.boundIn = some env.generation ∨
              (pending = none → ¬ answer = .ok ()) ∧ Failed result ∧
                first.bridge.SameBinding last.bridge) := by
  unfold Fallible.withReason
  rw [Fallible.ensures_bind, Fallible.ensures_mapFailure]
  refine (ensures_registerNatives_binding classObject).weaken ?_
  rintro begun result middle ⟨hsame, answer, pending, rest, htalk, hnothing, hbound⟩
  rcases hbound with ⟨rfl, rfl, rfl, rfl⟩ | ⟨hrefused, error, rfl⟩
  · dsimp only
    unfold rememberBinding
    rw [Fallible.continues_ok, Fallible.ensures_lift, Program.ensures_update, List.append_nil]
    exact ⟨_, none, [], htalk, hnothing, .inl ⟨rfl, rfl, rfl, rfl⟩⟩
  · dsimp only
    rw [Program.ensures_bind]
    refine (ensures_bindsNothing error.writes_drop error.drop_registersNothing).weaken ?_
    rintro dropped _ last ⟨hdropped, hdroppedNothing⟩
    rw [Program.ensures_pure, Fallible.continues_error, List.append_nil, List.map_append, htalk]
    refine ⟨answer, pending, rest ++ dropped.map Exchange.talk, rfl, ?_,
      .inr ⟨hrefused, failed_error _, hdropped.trans hsame⟩⟩
    exact fun talk hmem ↦ (List.mem_append.1 hmem).elim (hnothing talk) (hdroppedNothing talk)

/-- A round goes as it should, whatever the machine answers. -/
theorem ensures_bindForwarding :
    Ensures Exchange.KeepsBinding thread (bindForwarding env).run first
      fun exchanges result last ↦ Binding env first.bridge.boundIn (exchanges.map Exchange.talk)
        result last.bridge.boundIn := by
  unfold bindForwarding
  rw [Fallible.ensures_liftThen, Program.ensures_state]
  split
  · rename_i hknown
    exact Fallible.ensures_pure.2 (.known hknown)
  rename_i hnew
  rw [Fallible.ensures_bind]
  refine ensures_findClass_binding.weaken ?_
  rintro begun result middle ⟨hsame, found, pending, rest, htalk, hnothing, hfound⟩
  rcases hfound with ⟨classObject, rfl, rfl, rfl, rfl⟩ | ⟨hmissing, error, rfl⟩
  · rw [Fallible.continues_ok]
    unfold LocalReference.scope
    rw [Fallible.ensures_thenAlways, nativeMethod_forwarding]
    refine (ensures_remembered classObject).weaken ?_
    rintro bound result later ⟨answer, pending, rest, hbound, hrest, hresult⟩
    refine (ensures_bindsNothing (env.writes_deleteLocal (some classObject))
      (env.deleteLocal_registersNothing _)).weaken ?_
    rintro deleted _ last ⟨hdeleted, hdeletedNothing⟩
    have hsaid : (([] : List (Exchange ω)) ++ (begun ++ (bound ++ deleted))).map Exchange.talk =
        env.finds (some classObject) :: env.notices none :: env.binds classObject answer ::
          env.notices pending :: (rest ++ deleted.map Exchange.talk) := by
      simp only [List.nil_append, List.map_append, htalk, hbound, List.cons_append]
    have hmore : BindsNothing (rest ++ deleted.map Exchange.talk) :=
      fun talk hmem ↦ (List.mem_append.1 hmem).elim (hrest talk) (hdeletedNothing talk)
    rw [hsaid, hdeleted]
    rcases hresult with ⟨rfl, rfl, rfl, hremembered⟩ | ⟨hrefused, ⟨error, rfl⟩, hkept⟩
    · rw [hremembered]
      exact .bound hnew hmore
    · rw [hkept, hsame]
      exact .refused hnew hrefused hmore
  · rw [Fallible.continues_error, hsame, List.nil_append, htalk]
    exact .missing hnew hmissing hnothing

/-! ## One round after another -/

/-- A round that is over: what was said in it, and how it ended. -/
structure Round where
  env : Env
  past : List Talk
  result : Except Error Unit

namespace Round

/-- The method was bound: the class was found, the machine has bound the method to it, and no
exception was pending afterwards. -/
def Binds (round : Round) : Prop :=
  ∃ classObject rest, round.past = round.env.finds (some classObject) :: round.env.notices none ::
    round.env.binds classObject (.ok ()) :: round.env.notices none :: rest

/-- The class was looked up, and if it was found the machine was told to bind the method to it. -/
def Tries (round : Round) : Prop :=
  ∃ found pending rest, round.past = round.env.finds found :: round.env.notices pending :: rest ∧
    ∀ classObject, found = some classObject → pending = none →
      ∃ answer more, rest = round.env.binds classObject answer :: more

/-- The round goes as it should, from what is remembered before it to what is remembered after. -/
def Goes (round : Round) (before after : Option Nat) : Prop :=
  Binding round.env before round.past round.result after

variable {round : Round} {before after : Option Nat}

omit [Host] in
/-- What is remembered changes exactly if the method was bound. -/
theorem Goes.cases (hgoes : round.Goes before after) :
    round.Binds ∧ before ≠ some round.env.generation ∧ after = some round.env.generation ∨
      ¬ round.Binds ∧ after = before := by
  obtain ⟨env, past, result⟩ := round
  change Binding env before past result after at hgoes
  cases hgoes with
  | known hknown =>
    apply Or.inr
    refine ⟨?_, rfl⟩
    rintro ⟨classObject, rest, hpast⟩
    cases hpast
  | bound hnew hrest => exact .inl ⟨⟨_, _, rfl⟩, hnew, rfl⟩
  | refused hnew hrefused hrest =>
    apply Or.inr
    refine ⟨?_, rfl⟩
    rintro ⟨classObject, rest, hpast⟩
    cases hpast
    exact hrefused rfl rfl
  | missing hnew hmissing hrest =>
    apply Or.inr
    refine ⟨?_, rfl⟩
    rintro ⟨classObject, rest, hpast⟩
    obtain ⟨hfound, hpast⟩ := List.cons.inj hpast
    obtain ⟨hpending, -⟩ := List.cons.inj hpast
    cases hfound
    cases hpending
    cases hmissing rfl

omit [Host] in
/-- A round that succeeds leaves its generation remembered. -/
theorem Goes.succeeded (hgoes : round.Goes before after) (hresult : round.result = .ok ()) :
    after = some round.env.generation := by
  obtain ⟨env, past, result⟩ := round
  change Binding env before past result after at hgoes
  cases hgoes with
  | known hknown => exact hknown
  | bound => rfl
  | refused | missing => cases hresult

omit [Host] in
/-- A round that fails leaves everything as it was, and its generation was not remembered. -/
theorem Goes.failed (hgoes : round.Goes before after) (hresult : Failed round.result) :
    before ≠ some round.env.generation ∧ after = before := by
  obtain ⟨env, past, result⟩ := round
  change Binding env before past result after at hgoes
  obtain ⟨error, herror⟩ := hresult
  cases hgoes with
  | known | bound => cases herror
  | refused hnew | missing hnew => exact ⟨hnew, rfl⟩

omit [Host] in
/-- Whenever the generation is not remembered the machine is asked. -/
theorem Goes.tries (hgoes : round.Goes before after)
    (hnew : before ≠ some round.env.generation) : round.Tries := by
  obtain ⟨env, past, result⟩ := round
  change Binding env before past result after at hgoes
  cases hgoes with
  | known hknown => exact absurd hknown hnew
  | bound | refused =>
    refine ⟨_, _, _, rfl, ?_⟩
    rintro _ ⟨rfl⟩ -
    exact ⟨_, _, rfl⟩
  | missing hnew hmissing hrest =>
    refine ⟨_, _, _, rfl, fun classObject hfound hpending ↦ ?_⟩
    cases hfound.symm.trans (hmissing hpending)

end Round

/-- Some rounds, from what is remembered before the first to what is remembered after the last. -/
def Rounds : List Round → Option Nat → Option Nat → Prop
  | [], before, after => after = before
  | round :: rest, before, after => ∃ middle, round.Goes before middle ∧ Rounds rest middle after

namespace Rounds

variable {rounds more : List Round} {round : Round} {before after : Option Nat} {generation : Nat}

omit [Host]

theorem append_iff : Rounds (rounds ++ more) before after ↔
    ∃ middle, Rounds rounds before middle ∧ Rounds more middle after := by
  induction rounds generalizing before with
  | nil => simp [Rounds]
  | cons round rest ih =>
    simp only [List.cons_append, Rounds, ih]
    constructor
    · rintro ⟨next, hround, middle, hrest, hmore⟩
      exact ⟨middle, ⟨next, hround, hrest⟩, hmore⟩
    · rintro ⟨middle, ⟨next, hround, hrest⟩, hmore⟩
      exact ⟨next, hround, middle, hrest, hmore⟩

theorem snoc (hrounds : Rounds rounds before after) {next : Option Nat}
    (hround : round.Goes after next) : Rounds (rounds ++ [round]) before next :=
  append_iff.2 ⟨after, hrounds, next, hround, rfl⟩

/-- A generation is remembered because the method was bound in it. -/
theorem exists_binds (hrounds : Rounds rounds before (some generation)) :
    before = some generation ∨
      ∃ round ∈ rounds, round.Binds ∧ round.env.generation = generation := by
  induction rounds generalizing before with
  | nil => exact .inl hrounds.symm
  | cons round rest ih =>
    obtain ⟨middle, hround, hrest⟩ := hrounds
    rcases ih hrest with hmiddle | ⟨found, hmem, hfound⟩
    · rcases hround.cases with ⟨hbinds, -, hafter⟩ | ⟨-, hsame⟩
      · exact .inr ⟨round, List.mem_cons_self, hbinds,
          Option.some.inj (hafter.symm.trans hmiddle)⟩
      · exact .inl (hsame.symm.trans hmiddle)
    · exact .inr ⟨found, List.mem_cons_of_mem _ hmem, hfound⟩

/-- Nobody but a round in another generation makes the bridge forget one. -/
theorem stays (hrounds : Rounds rounds (some generation) after)
    (hsame : ∀ round ∈ rounds, round.env.generation = generation) : after = some generation := by
  induction rounds with
  | nil => exact hrounds
  | cons round rest ih =>
    obtain ⟨middle, hround, hrest⟩ := hrounds
    have hgeneration := hsame round List.mem_cons_self
    have hmiddle : middle = some generation := by
      rcases hround.cases with ⟨-, -, hafter⟩ | ⟨-, hkept⟩
      · rw [hafter, hgeneration]
      · exact hkept
    subst hmiddle
    exact ih hrest fun other hmem ↦ hsame other (List.mem_cons_of_mem _ hmem)

/-- In one generation in a row the method is bound at most once. -/
theorem pairwise_binds (hrounds : Rounds rounds before after)
    (hsame : ∀ round ∈ rounds, round.env.generation = generation) :
    rounds.Pairwise fun first second ↦ ¬ (first.Binds ∧ second.Binds) := by
  induction rounds generalizing before with
  | nil => exact .nil
  | cons round rest ih =>
    obtain ⟨middle, hround, hrest⟩ := hrounds
    have hothers : ∀ other ∈ rest, other.env.generation = generation :=
      fun other hmem ↦ hsame other (List.mem_cons_of_mem _ hmem)
    refine .cons ?_ (ih hrest hothers)
    rintro other hmem ⟨hbinds, hagain⟩
    obtain ⟨earlier, later, rfl⟩ := List.append_of_mem hmem
    obtain ⟨reached, hearlier, next, hother, -⟩ := append_iff.1 hrest
    rcases hround.cases with ⟨-, -, hbound⟩ | ⟨hnot, -⟩
    · rw [hbound, hsame round List.mem_cons_self] at hearlier
      have hreached := hearlier.stays fun found hfound ↦
        hothers found (List.mem_append_left _ hfound)
      rcases hother.cases with ⟨-, hnew, -⟩ | ⟨hnot, -⟩
      · rw [hothers other hmem] at hnew
        exact hnew hreached
      · exact hnot hagain
    · exact hnot hbinds

/-- After a round that has failed, the next one in its generation asks the machine again. -/
theorem tries_again {earlier between later : List Round} {failed next : Round}
    (hrounds : Rounds (earlier ++ failed :: (between ++ next :: later)) before after)
    (hfailed : Failed failed.result) (hnext : next.env.generation = failed.env.generation)
    (hbetween : ∀ round ∈ between, round.env.generation ≠ failed.env.generation) :
    next.Tries := by
  obtain ⟨reached, -, middle, hround, hrest⟩ := append_iff.1 hrounds
  obtain ⟨found, hothers, last, htried, -⟩ := append_iff.1 hrest
  obtain ⟨hnew, rfl⟩ := hround.failed hfailed
  apply htried.tries
  rw [hnext]
  rintro rfl
  rcases hothers.exists_binds with hknown | ⟨round, hmem, -, hgeneration⟩
  · exact hnew hknown
  · exact hbetween round hmem hgeneration

end Rounds

end JavaInterop
