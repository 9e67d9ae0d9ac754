import JavaInterop.Proofs.Environment.Operation
import JavaInterop.Proofs.Environment.Setting

/-!
# What the operations of an environment do in a setting

An operation of an environment that is started with known references hands over known references
only: what it did not get from its caller is an answer of a machine.  The references that it gives
back at the end of a scope were answers too.

Operations that look at what the bridge keeps, or register something, are treated elsewhere.
-/

namespace JavaInterop

variable [Host] {ω α : Type} {setting : Setting ω} {env : Env}

namespace Setting

/-! ## References of an environment -/

variable (setting) in
/-- The reference may be handed to the machine of an environment. -/
def Knows (env : Env) (reference : Option Handle) : Prop :=
  ∀ handle, reference = some handle → setting.known env.pointer.vm handle

variable (setting) in
/-- The reference is one that the machine of an environment may answer with. -/
def Owns (env : Env) (reference : Option Handle) : Prop :=
  ∀ handle, reference = some handle → setting.own env.pointer.vm handle

variable (setting) in
/-- The local reference belongs to the environment, and it is not null. -/
structure Holds (env : Env) (reference : LocalReference) : Prop where
  owner : reference.env = env
  present : ∃ handle, reference.raw = some handle ∧ setting.own env.pointer.vm handle

theorem Owns.knows {reference : Option Handle} (howns : setting.Owns env reference) :
    setting.Knows env reference :=
  fun handle hsome ↦ setting.knows (howns handle hsome)

/-- A reference that the machine answered with. -/
theorem Owns.known {handle : Handle} (howns : setting.Owns env (some handle)) :
    setting.known env.pointer.vm handle :=
  setting.knows (howns handle rfl)

theorem Owns.holds {handle : Handle} (howns : setting.Owns env (some handle)) :
    setting.Holds env ⟨env, some handle⟩ :=
  ⟨rfl, handle, rfl, howns handle rfl⟩

theorem Holds.knows {reference : LocalReference} (hholds : setting.Holds env reference) :
    setting.Knows env reference.raw := by
  obtain ⟨-, present, hpresent, hown⟩ := hholds
  intro handle hhandle
  cases hpresent.symm.trans hhandle
  exact setting.knows hown

theorem knows_none : setting.Knows env none := fun _ hnone ↦ nomatch hnone

theorem knows_some {handle : Handle} :
    setting.Knows env (some handle) ↔ setting.known env.pointer.vm handle := by
  simp [Knows]

/-- A possibly null answer that is owned. -/
theorem holds_ownNonNull {answer : Option Handle} (hanswer : setting.Owns env answer) :
    ∀ present, env.ownNonNull answer = some present → setting.Holds env present := by
  rintro present hpresent
  cases answer with
  | none => cases hpresent
  | some handle =>
    cases hpresent
    exact hanswer.holds

namespace Admits

/-- A function of the environment is asked with known references, and its answer is known. -/
theorem ask (function : EnvFunction)
    (hoperands : ∀ handle ∈ function.operands, setting.known env.pointer.vm handle) :
    setting.Admits (env.perform function) fun reply ↦
      setting.Owns env (function.answered reply) := by
  refine perform ?_ fun _ _ _ hlaw _ ↦ setting.answer hlaw
  rintro vm handle ⟨rfl, hmem⟩
  exact hoperands handle hmem

/-- A function that is handed no reference. -/
theorem askPlainly (function : EnvFunction) (hplain : function.operands = []) :
    setting.Admits (env.perform function) fun reply ↦
      setting.Owns env (function.answered reply) :=
  ask function fun _ hmem ↦ absurd (hplain ▸ hmem) List.not_mem_nil

/-- A function that is handed one reference. -/
theorem askAbout (function : EnvFunction) {handle : Handle}
    (honly : function.operands = [handle]) (hknown : setting.known env.pointer.vm handle) :
    setting.Admits (env.perform function) fun reply ↦
      setting.Owns env (function.answered reply) := by
  refine ask function fun operand hmem ↦ ?_
  rw [honly] at hmem
  exact List.mem_singleton.1 hmem ▸ hknown

/-- A call that hands over no reference. -/
theorem invoke (request : Call) (hplain : ∀ vm handle, ¬ request.Passes vm handle) :
    setting.Admits (Program.perform request) fun _ ↦ True :=
  perform (fun vm handle hpasses ↦ absurd hpasses (hplain vm handle)) fun _ _ _ _ ↦ trivial

/-! ## Local references -/

theorem deleteLocal {reference : Option Handle} (hknown : setting.Knows env reference) :
    setting.Admits (env.deleteLocal reference) fun _ ↦ True := by
  cases reference with
  | none => exact done trivial
  | some handle =>
    refine glance.bind fun registration _ ↦ ?_
    cases registration with
    | none => exact done trivial
    | some registration =>
      exact (askAbout _ rfl (knows_some.1 hknown)).weaken fun _ _ ↦ trivial

theorem dropLocal {reference : LocalReference}
    (hknows : setting.Knows reference.env reference.raw) :
    setting.Admits reference.drop fun _ ↦ True :=
  deleteLocal hknows

theorem dropHeld {reference : LocalReference} (hholds : setting.Holds env reference) :
    setting.Admits reference.drop fun _ ↦ True := by
  obtain rfl := hholds.owner
  exact dropLocal hholds.knows

theorem scope {reference : LocalReference} {body : Fallible α} {failed : Error → Prop}
    {wanted : α → Prop} (hholds : setting.Holds env reference)
    (hbody : setting.Admits body.run (Ends failed wanted)) :
    setting.Admits (reference.scope body).run (Ends failed wanted) :=
  hbody.thenAlways (dropHeld hholds)

/-! ## Attaching and deleting -/

theorem countAttached (id : LifecycleId) (change : Nat → Nat) :
    setting.Admits (id.countAttached change) fun _ ↦ True :=
  shift fun bridge ↦ shifts_setLifecycle bridge id (.inr rfl)

theorem deferDetach (id : LifecycleId) (generation : Nat) :
    setting.Admits (id.deferDetach generation) fun _ ↦ True := by
  refine current.bind fun running _ ↦ ?_
  split
  · exact warn _
  · exact shift fun bridge ↦ shifts_setThread bridge _ (.inr (touch_loader _ _))

theorem cancelDetach (id : LifecycleId) (generation : Nat) :
    setting.Admits (id.cancelDetach generation) fun _ ↦ True :=
  current.bind fun _ _ ↦ shift fun bridge ↦
    shifts_setThread bridge _ (.inr (touch_loader _ _))

/-- Whoever attaches to a machine gets a pointer of that machine. -/
theorem attachTo (id : LifecycleId) (registration : Registration) (config : AttachConfig)
    (hgroup : ∀ handle, config.group.bind GlobalReference.raw = some handle →
      setting.known registration.vm handle) :
    setting.Admits (id.attachTo registration config).run
      (Ends (fun error ↦ error.owned? = none) fun answer ↦
        ∀ handle, setting.known registration.vm handle → setting.known answer.1.vm handle) := by
  have hpointer : setting.Admits
      (Program.perform (.getEnv registration.vm registration.version)) fun reply ↦
        ∀ pointer, reply = .ok pointer →
          ∀ handle, setting.known registration.vm handle → setting.known pointer.vm handle := by
    refine perform (fun _ _ hpasses ↦ False.elim hpasses) ?_
    rintro reply before after hlaw pointer rfl handle hknown
    exact setting.pointer hlaw hknown
  have hattached : ∀ request : AttachRequest,
      (∀ handle, request.group = some handle → setting.known registration.vm handle) →
      setting.Admits (Program.perform (.attach registration.vm request)) fun reply ↦
        ∀ pointer, reply = .ok pointer →
          ∀ handle, setting.known registration.vm handle → setting.known pointer.vm handle := by
    refine fun request hrequest ↦ perform ?_ ?_
    · rintro vm handle ⟨rfl, hhandle⟩
      exact hrequest handle hhandle
    · rintro reply before after hlaw pointer rfl handle hknown
      exact setting.attached hlaw hknown
  refine hpointer.liftThen ?_
  rintro (status | pointer) hpointer
  · cases status with
    | threadDetached =>
      refine liftThen current fun running _ ↦ ?_
      refine (hattached _ hgroup).liftThen fun answer hanswer ↦ ?_
      have hstatus : setting.Admits (Fallible.ofStatus answer .attachFailed).run
          (Ends (fun error ↦ error.owned? = none) fun pointer ↦
            ∀ handle, setting.known registration.vm handle → setting.known pointer.vm handle) :=
        ofStatus (fun _ ↦ rfl) hanswer
      refine hstatus.andThen fun pointer hpointer ↦ ?_
      refine (countAttached id _).liftThen fun _ _ ↦ ?_
      split
      · exact (deferDetach id _).liftThen fun _ _ ↦ succeed hpointer
      · exact succeed hpointer
    | _ => exact throwThen rfl
  · exact succeed (hpointer pointer rfl)

theorem detachAttached (id : LifecycleId) (registration : Registration) :
    setting.Admits (id.detachAttached registration) fun _ ↦ True := by
  refine (invoke (.detach registration.vm) fun _ _ hpasses ↦ hpasses).bind ?_
  rintro (status | _) -
  · exact current.bind fun _ _ ↦ complain _
  · exact countAttached id _

theorem detachFrom (id : LifecycleId) (registration : Registration) :
    setting.Admits (id.detachFrom registration) fun _ ↦ True := by
  refine (cancelDetach id _).bind fun _ _ ↦ ?_
  refine (invoke (.getEnv registration.vm registration.version)
    fun _ _ hpasses ↦ hpasses).bind ?_
  rintro (status | pointer) -
  · exact done trivial
  · exact detachAttached id registration

theorem release {reference : GlobalReference}
    (hdeletable : Deletable setting.known setting.good reference) :
    setting.Admits reference.release fun _ ↦ True := by
  obtain ⟨raw, id, generation⟩ := reference
  unfold GlobalReference.release
  cases raw with
  | none => exact done trivial
  | some handle =>
    suffices hdelete : setting.Admits (id.deleteGlobal generation handle) fun _ ↦ True from
      hdelete.bind fun _ _ ↦ done trivial
    have hlook : setting.Admits (id.registered? generation) fun registration ↦
        ∀ found, registration = some found → setting.known found.vm handle :=
      look fun moment hgood found hfound ↦ hdeletable moment hgood found hfound handle rfl
    refine hlook.bind ?_
    rintro (_ | registration) hknown
    · exact done trivial
    · refine (attachTo id registration { isScoped := true } fun _ hnone ↦ nomatch hnone).bind ?_
      rintro (error | ⟨pointer, attachedHere⟩) hends
      · exact warn _
      · have hdelete : setting.Admits
            (Program.perform (.env pointer (.deleteGlobalRef handle))) fun _ ↦ True := by
          refine perform ?_ fun _ _ _ _ ↦ trivial
          rintro vm other ⟨rfl, hmem⟩
          cases List.mem_singleton.1 hmem
          exact hends handle (hknown registration rfl)
        cases attachedHere with
        | true =>
          exact (warn _).bind fun _ _ ↦ hdelete.bind fun _ _ ↦ detachFrom id registration
        | false => exact hdelete.bind fun _ _ ↦ done trivial

theorem drop {reference : GlobalReference}
    (hdeletable : Deletable setting.known setting.good reference) :
    setting.Admits reference.drop fun _ ↦ True :=
  map _ (release hdeletable)

/-- What an error owns may be deleted. -/
theorem dropError {error : Error} (htrusts : setting.trusts env)
    (hblames : setting.Blames env error) : setting.Admits error.drop fun _ ↦ True := by
  unfold Error.drop
  cases howned : error.owned? with
  | none => exact done trivial
  | some reference => exact drop (setting.issued htrusts (hblames reference howned))

end Admits

namespace Performs

theorem withReason {operation : Fallible α} {wanted : α → Prop} (htrusts : setting.trusts env)
    (text : String) (hoperation : setting.Performs env operation wanted) :
    setting.Performs env (operation.withReason text) wanted :=
  hoperation.mapFailure fun _ hblames ↦
    (Admits.dropError htrusts hblames).bind fun _ _ ↦ Admits.done (blames_of_plain rfl)

/-! ## New references -/

theorem newLocal {object : Option Handle} (hobject : setting.Knows env object) :
    setting.Performs env (env.newLocal object) (setting.Holds env) := by
  refine (nonNull object _).andThen ?_
  rintro handle rfl
  refine (Admits.askAbout _ rfl (knows_some.1 hobject)).liftThen ?_
  rintro (_ | reference) hknown
  · exact fail rfl
  · exact Admits.succeed hknown.holds

theorem newGlobal {object : Option Handle} (hobject : setting.Knows env object) :
    setting.Performs env (env.newGlobal object) (IssuedThrough setting.own env) := by
  refine (nonNull object _).andThen ?_
  rintro handle rfl
  refine (Admits.askAbout _ rfl (knows_some.1 hobject)).liftThen ?_
  rintro (_ | reference) hknown
  · exact fail rfl
  · exact Admits.succeed ⟨rfl, rfl, hknown⟩

end Performs

/-! ## Catching -/

namespace Admits

theorem inspectionFailed (call : String) :
    setting.Admits (env.inspectionFailed call) fun error ↦ error.owned? = none := by
  refine (askPlainly .exceptionCheck rfl).bind fun pending _ ↦ ?_
  cases pending with
  | false => exact done rfl
  | true =>
    refine (askPlainly .exceptionDescribe rfl).bind fun _ _ ↦ ?_
    exact (askPlainly .exceptionClear rfl).bind fun _ _ ↦ done rfl

/-- A string that cannot be read is an error that owns nothing. -/
theorem readString {string : Handle} (hknown : setting.known env.pointer.vm string) :
    setting.Admits (env.readString string) fun content ↦
      ∀ error, content = some (.error error) → error.owned? = none := by
  refine (askAbout (.getStringChars string) rfl hknown).bind ?_
  rintro (_ | chars) -
  · exact done (by simp)
  · refine (askAbout (.releaseStringChars string) rfl hknown).bind fun _ _ ↦ done ?_
    intro error herror
    split at herror
    · cases herror
    · cases herror
      rfl

end Admits

theorem Performs.failInspection (call : String) {wanted : α → Prop} :
    setting.Performs env (do throw (← env.inspectionFailed call)) wanted :=
  (Admits.inspectionFailed call).liftThen fun _ hplain ↦ Performs.fail hplain

theorem Performs.callStringMethod {object : Handle} (className method : String)
    (hobject : setting.known env.pointer.vm object) :
    setting.Performs env (env.callStringMethod object className method) fun _ ↦ True := by
  refine (Admits.askPlainly (.findClass _) rfl).liftThen ?_
  rintro (_ | classObject) hclass
  · exact failInspection method
  · refine Admits.scope hclass.holds ?_
    refine (Admits.askAbout (.getMethodId ..) rfl hclass.known).liftThen ?_
    rintro (_ | methodId) -
    · exact failInspection method
    · refine (Admits.askAbout (.callObject ..) rfl hobject).liftThen fun answer hanswer ↦ ?_
      refine (Admits.askPlainly .exceptionCheck rfl).liftThen fun pending _ ↦ ?_
      cases pending with
      | true =>
        refine (Admits.inspectionFailed method).liftThen fun _ hplain ↦ ?_
        exact failThen hplain
      | false =>
        cases answer with
        | none => exact Admits.succeed trivial
        | some string =>
          refine Admits.scope hanswer.holds ?_
          refine (Admits.readString hanswer.known).liftThen ?_
          rintro (_ | error | text) hplain
          · exact failInspection method
          · exact fail (hplain error rfl)
          · exact Admits.succeed trivial

/-- After a step of a walk the class to be named next is known. -/
def Visits (setting : Setting ω) (env : Env) (answer : Except Error α × Option Handle) : Prop :=
  Ends (setting.Blames env) (fun _ ↦ True) answer.1 ∧ setting.Knows env answer.2

namespace Admits

theorem ancestry {current : Option Handle} (hcurrent : setting.Knows env current) :
    setting.Admits (env.ancestry.run.run current) (setting.Visits env) := by
  cases current with
  | none => exact done ⟨trivial, hcurrent⟩
  | some classObject =>
    refine (Performs.callStringMethod _ _ (knows_some.1 hcurrent)).bind ?_
    rintro (error | _ | name) hends
    · exact (deleteLocal hcurrent).bind fun _ _ ↦ done ⟨hends, knows_none⟩
    · refine (inspectionFailed "getName").bind fun error hplain ↦ ?_
      refine (deleteLocal hcurrent).bind fun _ _ ↦ done ⟨?_, knows_none⟩
      exact blames_of_plain hplain
    · refine (askAbout (.getSuperclass _) rfl (knows_some.1 hcurrent)).bind fun next hnext ↦ ?_
      exact (deleteLocal hcurrent).bind fun _ _ ↦ done ⟨trivial, hnext.knows⟩

theorem walkThen {β : Type} {source : ExceptT Error (StateT (Option Handle) Program) α}
    {next : α → ExceptT Error (StateT (Option Handle) Program) β} {current : Option Handle}
    (hsource : setting.Admits (source.run.run current) (setting.Visits env))
    (hnext : ∀ value rest, setting.Knows env rest →
      setting.Admits ((next value).run.run rest) (setting.Visits env)) :
    setting.Admits ((source >>= next).run.run current) (setting.Visits env) := by
  rw [Fallible.run_stateful_bind]
  refine hsource.bind ?_
  rintro ⟨error | value, rest⟩ ⟨hends, hrest⟩
  · exact done ⟨hends, hrest⟩
  · exact hnext value rest hrest

theorem walk (registry : Registry) (className name : String) (remaining : Nat)
    {current : Option Handle} (hcurrent : setting.Knows env current) :
    setting.Admits ((walk registry env.ancestry className remaining name).run.run current)
      (setting.Visits env) := by
  induction remaining generalizing name current with
  | zero =>
    unfold JavaInterop.walk
    split
    · exact done ⟨trivial, hcurrent⟩
    · split
      · exact done ⟨trivial, hcurrent⟩
      · exact done ⟨blames_of_plain rfl, hcurrent⟩
  | succ remaining ih =>
    unfold JavaInterop.walk
    split
    · exact done ⟨trivial, hcurrent⟩
    · split
      · exact done ⟨trivial, hcurrent⟩
      · refine walkThen (ancestry hcurrent) ?_
        rintro (_ | next) rest hrest
        · exact done ⟨trivial, hrest⟩
        · exact ih next hrest

/-- The message of a thrown object is only read. -/
theorem thrownMessage {throwable : Handle} (hknown : setting.known env.pointer.vm throwable) :
    setting.Admits (env.thrownMessage throwable) fun _ ↦ True := by
  refine (Performs.callStringMethod _ _ hknown).bind ?_
  rintro (error | message) -
  · exact (warn _).bind fun _ _ ↦ done trivial
  · exact done trivial

end Admits

namespace Performs

theorem resolveThrown (registry : Registry) {throwable : Handle}
    (hknown : setting.known env.pointer.vm throwable) :
    setting.Performs env (env.resolveThrown registry throwable) fun _ ↦ True := by
  refine (Admits.askAbout (.getObjectClass _) rfl hknown).liftThen ?_
  rintro (_ | classObject) hclass
  · exact failInspection _
  · have hresolve : setting.Admits
        ((resolve registry env.ancestry).run.run (some classObject)) (setting.Visits env) := by
      refine Admits.walkThen (Admits.ancestry hclass.knows) ?_
      rintro (_ | className) rest hrest
      · exact Admits.done ⟨blames_of_plain rfl, hrest⟩
      · exact Admits.walk registry className className _ hrest
    refine hresolve.bind ?_
    rintro ⟨resolution, rest⟩ ⟨hends, hrest⟩
    exact (Admits.deleteLocal hrest).bind fun _ _ ↦ Admits.done hends

theorem throwResolved (htrusts : setting.trusts env) {throwable : Handle}
    (hknown : setting.known env.pointer.vm throwable) (resolution : Resolution)
    (message : Option String) {wanted : Unit → Prop} :
    setting.Performs env (env.throwResolved throwable resolution message) wanted := by
  cases resolution with
  | unmatched className => exact fail rfl
  | matched factory className =>
    refine (newGlobal (knows_some.2 hknown)).andThen fun reference hissued ↦ ?_
    cases factory with
    | proxy type =>
      refine Admits.throw ?_
      rintro owned ⟨rfl⟩
      exact hissued
    | refusing descriptor tag =>
      exact (Admits.drop (setting.issued htrusts hissued)).liftThen fun _ _ ↦ fail rfl

theorem catchWith (htrusts : setting.trusts env) (registry : Registry) :
    setting.Performs env (env.catchWith registry) fun _ ↦ True := by
  refine (Admits.askPlainly .exceptionOccurred rfl).liftThen ?_
  rintro (_ | throwable) hanswer
  · exact Admits.succeed trivial
  · have hknown := hanswer.known
    refine (Admits.askPlainly .exceptionClear rfl).liftThen fun _ _ ↦ ?_
    refine Admits.scope hanswer.holds ?_
    refine (resolveThrown registry hknown).andThen fun resolution _ ↦ ?_
    refine (Admits.thrownMessage hknown).liftThen fun message _ ↦ ?_
    exact throwResolved htrusts hknown resolution message

theorem catchPending (htrusts : setting.trusts env) :
    setting.Performs env env.catchPending fun _ ↦ True := by
  unfold Env.catchPending
  rw [Performs, Fallible.run_lift_bind]
  exact Admits.state fun moment _ ↦ catchWith htrusts moment.bridge.registry

/-- Most calls are followed by a check. -/
theorem askThenCatch (htrusts : setting.trusts env) (function : EnvFunction)
    {next : function.Reply → Fallible α} {wanted : α → Prop}
    (hoperands : ∀ handle ∈ function.operands, setting.known env.pointer.vm handle)
    (hnext : ∀ reply, setting.Owns env (function.answered reply) →
      setting.Performs env (next reply) wanted) :
    setting.Performs env (do
      let reply ← liftM (env.perform function)
      env.catchPending
      next reply) wanted :=
  (Admits.ask function hoperands).liftThen fun reply hreply ↦
    (catchPending htrusts).andThen fun _ _ ↦ hnext reply hreply

/-- The error of a failed look-up owns nothing. -/
theorem throwWithCause (text : String) {wanted : α → Prop} :
    setting.Performs env (do throw (← env.withCause text)) wanted := by
  have hcause : setting.Admits (env.withCause text) fun error ↦ error.owned? = none := by
    refine (Admits.askPlainly .exceptionOccurred rfl).bind ?_
    rintro (_ | throwable) hanswer
    · exact Admits.done rfl
    · refine (Admits.askPlainly .exceptionClear rfl).bind fun _ _ ↦ ?_
      refine (callStringMethod _ _ hanswer.known).bind fun description _ ↦ ?_
      have hended : ∀ text, setting.Admits (do
          env.deleteLocal (some throwable)
          return Error.bridge text) fun error ↦ error.owned? = none :=
        fun _ ↦ (Admits.deleteLocal hanswer.knows).bind fun _ _ ↦ Admits.done rfl
      rcases description with error | _ | cause
      · exact (Admits.warn _).bind fun _ _ ↦ hended _
      · exact hended _
      · exact hended _
  exact hcause.liftThen fun _ hplain ↦ fail hplain

/-! ## Classes, methods and calls -/

theorem findClass (htrusts : setting.trusts env) (internalName : String) :
    setting.Performs env (env.findClass internalName) (setting.Holds env) := by
  refine (ended internalName).andThen fun name _ ↦ ?_
  refine askThenCatch htrusts (.findClass name) (fun _ hmem ↦ nomatch hmem) ?_
  rintro (_ | classObject) hanswer
  · exact failThen rfl
  · exact Admits.succeed hanswer.holds

theorem isInstanceOf {object classObject : Option Handle} (hobject : setting.Knows env object)
    (hclass : setting.Knows env classObject) :
    setting.Performs env (env.isInstanceOf object classObject) fun _ ↦ True := by
  refine (nonNull classObject _).andThen ?_
  rintro reference rfl
  refine Admits.lift ((Admits.ask (.isInstanceOf object reference) ?_).weaken fun _ _ ↦ trivial)
  intro handle hmem
  rcases List.mem_cons.1 hmem with rfl | hmem
  · exact knows_some.1 hclass
  · exact hobject handle (Option.mem_toList.1 hmem)

theorem isAssignableFrom {sub sup : Option Handle} (hsub : setting.Knows env sub)
    (hsup : setting.Knows env sup) :
    setting.Performs env (env.isAssignableFrom sub sup) fun _ ↦ True := by
  refine (nonNull sub _).andThen ?_
  rintro subClass rfl
  refine (nonNull sup _).andThen ?_
  rintro supClass rfl
  refine Admits.lift ((Admits.ask (.isAssignableFrom subClass supClass) ?_).weaken
    fun _ _ ↦ trivial)
  intro handle hmem
  rcases List.mem_cons.1 hmem with rfl | hmem
  · exact knows_some.1 hsub
  · cases List.mem_singleton.1 hmem
    exact knows_some.1 hsup

theorem findMethod {classObject : Option Handle} (hclass : setting.Knows env classObject)
    (name signature : String) (isStatic : Bool) :
    setting.Performs env (env.findMethod classObject name signature isStatic) fun _ ↦ True := by
  refine (nonNull classObject _).andThen ?_
  rintro reference rfl
  refine (ended name).andThen fun endedName _ ↦ (ended signature).andThen fun endedSignature _ ↦ ?_
  refine (Admits.askAbout (.getMethodId ..) rfl (knows_some.1 hclass)).liftThen ?_
  rintro (_ | method) -
  · exact throwWithCause _
  · exact Admits.succeed trivial

theorem registerNatives (htrusts : setting.trusts env) {classObject : Option Handle}
    (hclass : setting.Knows env classObject) (methods : List NativeMethod) :
    setting.Performs env (env.registerNatives classObject methods) fun _ ↦ True := by
  refine (nonNull classObject _).andThen ?_
  rintro reference rfl
  refine askThenCatch htrusts (.registerNatives reference methods) ?_ fun status _ ↦
    ofStatus status
  intro handle hmem
  cases List.mem_singleton.1 hmem
  exact knows_some.1 hclass

section

variable {receiver : Option Handle} {arguments : List Argument}

/-- A function that is asked with a known receiver and known arguments. -/
theorem askReceiver (function : Handle → EnvFunction) {place : String}
    {next : (object : Handle) → (function object).Reply → Fallible α} {wanted : α → Prop}
    (hoperands : ∀ object,
      (function object).operands = object :: arguments.filterMap Argument.handle?)
    (hreceiver : setting.Knows env receiver)
    (harguments : ∀ argument ∈ arguments, setting.Knows env argument.handle?)
    (hnext : ∀ object answer, setting.Owns env ((function object).answered answer) →
      setting.Performs env (next object answer) wanted) :
    setting.Performs env (do
      let object ← Fallible.nonNull receiver place
      let answer ← liftM (env.perform (function object))
      next object answer) wanted := by
  refine (nonNull receiver _).andThen ?_
  rintro object rfl
  refine (Admits.ask (function object) fun handle hmem ↦ ?_).liftThen (hnext object)
  rw [hoperands] at hmem
  rcases List.mem_cons.1 hmem with rfl | hmem
  · exact knows_some.1 hreceiver
  · obtain ⟨argument, hargument, hhandle⟩ := List.mem_filterMap.1 hmem
    exact harguments argument hargument handle hhandle

variable (htrusts : setting.trusts env) (hreceiver : setting.Knows env receiver)
  (harguments : ∀ argument ∈ arguments, setting.Knows env argument.handle?)

include htrusts hreceiver harguments

theorem callObject (method : MethodId) :
    setting.Performs env (env.callObject receiver method arguments) fun answer ↦
      ∀ present, answer = some present → setting.Holds env present :=
  askReceiver (.callObject · method arguments) (fun _ ↦ rfl) hreceiver harguments
    fun _ _ hanswer ↦ (catchPending htrusts).andThen fun _ _ ↦
      Admits.succeed (holds_ownNonNull hanswer)

theorem callStaticObject (method : MethodId) :
    setting.Performs env (env.callStaticObject receiver method arguments) fun answer ↦
      ∀ present, answer = some present → setting.Holds env present :=
  askReceiver (.callStaticObject · method arguments) (fun _ ↦ rfl) hreceiver harguments
    fun _ _ hanswer ↦ (catchPending htrusts).andThen fun _ _ ↦
      Admits.succeed (holds_ownNonNull hanswer)

theorem callVoid (method : MethodId) :
    setting.Performs env (env.callVoid receiver method arguments) fun _ ↦ True :=
  askReceiver (.callVoid · method arguments) (fun _ ↦ rfl) hreceiver harguments
    fun _ _ _ ↦ catchPending htrusts

theorem callStaticVoid (method : MethodId) :
    setting.Performs env (env.callStaticVoid receiver method arguments) fun _ ↦ True :=
  askReceiver (.callStaticVoid · method arguments) (fun _ ↦ rfl) hreceiver harguments
    fun _ _ _ ↦ catchPending htrusts

theorem callPrimitive (kind : Primitive) (method : MethodId) :
    setting.Performs env (env.callPrimitive kind receiver method arguments) fun _ ↦ True :=
  askReceiver (.callPrimitive kind · method arguments) (fun _ ↦ rfl) hreceiver harguments
    fun _ _ _ ↦ (catchPending htrusts).andThen fun _ _ ↦ Admits.succeed trivial

theorem newObject (constructor : MethodId) :
    setting.Performs env (env.newObject receiver constructor arguments) (setting.Holds env) := by
  refine askReceiver (.newObject · constructor arguments) (fun _ ↦ rfl) hreceiver harguments
    fun _ answer hanswer ↦ (catchPending htrusts).andThen fun _ _ ↦ ?_
  cases answer with
  | none => exact failThen rfl
  | some object => exact Admits.succeed hanswer.holds

end

/-! ## Strings, arrays and exceptions -/

theorem newString (htrusts : setting.trusts env) (content : String) :
    setting.Performs env (env.newString content) (setting.Holds env) := by
  refine askThenCatch htrusts (.newString _) (fun _ hmem ↦ nomatch hmem) ?_
  rintro (_ | string) hanswer
  · exact failThen rfl
  · exact Admits.succeed hanswer.holds

theorem getString (htrusts : setting.trusts env) {string : Option Handle}
    (hstring : setting.Knows env string) :
    setting.Performs env (env.getString string) fun _ ↦ True := by
  refine (nonNull string _).andThen ?_
  rintro handle rfl
  refine (Admits.readString (knows_some.1 hstring)).liftThen ?_
  rintro (_ | error | text) hplain
  · exact (catchPending htrusts).andThen fun _ _ ↦ fail rfl
  · exact fail (hplain error rfl)
  · exact Admits.succeed trivial

theorem arrayElement (htrusts : setting.trusts env) {array : Option Handle}
    (harray : setting.Knows env array) (index : Nat) :
    setting.Performs env (env.arrayElement array index) fun answer ↦
      ∀ present, answer = some present → setting.Holds env present := by
  refine (nonNull array _).andThen ?_
  rintro handle rfl
  refine askThenCatch htrusts (.getArrayElement handle _) ?_ fun element helement ↦
    Admits.succeed (holds_ownNonNull helement)
  intro operand hmem
  cases List.mem_singleton.1 hmem
  exact knows_some.1 harray

/-- An operation that makes a local reference and goes on in its scope. -/
theorem andScope {operation : Fallible LocalReference} {body : LocalReference → Fallible α}
    {wanted : α → Prop} (hoperation : setting.Performs env operation (setting.Holds env))
    (hbody : ∀ reference, setting.Holds env reference →
      setting.Performs env (body reference) wanted) :
    setting.Performs env (do
      let reference ← operation
      reference.scope (body reference)) wanted :=
  hoperation.andThen fun reference hholds ↦ Admits.scope hholds (hbody reference hholds)

theorem none_of_arguments :
    ∀ argument ∈ ([] : List Argument), setting.Knows env argument.handle? :=
  fun _ hmem ↦ nomatch hmem

theorem describe (htrusts : setting.trusts env) {object : Option Handle}
    (hobject : setting.Knows env object) :
    setting.Performs env (env.describe object) fun _ ↦ True := by
  unfold Env.describe
  split
  · exact Admits.succeed trivial
  · refine (findClass htrusts _).andScope fun classObject hclass ↦ ?_
    refine (findMethod hclass.knows _ _ _).andThen fun method _ ↦ ?_
    refine (callObject htrusts hobject none_of_arguments method).andThen ?_
    rintro (_ | string) hanswer
    · exact Admits.succeed trivial
    · have hstring := hanswer string rfl
      exact Admits.scope hstring (getString htrusts hstring.knows)

theorem className (htrusts : setting.trusts env) {classObject : Option Handle}
    (hclass : setting.Knows env classObject) :
    setting.Performs env (env.className classObject) fun _ ↦ True := by
  refine (findClass htrusts _).andScope fun metaclass hmetaclass ↦ ?_
  refine (findMethod hmetaclass.knows _ _ _).andThen fun method _ ↦ ?_
  refine (callObject htrusts hclass none_of_arguments method).andThen ?_
  rintro (_ | name) hanswer
  · exact fail rfl
  · have hname := hanswer name rfl
    exact Admits.scope hname (getString htrusts hname.knows)

theorem raiseNew (htrusts : setting.trusts env) (internalName message : String) :
    setting.Performs env (env.raiseNew internalName message) fun _ ↦ True := by
  refine (findClass htrusts _).andScope fun classObject hclass ↦ ?_
  refine (Admits.ask (.throwNew _ _) ?_).liftThen fun status _ ↦ ofStatus status
  exact fun handle hmem ↦ hclass.knows handle (Option.mem_toList.1 hmem)

/-! ## Values -/

theorem toObject (htrusts : setting.trusts env) {value : Value}
    (hvalue : ∀ reference, value = .object (some reference) → setting.Knows env reference.raw) :
    setting.Performs env (value.toObject env) fun _ ↦ True := by
  match value with
  | .void | .object none => exact Admits.succeed trivial
  | .object (some reference) =>
    change setting.Performs env (some <$> env.newLocal reference.raw) fun _ ↦ True
    rw [← bind_pure_comp]
    exact (newLocal (hvalue reference rfl)).andThen fun _ _ ↦ Admits.succeed trivial
  | .scalar content =>
    refine (findClass htrusts _).andScope fun wrapper hwrapper ↦ ?_
    refine (findMethod hwrapper.knows _ _ _).andThen fun valueOf _ ↦ ?_
    refine (callStaticObject htrusts hwrapper.knows ?_ valueOf).weaken ?_
    · intro argument hmem
      cases List.mem_singleton.1 hmem
      exact knows_none
    · rintro (error | answer) hends
      · exact hends
      · trivial

theorem unbox (htrusts : setting.trusts env) {object : Option Handle}
    (hobject : setting.Knows env object) (kind : Primitive) :
    setting.Performs env (env.unbox object kind) fun _ ↦ True := by
  refine (findClass htrusts _).andScope fun wrapper hwrapper ↦ ?_
  refine (isInstanceOf hobject hwrapper.knows).andThen fun isWrapper _ ↦ ?_
  split
  · refine (findMethod hwrapper.knows _ _ _).andThen fun method _ ↦ ?_
    exact callPrimitive htrusts hobject none_of_arguments kind method
  · exact fail rfl

end Performs

end Setting

end JavaInterop
