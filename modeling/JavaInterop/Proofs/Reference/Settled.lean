import JavaInterop.Proofs.Lifecycle.Rules
import JavaInterop.Proofs.Reference.Inspection

/-!
# Every operation keeps the balance

Once an operation is over, what its machine has lent out has grown by exactly what the result owns,
and by the classes that were put into the cache.  If it failed, the error owns at most one global
reference, and dropping it gives that one back.

All operations are started without a pending exception, except for the two that take one from the
machine.
-/

namespace JavaInterop

variable [Host] {α β : Type} {env : Env} {vacant : Option DescriptorKey} {calm calmAfter : Bool}
  {share : Multiset Resource}

/-! ## Basic operations -/

theorem Settles.ended (text : String) : Settles env vacant calm (Fallible.ended text) calm := by
  unfold Fallible.ended
  cases Text.CString.ofText text with
  | ok bytes => exact Balances.succeed trivial rfl
  | error position => exact Balances.fail rfl

theorem Settles.ofStatus [Owner α] (status : Except Status α)
    (howned : ∀ value : α, owned value = 0 ∧ IssuedBy env value) :
    Settles env vacant calm (Fallible.ofStatus status .callFailed) calm := by
  cases status with
  | ok value => exact Balances.succeed (howned value).2 (howned value).1.symm
  | error code => exact Balances.fail rfl

theorem Settles.findClass (internalName : String) :
    Settles env vacant true (env.findClass internalName) true := by
  refine (Settles.ended internalName).andThen fun name _ ↦ ?_
  refine Settles.performThenCatch rfl rfl fun answer ↦ ?_
  cases answer with
  | none => exact Balances.failThen rfl
  | some classObject => exact Balances.succeed rfl rfl

theorem Settles.findMethod (classObject : Option Handle) (name signature : String)
    (isStatic : Bool) :
    Settles env vacant calm (env.findMethod classObject name signature isStatic) calm := by
  refine (Settles.nonNull classObject _).andThen fun classObject _ ↦ ?_
  refine (Settles.ended name).andThen fun endedName _ ↦ ?_
  refine (Settles.ended signature).andThen fun endedSignature _ ↦ ?_
  refine Balances.askLift rfl rfl ?_ ?_
  · rintro reply hfails -
    rw [show reply = none from hfails]
    exact Settles.throwWithCause _
  · rintro (_ | method)
    · exact Settles.throwWithCause _
    · exact Balances.succeed trivial rfl

theorem Settles.registerNatives (classObject : Option Handle) (methods : List NativeMethod) :
    Settles env vacant true (env.registerNatives classObject methods) true := by
  refine (Settles.nonNull classObject _).andThen fun classObject _ ↦ ?_
  refine Settles.performThenCatch rfl rfl fun answer ↦ ?_
  exact Settles.ofStatus answer fun _ ↦ ⟨rfl, trivial⟩

/-- A possibly null answer is owned by the result. -/
theorem Balances.ownNonNull (answer : Option Handle) :
    Balances env vacant (Opening calm (localShare answer))
      (pure (env.ownNonNull answer) : Fallible (Option LocalReference)).run
      (HandsOver env calm) := by
  cases answer with
  | none => exact Balances.succeed (fun _ hpresent ↦ nomatch hpresent) rfl
  | some handle =>
    refine Balances.succeed ?_ rfl
    rintro present ⟨rfl⟩
    rfl

theorem Settles.callObject (receiver : Option Handle) (method : MethodId)
    (arguments : List Argument) :
    Settles env vacant true (env.callObject receiver method arguments) true := by
  refine (Settles.nonNull receiver _).andThen fun receiver _ ↦ ?_
  exact Settles.performThenCatch rfl rfl fun answer ↦ Balances.ownNonNull answer

theorem Settles.callVoid (receiver : Option Handle) (method : MethodId)
    (arguments : List Argument) :
    Settles env vacant calm (env.callVoid receiver method arguments) true := by
  refine (Settles.nonNull receiver _).andThen fun receiver _ ↦ ?_
  exact Balances.askLift rfl rfl (fun _ _ _ ↦ Settles.catchPending) fun _ ↦ Settles.catchPending

theorem Settles.callPrimitive (kind : Primitive) (receiver : Option Handle) (method : MethodId)
    (arguments : List Argument) :
    Settles env vacant calm (env.callPrimitive kind receiver method arguments) true := by
  refine (Settles.nonNull receiver _).andThen fun receiver _ ↦ ?_
  have hcaught : ∀ calm' answer, Settles env vacant calm' (do
      env.catchPending
      return Scalar.of kind answer) true :=
    fun _ answer ↦ Settles.catchPending.andThen fun _ _ ↦ Balances.succeed trivial rfl
  exact Balances.askLift rfl rfl (fun answer _ _ ↦ hcaught false answer)
    fun answer ↦ hcaught calm answer

theorem Settles.callStaticObject (classObject : Option Handle) (method : MethodId)
    (arguments : List Argument) :
    Settles env vacant true (env.callStaticObject classObject method arguments) true := by
  refine (Settles.nonNull classObject _).andThen fun classObject _ ↦ ?_
  exact Settles.performThenCatch rfl rfl fun answer ↦ Balances.ownNonNull answer

theorem Settles.callStaticVoid (classObject : Option Handle) (method : MethodId)
    (arguments : List Argument) :
    Settles env vacant calm (env.callStaticVoid classObject method arguments) true := by
  refine (Settles.nonNull classObject _).andThen fun classObject _ ↦ ?_
  exact Balances.askLift rfl rfl (fun _ _ _ ↦ Settles.catchPending) fun _ ↦ Settles.catchPending

theorem Settles.newObject (classObject : Option Handle) (constructor : MethodId)
    (arguments : List Argument) :
    Settles env vacant true (env.newObject classObject constructor arguments) true := by
  refine (Settles.nonNull classObject _).andThen fun classObject _ ↦ ?_
  refine Settles.performThenCatch rfl rfl fun answer ↦ ?_
  cases answer with
  | none => exact Balances.failThen rfl
  | some object => exact Balances.succeed rfl rfl

theorem Settles.newString (content : String) :
    Settles env vacant true (env.newString content) true := by
  refine Settles.performThenCatch rfl rfl fun answer ↦ ?_
  cases answer with
  | none => exact Balances.failThen rfl
  | some string => exact Balances.succeed rfl rfl

theorem Settles.getString (string : Option Handle) :
    Settles env vacant true (env.getString string) true := by
  refine (Settles.nonNull string _).andThen fun string _ ↦ ?_
  refine Balances.liftThen ((Balances.readString string).certain (always_readString string)) ?_
  rintro (_ | error | text)
  · refine Balances.given fun _ ↦ Settles.catchPending.andThen fun _ _ ↦ Balances.fail rfl
  · exact Balances.given fun hplain ↦ Balances.fail (hplain error rfl)
  · exact Balances.given fun _ ↦ Balances.succeed trivial rfl

theorem Settles.arrayElement (array : Option Handle) (index : Nat) :
    Settles env vacant true (env.arrayElement array index) true := by
  refine (Settles.nonNull array _).andThen fun array _ ↦ ?_
  exact Settles.performThenCatch rfl rfl fun element ↦ Balances.ownNonNull element

/-! ## Operations with scopes -/

/-- An operation that makes a local reference and goes on in its scope. -/
theorem Settles.andScope [Owner α] {operation : Fallible LocalReference}
    {body : LocalReference → Fallible α} {calmMiddle : Bool}
    (hoperation : Settles env vacant calm operation calmMiddle)
    (hbody : ∀ reference, Settles env vacant calmMiddle (body reference) calmAfter) :
    Settles env vacant calm (do
      let reference ← operation
      reference.scope (body reference)) calmAfter :=
  hoperation.andThen fun reference hissued ↦ Balances.scope hissued rfl (hbody reference)

theorem Settles.describe (object : Option Handle) :
    Settles env vacant true (env.describe object) true := by
  unfold Env.describe
  split
  · exact Balances.succeed trivial rfl
  · refine (Settles.findClass _).andScope fun classObject ↦ ?_
    refine (Settles.findMethod _ _ _ _).andThen fun method _ ↦ ?_
    refine (Settles.callObject _ _ _).andThen ?_
    rintro (_ | string) hissued
    · exact Balances.succeed trivial rfl
    · exact Balances.scope (hissued string rfl) rfl (Settles.getString _)

theorem Settles.className (classObject : Option Handle) :
    Settles env vacant true (env.className classObject) true := by
  refine (Settles.findClass _).andScope fun metaclass ↦ ?_
  refine (Settles.findMethod _ _ _ _).andThen fun method _ ↦ ?_
  refine (Settles.callObject _ _ _).andThen ?_
  rintro (_ | name) hissued
  · exact Balances.fail rfl
  · exact Balances.scope (hissued name rfl) rfl (Settles.getString _)

/-- A function that is only asked a question. -/
theorem Settles.ask {function : EnvFunction} [Owner function.Reply]
    (hsafe : function.isSafeWhilePending = false) (hreturned : function.returned = none)
    (hbrought : ∀ reply, function.brought reply = 0)
    (howned : ∀ reply : function.Reply, owned reply = 0 ∧ IssuedBy env reply) :
    Settles env vacant calm (liftM (env.perform function)) false := by
  refine Balances.map ((Balances.ask hsafe hreturned).weaken (fun _ _ hholds ↦ hholds) ?_)
  rintro reply pending own ⟨hown, -⟩
  refine ⟨(howned reply).2, fun hyes ↦ absurd hyes Bool.false_ne_true, ?_⟩
  change own = owned reply
  rw [hown, hbrought, (howned reply).1, add_zero]

theorem Settles.raiseNew (internalName message : String) :
    Settles env vacant true (env.raiseNew internalName message) false := by
  refine (Settles.findClass _).andScope fun classObject ↦ ?_
  have hstatus : ∀ calm' (status : Except Status Unit),
      Settles env vacant calm' (Fallible.ofStatus status .callFailed) false :=
    fun _ status ↦ Balances.anyway (Settles.ofStatus status fun _ ↦ ⟨rfl, trivial⟩)
  exact Balances.askLift rfl rfl (fun status _ _ ↦ hstatus false status)
    fun status ↦ hstatus true status

theorem Settles.isInstanceOf (object classObject : Option Handle) :
    Settles env vacant calm (env.isInstanceOf object classObject) false :=
  (Settles.nonNull classObject _).andThen fun _ _ ↦
    Settles.ask rfl rfl (fun _ ↦ rfl) fun _ ↦ ⟨rfl, trivial⟩

theorem Settles.isAssignableFrom (sub sup : Option Handle) :
    Settles env vacant calm (env.isAssignableFrom sub sup) false :=
  (Settles.nonNull sub _).andThen fun _ _ ↦ (Settles.nonNull sup _).andThen fun _ _ ↦
    Settles.ask rfl rfl (fun _ ↦ rfl) fun _ ↦ ⟨rfl, trivial⟩

/-! ## Values -/

theorem Settles.newLocal (object : Option Handle) :
    Settles env vacant calm (env.newLocal object) calm := by
  refine (Settles.nonNull object _).andThen fun handle _ ↦ ?_
  refine Balances.askLift rfl rfl ?_ ?_
  · rintro reply hfails -
    rw [show reply = none from hfails]
    exact Balances.fail rfl
  · rintro (_ | reference)
    · exact Balances.fail rfl
    · exact Balances.succeed rfl rfl

/-- Only scalars need that nothing is pending, since they are boxed by calls. -/
theorem Settles.toObject (value : Value)
    (hcalm : ∀ content, value = .scalar content → calm = true) :
    Settles env vacant calm (value.toObject env) calm := by
  have hnone : Settles env vacant calm (pure none : Fallible (Option LocalReference)) calm :=
    Balances.succeed (fun _ hpresent ↦ nomatch hpresent) rfl
  match value with
  | .void | .object none => exact hnone
  | .object (some reference) =>
    have hnew : Settles env vacant calm (env.newLocal reference.raw) calm := Settles.newLocal _
    change Settles env vacant calm (some <$> env.newLocal reference.raw) calm
    rw [← bind_pure_comp]
    refine hnew.andThen fun object hissued ↦ Balances.succeed ?_ rfl
    rintro present ⟨rfl⟩
    exact hissued
  | .scalar content =>
    obtain rfl : calm = true := hcalm content rfl
    refine (Settles.findClass _).andScope fun wrapper ↦ ?_
    refine (Settles.findMethod _ _ _ _).andThen fun valueOf _ ↦ ?_
    exact Settles.callStaticObject _ _ _

theorem Settles.unbox (object : Option Handle) (kind : Primitive) :
    Settles env vacant true (env.unbox object kind) true := by
  refine (Settles.findClass _).andScope fun wrapper ↦ ?_
  refine (Settles.isInstanceOf _ _).andThen fun isWrapper _ ↦ ?_
  split
  · refine (Settles.findMethod _ _ _ _).andThen fun method _ ↦ ?_
    exact Settles.callPrimitive _ _ _ _
  · exact Balances.fail rfl

/-! ## Cached classes -/

theorem Settles.loadThrough (descriptor : ClassDescriptor) (loader : GlobalReference) :
    Settles env vacant true (descriptor.loadThrough env loader) true := by
  refine (Settles.findClass _).andScope fun loaderClass ↦ ?_
  refine (Settles.findMethod _ _ _ _).andThen fun loadClass _ ↦ ?_
  refine (Settles.newString _).andScope fun name ↦ ?_
  refine (Settles.callObject _ _ _).andThen ?_
  rintro (_ | classObject) hissued
  · exact Balances.fail rfl
  · exact Balances.succeed (hissued classObject rfl) rfl

theorem Settles.resolveClass (descriptor : ClassDescriptor) :
    Settles env vacant true (descriptor.resolve env) true := by
  have hloader :
      Balances env vacant (Opening true 0) currentClassLoader fun _ ↦ Opening true 0 := by
    refine Balances.current.bind fun running ↦ ?_
    refine (Balances.update (harmless_setThread _ _)).bind fun _ ↦ ?_
    exact Balances.state.bind fun bridge ↦ Balances.done fun _ _ hholds ↦ hholds
  refine Balances.liftThen hloader ?_
  rintro (_ | loader)
  · exact Settles.findClass _
  · exact Settles.loadThrough descriptor loader

open Program (Ensures)

/-- A piece of code that puts a class into a vacant place of the cache. -/
def Fills (env : Env) (key : DescriptorKey) (pre : Holding) (program : Program α)
    (post : α → Holding) : Prop :=
  ∀ thread (first : Moment Account) share rest, Ready env (some key) first.bridge →
    pre first.outside.pending share → env.Lent share → first.outside.live = share + rest →
    Ensures (Exchange.KeepsAccount env) thread program first fun _ result last ↦
      Closes env none first.bridge rest (post result) last

theorem Ready.forget {key : Option DescriptorKey} {bridge : Bridge}
    (hready : Ready env key bridge) : Ready env none bridge :=
  ⟨hready.serves, fun _ hkey ↦ nomatch hkey⟩

theorem Fills.bind {key : DescriptorKey} {pre : Holding} {program : Program α}
    {middle : α → Holding} {next : α → Program β} {post : β → Holding}
    (hprogram : Balances env (some key) pre program middle)
    (hnext : ∀ value, Fills env key (middle value) (next value) post) :
    Fills env key pre (program >>= next) post := by
  intro thread first share rest hready hpre hlent hlive
  rw [Program.ensures_bind]
  refine (hprogram thread first share rest hready hpre hlent hlive).weaken ?_
  rintro begun value middle ⟨hready', share', added, hshare', hlent', hkept', hlive'⟩
  have hrest := hnext value thread middle share' (added + rest) hready' hshare' hlent' hlive'
  exact hrest.weaken fun exchanges result last hcloses ↦ hcloses.trans hkept'

theorem Fills.done {key : DescriptorKey} {pre : Holding} {result : α} {post : α → Holding}
    (hpost : ∀ pending share, pre pending share → post result pending share) :
    Fills env key pre (pure result) post := by
  intro thread first share rest hready hpre hlent hlive
  refine (Balances.done hpost thread first share rest hready hpre hlent hlive).weaken ?_
  rintro exchanges value last ⟨hready', hcloses⟩
  exact ⟨hready'.forget, hcloses⟩

/-- Dropping a reference that cannot be used does nothing. -/
theorem ensures_drop_of_not_usable {ω : Type} {thread : NativeThread} {first : Moment ω}
    {law : Exchange ω → Prop} {reference : GlobalReference}
    (husable : first.bridge.isUsable reference = false) :
    Ensures law thread reference.drop first fun exchanges _ last ↦
      exchanges = [] ∧ last = first := by
  rw [GlobalReference.ensures_drop_iff]
  cases hraw : reference.raw with
  | none => exact ⟨rfl, rfl⟩
  | some handle =>
    have hgone : first.bridge.registered? reference.lifecycle reference.generation = none := by
      simpa [Bridge.isUsable, Bridge.isLive, GlobalReference.isReleased, hraw] using husable
    dsimp only
    rw [LifecycleId.ensures_deleteGlobal_iff, hgone]
    exact ⟨rfl, rfl⟩

/-- The new reference goes into the cache.  What was there before could not be used, so there is
nothing to give back. -/
theorem Fills.keep (descriptor : ClassDescriptor) {reference : GlobalReference}
    (classObject : LocalReference) (hissued : IssuedBy env reference)
    (hclass : IssuedBy env classObject) :
    Fills env descriptor.key (Opening true (owned reference + owned classObject))
      (do
        match ← descriptor.keep reference with
        | some previous => previous.drop
        | none => pure ()
        return classObject : Fallible LocalReference).run (HandsOver env true) := by
  rintro thread first _ rest hready ⟨hcalm, rfl⟩ hlent hlive
  have hvacant := hready.vacant _ rfl
  let last : Moment Account := ⟨{ first.bridge with
    classes := first.bridge.classes.insert descriptor.key reference }, first.outside⟩
  have hcloses : Closes env none first.bridge rest (HandsOver env true (.ok classObject)) last := by
    refine ⟨⟨hready.serves, fun _ hkey ↦ nomatch hkey⟩, owned classObject, owned reference,
      ⟨hclass, fun _ ↦ hcalm rfl, rfl⟩, hlent.right, ?_, ?_⟩
    · have hshare : env.shareOf reference = owned reference := if_pos hissued
      exact (kept_insert reference hready.serves hvacant).trans (by rw [hshare])
    · change first.outside.live = _
      rw [hlive, add_comm (owned reference), add_assoc]
  unfold ClassDescriptor.keep
  rw [Fallible.run_lift_bind]
  simp only [bind_assoc, pure_bind]
  rw [Program.ensures_bind, Program.ensures_state, Program.ensures_bind, Program.ensures_update]
  cases hfind : first.bridge.classes.find? descriptor.key with
  | none => exact Program.ensures_pure.2 hcloses
  | some previous =>
    have hunusable : last.bridge.isUsable previous = false := hvacant previous hfind
    dsimp only
    rw [Fallible.run_lift_bind, Program.ensures_bind]
    refine (ensures_drop_of_not_usable hunusable).weaken ?_
    rintro exchanges result _ ⟨-, rfl⟩
    exact Program.ensures_pure.2 hcloses

/-- The situation in the middle of a look-up: a reference for the cache besides the class. -/
def Doubles (env : Env) (classObject : LocalReference) (result : Except Error GlobalReference) :
    Holding := fun pending own ↦
  IssuedBy env result ∧ Opening result.isOk (owned result +
    if result.isOk then owned classObject else 0) pending own

/-- If there is no reference for the cache, the class is given back. -/
theorem Balances.newGlobalOrDrop {classObject : LocalReference}
    (hissued : IssuedBy env classObject) :
    Balances env vacant (Opening true (owned classObject))
      ((env.newGlobal classObject.raw).mapFailure fun error ↦ do
        classObject.drop
        return error).run (Doubles env classObject) := by
  refine Balances.bind (Settles.newGlobal _).aside ?_
  rintro (error | reference) thread first own rest hready ⟨hresult, hholds⟩
  · have hdrop : Balances env vacant (Opening false (owned classObject + owned error))
        classObject.drop fun _ ↦ Opening false (owned error) := by
      unfold LocalReference.drop
      rw [show classObject.env = env from hissued]
      exact Balances.deleteLocal classObject.raw
    have hheld : Opening false (owned classObject + owned error) first.outside.pending own :=
      ⟨fun hyes ↦ absurd hyes Bool.false_ne_true, hholds.2.trans (add_comm _ _)⟩
    refine Balances.map (hdrop.bind fun _ ↦ Balances.done ?_) thread first own rest hready hheld
    exact fun pending own' hholds' ↦ ⟨hresult, hholds'.1, hholds'.2.trans (add_zero _).symm⟩
  · exact Balances.done (fun pending own' hholds' ↦ ⟨hresult, hholds'⟩) thread first own rest hready
      hholds

theorem Settles.classOf (descriptor : ClassDescriptor) :
    Settles env none true (descriptor.find env) true := by
  intro thread first share rest hready hpre hlent hlive
  unfold ClassDescriptor.find
  rw [Fallible.run_lift_bind, Program.ensures_bind, Program.ensures_state]
  split
  · exact Settles.newLocal _ thread first share rest hready hpre hlent hlive
  · rename_i hnone
    have hready' : Ready env (some descriptor.key) first.bridge := by
      refine ⟨hready.serves, ?_⟩
      rintro key ⟨rfl⟩ reference hfind
      simpa [hfind] using hnone
    refine Fills.bind (Settles.resolveClass descriptor) ?_ thread first share rest hready' hpre
      hlent hlive
    rintro (error | classObject)
    · exact Fills.done fun _ _ hholds ↦ hholds
    · rintro thread' first' own rest' hready'' ⟨hissued, hholds⟩
      refine Fills.bind (Balances.newGlobalOrDrop hissued) ?_ thread' first' own rest' hready''
        hholds
      rintro (error | reference)
      · refine Fills.done ?_
        rintro pending own' ⟨herror, hholds'⟩
        refine ⟨herror, hholds'.1, hholds'.2.trans (add_zero _)⟩
      · rintro thread'' first'' own'' rest'' hready''' ⟨hreference, hholds'⟩
        exact Fills.keep descriptor classObject hreference hissued thread'' first'' own'' rest''
          hready''' hholds'

theorem Settles.isInstance (type : ProxyType) (object : Option Handle) :
    Settles env none true (type.isInstance env object) false := by
  unfold ProxyType.isInstance
  split
  · exact Balances.anyway (Balances.succeed trivial rfl)
  · exact (Settles.classOf _).andScope fun classObject ↦ Settles.isInstanceOf _ _

theorem Settles.cast (type : ProxyType) (object : Option Handle) :
    Settles env none true (type.cast env object) false := by
  refine (Settles.isInstance type object).andThen fun isInstance _ ↦ ?_
  split
  · refine (Settles.newGlobal object).andThen fun reference hissued ↦ ?_
    exact Balances.succeed hissued rfl
  · exact Balances.fail rfl

theorem Settles.isAssignable (sub sup : ProxyType) :
    Settles env none true (sub.isAssignable sup env) false := by
  refine (Settles.classOf _).andScope fun subClass ↦ ?_
  exact (Settles.classOf _).andScope fun supClass ↦ Settles.isAssignableFrom _ _

/-! ## Implementing interfaces -/

omit [Host] in
theorem nativeMethod_cases (name signature : String) (function : NativeFunction) :
    (∃ method, NativeMethod.of name signature function = .ok method) ∨
      ∃ position, NativeMethod.of name signature function = .error (.zeroInText position) := by
  unfold NativeMethod.of
  dsimp only
  cases Text.CString.ofText name with
  | error position => exact .inr ⟨position, rfl⟩
  | ok name =>
    cases Text.CString.ofText signature with
    | error position => exact .inr ⟨position, rfl⟩
    | ok signature => exact .inl ⟨_, rfl⟩

/-- Making a native method ready to be bound either works or fails without holding anything. -/
theorem Settles.nativeMethod (name signature : String) (function : NativeFunction) :
    Settles env vacant calm (ExceptT.mk (pure (NativeMethod.of name signature function))) calm := by
  rcases nativeMethod_cases name signature function with ⟨method, hmethod⟩ | ⟨position, hmethod⟩
  · rw [hmethod]
    exact Balances.succeed trivial rfl
  · rw [hmethod]
    exact Balances.fail rfl

theorem Settles.lift {program : Program Unit}
    (hprogram : Balances env vacant (Opening calm 0) program fun _ ↦ Opening calm 0) :
    Settles env vacant calm (liftM program : Fallible Unit) calm := by
  refine Balances.map (hprogram.weaken (fun _ _ hholds ↦ hholds) ?_)
  rintro result pending own ⟨hcalm, hown⟩
  exact ⟨trivial, fun hyes ↦ hcalm (Bool.and_eq_true_iff.1 hyes).1, hown⟩

theorem Settles.bindForwarding : Settles env vacant true (bindForwarding env) true := by
  refine Balances.liftThen Balances.state fun bridge ↦ ?_
  split
  · exact Balances.succeed trivial rfl
  · refine (Settles.findClass _).andScope fun classObject ↦ ?_
    refine (Settles.nativeMethod _ _ _).andThen fun method _ ↦ ?_
    refine (Balances.withReason _ (Settles.registerNatives _ _)).andThen fun _ _ ↦ ?_
    exact Settles.lift (Balances.update ⟨fun _ ↦ rfl, fun _ _ _ ↦ rfl⟩)

theorem Settles.newBuilder (interface : String) :
    Settles env vacant true (Builder.new env interface) true := by
  refine Settles.bindForwarding.andThen fun _ _ ↦ ?_
  refine (Settles.findClass _).andScope fun classObject ↦ ?_
  refine (Settles.findMethod _ _ _ _).andThen fun registerMethod _ ↦ ?_
  refine (Settles.findMethod _ _ _ _).andThen fun createMethod _ ↦ ?_
  refine (Settles.findMethod _ _ _ _).andThen fun constructor _ ↦ ?_
  refine (Settles.newString _).andScope fun name ↦ ?_
  refine Settles.andScope (Balances.withReason _ (Settles.newObject _ _ _)) fun object ↦ ?_
  refine (Settles.newGlobal _).andThen fun invocation hissued ↦ ?_
  have htable : Balances env vacant (Opening true (owned invocation)) (newTable env.lifecycle)
      fun _ ↦ Opening true (owned invocation) := by
    refine Balances.state.bind fun bridge ↦ ?_
    refine (Balances.update ?_).bind fun _ ↦ Balances.done fun _ _ hholds ↦ hholds
    exact ⟨fun _ ↦ rfl, fun _ _ _ ↦ rfl⟩
  exact Balances.liftThen htable fun table ↦ Balances.succeed hissued rfl

theorem harmless_push (builder : Builder) (callback : Host.Callback) :
    Harmless fun bridge ↦ match bridge.tables.find? builder.table with
      | some table =>
        let grown := { table with callbacks := table.callbacks.push callback }
        { bridge with tables := bridge.tables.insert builder.table grown }
      | none => bridge := by
  constructor
  · intro bridge
    dsimp only
    split <;> rfl
  · intro bridge id generation
    dsimp only
    split <;> rfl

theorem Settles.registerCallback (builder : Builder) (name : String) (callback : Host.Callback) :
    Settles env vacant true (builder.register env name callback) true := by
  have hsize : Balances env vacant (Opening true 0) builder.size fun _ ↦ Opening true 0 :=
    Balances.state.bind fun bridge ↦ Balances.done fun _ _ hholds ↦ hholds
  refine Balances.liftThen hsize fun index ↦ ?_
  refine (Settles.newString _).andScope fun javaName ↦ ?_
  refine (Balances.withReason _ (Settles.callVoid _ _ _)).andThen fun _ _ ↦ ?_
  exact Settles.lift (Balances.update (harmless_push builder callback))

theorem Settles.instantiate (builder : Builder) :
    Settles env vacant true (builder.instantiate env) true := by
  refine (Balances.withReason _ (Settles.callObject _ _ _)).andThen ?_
  rintro (_ | object) hissued
  · exact Balances.fail rfl
  · exact Balances.succeed (hissued object rfl) rfl

theorem Settles.build (builder : Builder) (type : ProxyType) :
    Settles env none true (builder.build env type) false := by
  refine (Settles.instantiate builder).andScope fun object ↦ ?_
  refine (Settles.isInstance _ _).andThen fun isInstance _ ↦ ?_
  split
  · refine (Settles.newGlobal _).andThen fun reference hissued ↦ ?_
    exact Balances.succeed hissued rfl
  · exact Balances.fail rfl

theorem Settles.registerShutdownHook :
    Settles env vacant true (registerShutdownHook env) true := by
  refine (Settles.findClass _).andScope fun classObject ↦ ?_
  refine (Settles.nativeMethod _ _ _).andThen fun method _ ↦ ?_
  refine (Balances.withReason _ (Settles.registerNatives _ _)).andThen fun _ _ ↦ ?_
  refine (Settles.findMethod _ _ _ _).andThen fun register _ ↦ ?_
  refine (Balances.withReason _ (Settles.callStaticVoid _ _ _)).andThen fun _ _ ↦ ?_
  exact Settles.lift (Balances.update ⟨fun _ ↦ rfl, fun _ _ _ ↦ rfl⟩)

/-! ## All operations -/

theorem Settles.forget [Owner α] {operation : Fallible α} {calmLast : Bool}
    (hoperation : Settles env vacant calm operation calmLast) :
    Settles env vacant calm operation false := by
  refine Balances.weaken hoperation (fun _ _ hholds ↦ hholds) ?_
  rintro result pending own ⟨hissued, -, hown⟩
  exact ⟨hissued, fun hyes ↦ absurd hyes Bool.false_ne_true, hown⟩

namespace Operation

instance (operation : Operation) : Owner operation.Result :=
  match operation with
  | findClass _ | newObject .. | newString _ | classOf _ | instantiate _ =>
    inferInstanceAs (Owner LocalReference)
  | callObject .. | callStaticObject .. | arrayElement .. | toObject _ =>
    inferInstanceAs (Owner (Option LocalReference))
  | findMethod .. => inferInstanceAs (Owner MethodId)
  | callPrimitive .. | unbox .. => inferInstanceAs (Owner Scalar)
  | getString _ | describe _ | className _ => inferInstanceAs (Owner String)
  | isInstance .. | isAssignable .. => inferInstanceAs (Owner Bool)
  | cast .. | build .. => inferInstanceAs (Owner Proxy)
  | newBuilder _ => inferInstanceAs (Owner Builder)
  | registerNatives .. | callVoid .. | callStaticVoid .. | raiseNew .. | registerCallback ..
  | registerShutdownHook | catchWith _ => inferInstanceAs (Owner Unit)
  | withCause _ => inferInstanceAs (Owner Empty)

theorem settles (operation : Operation) :
    Settles env none true (operation.program env) false := by
  cases operation with
  | findClass => exact (Settles.findClass _).forget
  | findMethod => exact (Settles.findMethod _ _ _ _).forget
  | registerNatives => exact (Settles.registerNatives _ _).forget
  | callObject => exact (Settles.callObject _ _ _).forget
  | callVoid => exact (Settles.callVoid _ _ _).forget
  | callPrimitive => exact (Settles.callPrimitive _ _ _ _).forget
  | callStaticObject => exact (Settles.callStaticObject _ _ _).forget
  | callStaticVoid => exact (Settles.callStaticVoid _ _ _).forget
  | newObject => exact (Settles.newObject _ _ _).forget
  | newString => exact (Settles.newString _).forget
  | getString => exact (Settles.getString _).forget
  | arrayElement => exact (Settles.arrayElement _ _).forget
  | describe => exact (Settles.describe _).forget
  | className => exact (Settles.className _).forget
  | raiseNew => exact Settles.raiseNew _ _
  | toObject => exact (Settles.toObject _ fun _ _ ↦ rfl).forget
  | unbox => exact (Settles.unbox _ _).forget
  | classOf => exact (Settles.classOf _).forget
  | isInstance => exact Settles.isInstance _ _
  | cast => exact Settles.cast _ _
  | isAssignable => exact Settles.isAssignable _ _
  | newBuilder => exact (Settles.newBuilder _).forget
  | registerCallback => exact (Settles.registerCallback _ _ _).forget
  | instantiate => exact (Settles.instantiate _).forget
  | build => exact Settles.build _ _
  | registerShutdownHook => exact Settles.registerShutdownHook.forget
  | catchWith => exact (Settles.catchWith _).forget
  | withCause => exact Settles.throwWithCause _

theorem settles_of_isCatch {operation : Operation} (hcatch : operation.IsCatch) :
    Settles env none false (operation.program env) false := by
  cases operation with
  | catchWith => exact (Settles.catchWith _).forget
  | withCause => exact Settles.throwWithCause _
  | _ => exact hcatch.elim

/-- An operation whose error, if it fails, is dropped. -/
def conclude (operation : Operation) (env : Env) : Program (Except Error operation.Result) := do
  let result ← (operation.program env).run
  match result with
  | .error error => error.drop
  | .ok _ => pure ()
  return result

/-- What an operation has gained for whoever called it. -/
def gain {operation : Operation} (result : Except Error operation.Result) : Multiset Resource :=
  match result with
  | .ok value => owned value
  | .error _ => 0

theorem balances_conclude {operation : Operation} {calm : Bool}
    (hoperation : Settles env none calm (operation.program env) false) :
    Balances env none (Opening calm 0) (operation.conclude env)
      fun result _ own ↦ own = gain result := by
  refine hoperation.bind ?_
  rintro (error | value) thread first own rest hready ⟨hissued, hholds⟩
  · have hdrop : Balances env none (Opening false (owned error)) error.drop
        fun _ ↦ Opening false 0 := Balances.dropError hissued
    refine hdrop.bind (fun _ ↦ Balances.done ?_) thread first own rest hready hholds
    exact fun pending own' hholds' ↦ hholds'.2
  · refine Balances.done ?_ thread first own rest hready hholds
    exact fun pending own' hholds' ↦ hholds'.2

/-- Once an operation is over and its error, if there is one, is dropped, the machine has lent out
what it had lent out before, what the result owns, and the classes that were added to the cache. -/
theorem keeps_balance {operation : Operation} {thread : NativeThread}
    {first last : Moment Account} {exchanges : List (Exchange Account)}
    {result : Except Error operation.Result} (hserves : first.bridge.Serves env)
    (hstart : first.outside.pending = true → operation.IsCatch)
    (hrun : (operation.conclude env).Run thread first exchanges result last)
    (hlaw : ∀ exchange ∈ exchanges, exchange.KeepsAccount env) :
    ∃ added, last.bridge.kept env = first.bridge.kept env + added ∧
      last.outside.live = gain result + (added + first.outside.live) := by
  have hready : Ready env none first.bridge := ⟨hserves, fun _ hkey ↦ nomatch hkey⟩
  have hlent : env.Lent 0 := fun resource hmem ↦ absurd hmem (Multiset.notMem_zero resource)
  have hcloses : Closes env none first.bridge first.outside.live
      (fun _ own ↦ own = gain result) last := by
    cases hfirst : first.outside.pending with
    | false =>
      exact balances_conclude (settles operation) thread first 0 _ hready ⟨fun _ ↦ hfirst, rfl⟩
        hlent (zero_add _).symm exchanges result last hrun hlaw
    | true =>
      exact balances_conclude (settles_of_isCatch (hstart hfirst)) thread first 0 _ hready
        ⟨fun hyes ↦ absurd hyes Bool.false_ne_true, rfl⟩ hlent (zero_add _).symm exchanges result
        last hrun hlaw
  obtain ⟨-, share, added, rfl, -, hkept, hlive⟩ := hcloses
  exact ⟨added, hkept, hlive⟩

end Operation

/-! ## Runs that end with an error -/

namespace Sample

/-- A machine that keeps account of a pending exception and of what it has lent out, and raises an
exception in the functions that are wanted to.  Otherwise it answers as it is told. -/
def lending (culprit : EnvFunction → Bool) (answer : (request : Call) → request.Reply) :
    Program.Machine Account
  | .env pointer function, moment =>
    let reply : function.Reply := match function with
      | .exceptionCheck => moment.outside.pending
      | .exceptionOccurred => if moment.outside.pending then some ⟨pointer.vm, 1⟩ else none
      | function => answer (.env pointer function)
    let pending := match function with
      | .exceptionClear => false
      | function => moment.outside.pending || culprit function
    let live := function.brought reply +
      takeBack pointer.vm function.returned moment.outside.live
    (reply, ⟨moment.bridge, ⟨pending, live⟩⟩)
  | request, moment => (answer request, moment)

/-- Such a machine keeps the laws if everything that it hands out is its own, and if the functions
in question may raise, answer accordingly and hand out nothing. -/
theorem lawful_lending {culprit may : EnvFunction → Bool}
    {answer : (request : Call) → request.Reply}
    (hown : ∀ (pointer : EnvPointer) (function : EnvFunction),
      ∀ resource ∈ function.brought (answer (.env pointer function)), resource.vm = pointer.vm)
    (hculprit : ∀ (pointer : EnvPointer) (function : EnvFunction), culprit function = true →
      function.isSafeWhilePending = false ∧ may function = true ∧
        function.Fails (answer (.env pointer function)) ∧
        function.brought (answer (.env pointer function)) = 0)
    (request : Call) (before : Moment Account) :
    PendingLaw may before.outside.pending
      (lending culprit answer request before).2.outside.pending request
      (lending culprit answer request before).1 ∧
    LedgerLaw before.outside (lending culprit answer request before).2.outside request
      (lending culprit answer request before).1 ∧
    (lending culprit answer request before).2.bridge = before.bridge := by
  obtain ⟨bridge, pending, live⟩ := before
  cases request with
  | env pointer function =>
    have hbrought := hown pointer function
    have hraised := hculprit pointer function
    cases hcause : culprit function with
    | false =>
      have hsame : pending = false → (pending || culprit function) = true →
          ∀ share : Multiset Resource, share = 0 := by
        simp +contextual [hcause]
      have hstays : (pending || culprit function) = pending := by simp [hcause]
      cases function with
      | exceptionOccurred =>
        cases pending with
        | false =>
          refine ⟨⟨rfl, hstays⟩, ⟨?_, fun _ _ ↦ rfl, rfl⟩, rfl⟩
          simp [lending, EnvFunction.brought]
        | true =>
          refine ⟨⟨rfl, hstays⟩, ⟨?_, fun hno ↦ Bool.noConfusion hno, rfl⟩, rfl⟩
          simp [lending, EnvFunction.brought, Resource.vm]
      | exceptionCheck =>
        have hnothing : EnvFunction.exceptionCheck.brought pending = 0 := rfl
        exact ⟨⟨rfl, hstays⟩, ⟨by simp [lending, hnothing], fun _ _ ↦ hnothing, rfl⟩, rfl⟩
      | exceptionClear =>
        have hnothing : EnvFunction.exceptionClear.brought () = 0 := rfl
        exact ⟨rfl, ⟨by simp [lending, hnothing], fun _ _ ↦ hnothing, rfl⟩, rfl⟩
      | exceptionDescribe =>
        exact ⟨hstays.symm.trans, ⟨hbrought, fun hno hyes ↦ hsame hno hyes _, rfl⟩, rfl⟩
      | deleteLocalRef | deleteGlobalRef | releaseStringChars =>
        exact ⟨hstays, ⟨hbrought, fun hno hyes ↦ hsame hno hyes _, rfl⟩, rfl⟩
      | _ =>
        exact ⟨fun hafter ↦ .inl (hstays.symm.trans hafter),
          ⟨hbrought, fun hno hyes ↦ hsame hno hyes _, rfl⟩, rfl⟩
    | true =>
      obtain ⟨hsafe, hmay, hfails, hnothing⟩ := hraised hcause
      cases function with
      | exceptionOccurred | exceptionCheck | exceptionClear | exceptionDescribe | deleteLocalRef
      | deleteGlobalRef | releaseStringChars => cases hsafe
      | _ => exact ⟨fun _ ↦ .inr ⟨hmay, hfails⟩, ⟨hbrought, fun _ _ ↦ hnothing, rfl⟩, rfl⟩
  | _ => exact ⟨id, rfl, rfl⟩

/-- If in addition threads are found attached, the machine keeps the account of any environment. -/
theorem keepsAccount_lending {culprit : EnvFunction → Bool}
    {answer : (request : Call) → request.Reply} (env : Env) (thread : NativeThread)
    (hown : ∀ (pointer : EnvPointer) (function : EnvFunction),
      ∀ resource ∈ function.brought (answer (.env pointer function)), resource.vm = pointer.vm)
    (hculprit : ∀ (pointer : EnvPointer) (function : EnvFunction), culprit function = true →
      function.isSafeWhilePending = false ∧ function.mayFault = true ∧
        function.Fails (answer (.env pointer function)) ∧
        function.brought (answer (.env pointer function)) = 0)
    (hattach : ∀ request, AttachLaw request (answer request))
    (request : Call) (before : Moment Account) :
    Exchange.KeepsAccount env ⟨thread, request, (lending culprit answer request before).1,
      before, (lending culprit answer request before).2⟩ := by
  obtain ⟨hpending, hledger, hbridge⟩ := lawful_lending hown hculprit request before
  refine ⟨hpending, hledger, ?_, ?_, ?_, ?_⟩
  · cases request with
    | env pointer function => trivial
    | _ => exact hattach _
  · intro hserves
    exact hbridge.symm ▸ hserves
  · exact congrArg Bridge.classes hbridge
  · intro key reference _ husable
    exact hbridge.symm ▸ husable

omit [Host] in
theorem attachLaw_something (request : Call) : AttachLaw request (something request) := by
  cases request with
  | getEnv vm version => exact .inr ⟨_, rfl, rfl⟩
  | attach vm request => exact ⟨_, rfl, rfl⟩
  | _ => trivial

omit [Host] in
theorem own_something (pointer : EnvPointer) (function : EnvFunction) :
    ∀ resource ∈ function.brought (something (.env pointer function)),
      resource.vm = pointer.vm := by
  cases function with
  | getStringChars string =>
    by_cases hstring : string.vm = pointer.vm
    · simp [EnvFunction.brought, something, hstring, Resource.vm]
    · simp [EnvFunction.brought, something, hstring]
  | _ => simp [EnvFunction.brought, something, nothing, Resource.vm]

end Sample

omit [Host] in
/-- A pending exception is caught in an error that owns a global reference, and once the error is
dropped nothing is lent out. -/
theorem Operation.catchWith_balanced :
    let _ := Sample.host
    ∃ (exchanges : List (Exchange Account)) (error : Error) (last : Moment Account),
      ((Operation.catchWith Sample.linked).conclude Sample.env).Run Sample.thread
        ⟨Sample.bridge, ⟨true, 0⟩⟩ exchanges (.error error) last ∧
      (∀ exchange ∈ exchanges, exchange.KeepsAccount Sample.env) ∧
      last.bridge.kept Sample.env = Sample.bridge.kept Sample.env ∧ last.outside.live = 0 := by
  intro _
  let first : Moment Account := ⟨Sample.bridge, ⟨true, 0⟩⟩
  let machine := Sample.lending (fun _ ↦ false) Sample.something
  let program := (Operation.catchWith Sample.linked).conclude Sample.env
  have hrun := @Program.run_play _ _ _ Sample.thread first machine program
  have hlaw := @Program.lawful_play _ _ _ Sample.thread first machine _ program
    (Sample.keepsAccount_lending Sample.env Sample.thread Sample.own_something
      (fun _ _ hculprit ↦ absurd hculprit Bool.false_ne_true) Sample.attachLaw_something)
  have hfailed : (program.play machine Sample.thread first).2.1.isOk = false := by decide +kernel
  have hkept : (program.play machine Sample.thread first).2.2.bridge.kept Sample.env =
      Sample.bridge.kept Sample.env := by
    decide +kernel
  have hserves : first.bridge.Serves Sample.env := ⟨_, rfl, rfl⟩
  have hcatch : (Operation.catchWith Sample.linked).IsCatch := trivial
  obtain ⟨added, hadded, hlive⟩ := Operation.keeps_balance hserves (fun _ ↦ hcatch) hrun hlaw
  have hnone : added = 0 := by
    rw [hkept] at hadded
    exact left_eq_add.1 hadded
  generalize program.play machine Sample.thread first = played at *
  obtain ⟨exchanges, (error | value), last⟩ := played
  · refine ⟨exchanges, error, last, hrun, hlaw, hkept, ?_⟩
    rw [hlive, hnone]
    rfl
  · cases hfailed

/-- The operation may start with an exception pending, fail, and in the end leave something lent out
although its error was dropped. -/
def Operation.Leaks (operation : Operation) (left : Multiset Resource) : Prop :=
  ∃ (exchanges : List (Exchange Account)) (error : Error) (last : Moment Account),
    (operation.conclude Sample.env).Run Sample.thread ⟨Sample.bridge, ⟨true, 0⟩⟩ exchanges
      (.error error) last ∧
    (∀ exchange ∈ exchanges,
      PendingLaw (fun function ↦ !function.isSafeWhilePending) exchange.before.outside.pending
        exchange.after.outside.pending exchange.request exchange.reply ∧
      LedgerLaw exchange.before.outside exchange.after.outside exchange.request exchange.reply ∧
      exchange.after.bridge = exchange.before.bridge) ∧
    last.bridge.kept Sample.env = Sample.bridge.kept Sample.env ∧ last.outside.live = left

namespace Sample

/-- How an operation ends against a machine that lends things out. -/
def concluded (culprit : EnvFunction → Bool) (answer : (request : Call) → request.Reply)
    (operation : Operation) :
    List (Exchange Account) × Except Error operation.Result × Moment Account :=
  (operation.conclude Sample.env).play (lending culprit answer) thread ⟨bridge, ⟨true, 0⟩⟩

theorem leaks_of_concluded {culprit : EnvFunction → Bool}
    {answer : (request : Call) → request.Reply} {operation : Operation} {left : Multiset Resource}
    (hown : ∀ (pointer : EnvPointer) (function : EnvFunction),
      ∀ resource ∈ function.brought (answer (.env pointer function)), resource.vm = pointer.vm)
    (hculprit : ∀ (pointer : EnvPointer) (function : EnvFunction), culprit function = true →
      function.isSafeWhilePending = false ∧ function.Fails (answer (.env pointer function)) ∧
        function.brought (answer (.env pointer function)) = 0)
    (hfailed : (concluded culprit answer operation).2.1.isOk = false)
    (hkept : (concluded culprit answer operation).2.2.bridge.kept Sample.env =
      bridge.kept Sample.env)
    (hlive : (concluded culprit answer operation).2.2.outside.live = left) :
    operation.Leaks left := by
  have hrun := @Program.run_play _ _ _ thread ⟨bridge, ⟨true, 0⟩⟩ (lending culprit answer)
    (operation.conclude Sample.env)
  have hraises : ∀ (pointer : EnvPointer) (function : EnvFunction), culprit function = true →
      function.isSafeWhilePending = false ∧ (!function.isSafeWhilePending) = true ∧
        function.Fails (answer (.env pointer function)) ∧
        function.brought (answer (.env pointer function)) = 0 := by
    intro pointer function hcause
    obtain ⟨hsafe, hanswer⟩ := hculprit pointer function hcause
    exact ⟨hsafe, by rw [hsafe]; rfl, hanswer⟩
  have hlaw := @Program.lawful_play _ _ _ thread ⟨bridge, ⟨true, 0⟩⟩ (lending culprit answer)
    (fun exchange ↦ PendingLaw (fun function ↦ !function.isSafeWhilePending)
        exchange.before.outside.pending exchange.after.outside.pending exchange.request
        exchange.reply ∧
      LedgerLaw exchange.before.outside exchange.after.outside exchange.request exchange.reply ∧
      exchange.after.bridge = exchange.before.bridge) (operation.conclude Sample.env)
    (lawful_lending hown hraises)
  unfold concluded at hfailed hkept hlive
  generalize (operation.conclude Sample.env).play (lending culprit answer) thread
    ⟨bridge, ⟨true, 0⟩⟩ = played at *
  obtain ⟨exchanges, (error | value), last⟩ := played
  · exact ⟨exchanges, error, last, hrun, hlaw, hkept, hlive⟩
  · cases hfailed

/-- The same answers, but the machine does not know the version that it is asked for. -/
def outdated : (request : Call) → request.Reply
  | .getEnv _ _ => .error .wrongVersion
  | request => something request

end Sample

omit [Host] in
/-- Without the law an operation may leave something behind.  If the machine gives no environment
for the drop of the error, its global reference stays; an exception in the search for a superclass
is noticed too late, and so is one that was pending before a class is looked up. -/
theorem Operation.leaks_without_law :
    let _ := Sample.host
    (Operation.catchWith Sample.linked).Leaks {.globalReference ⟨Sample.vm, 5⟩} ∧
    (Operation.catchWith Sample.linked).Leaks {.localReference ⟨Sample.vm, 4⟩} ∧
    (Operation.findClass "T").Leaks {.localReference ⟨Sample.vm, 3⟩} := by
  intro _
  have hnever : ∀ (pointer : EnvPointer) (function : EnvFunction), false = true →
      function.isSafeWhilePending = false ∧
        function.Fails (Sample.something (.env pointer function)) ∧
        function.brought (Sample.something (.env pointer function)) = 0 :=
    fun _ _ hfalse ↦ absurd hfalse Bool.false_ne_true
  have hsuperclass : ∀ (pointer : EnvPointer) (function : EnvFunction),
      Sample.asksSuperclass function = true → function.isSafeWhilePending = false ∧
        function.Fails (Sample.something (.env pointer function)) ∧
        function.brought (Sample.something (.env pointer function)) = 0 := by
    intro pointer function hculprit
    cases function with
    | getSuperclass => exact ⟨rfl, rfl, rfl⟩
    | _ => cases hculprit
  refine ⟨?_, ?_, ?_⟩
  · exact @Sample.leaks_of_concluded _ (fun _ ↦ false) Sample.outdated _ _ Sample.own_something
      hnever (by decide +kernel) (by decide +kernel) (by decide +kernel)
  · exact @Sample.leaks_of_concluded _ Sample.asksSuperclass Sample.something _ _
      Sample.own_something hsuperclass (by decide +kernel) (by decide +kernel) (by decide +kernel)
  · exact @Sample.leaks_of_concluded _ (fun _ ↦ false) Sample.something _ _ Sample.own_something
      hnever (by decide +kernel) (by decide +kernel) (by decide +kernel)

end JavaInterop
