import JavaInterop.Callback.Builder
import JavaInterop.Proofs.Reference.Balance

/-!
# Results that own references

An operation that succeeds may hand over references with its result, and one that fails may do so
with its error.  `Owner` tells for each type of result what it owns; everything that is owned was
issued under the registration of the environment, so that it can be released again.

An operation settles if, started without a share of its own, it ends with exactly the share that its
result owns.  At the end of a scope the reference of the scope is given back, whatever happened
inside.
-/

namespace JavaInterop

variable [Host] {α β : Type}

/-- Values that may own references. -/
class Owner (α : Type) where
  /-- What the value owns. -/
  owned : α → Multiset Resource
  /-- Whether what it owns was issued by the machine of an environment. -/
  IssuedBy : Env → α → Prop

export Owner (owned IssuedBy)

/-- Plain data owns nothing. -/
@[reducible] def Owner.nothing (α : Type) : Owner α := ⟨fun _ ↦ 0, fun _ _ ↦ True⟩

instance : Owner Unit := .nothing Unit
instance : Owner Empty := .nothing Empty
instance : Owner Bool := .nothing Bool
instance : Owner String := .nothing String
instance : Owner Scalar := .nothing Scalar
instance : Owner Handle := .nothing Handle
instance : Owner MethodId := .nothing MethodId
instance : Owner NativeMethod := .nothing NativeMethod
instance : Owner Text.CString := .nothing Text.CString
instance : Owner Resolution := .nothing Resolution

instance : Owner LocalReference where
  owned reference := localShare reference.raw
  IssuedBy env reference := reference.env = env

instance : Owner GlobalReference where
  owned reference := globalShare reference.raw
  IssuedBy env reference :=
    reference.lifecycle = env.lifecycle ∧ reference.generation = env.generation

instance : Owner Proxy where
  owned proxy := owned proxy.reference
  IssuedBy env proxy := IssuedBy env proxy.reference

instance : Owner Builder where
  owned builder := owned builder.invocation
  IssuedBy env builder := IssuedBy env builder.invocation

instance [Owner α] : Owner (Option α) where
  owned value := value.elim 0 owned
  IssuedBy env value := ∀ present, value = some present → IssuedBy env present

instance : Owner Error where
  owned error := owned error.owned?
  IssuedBy env error := IssuedBy env error.owned?

instance [Owner α] : Owner (Except Error α) where
  owned result := match result with
    | .ok value => owned value
    | .error error => owned error
  IssuedBy env result := match result with
    | .ok value => IssuedBy env value
    | .error error => IssuedBy env error

/-- The situation after an operation: the share is what its result owns, and if it succeeded no
exception is pending where that is said. -/
def HandsOver [Owner α] (env : Env) (calm : Bool) (result : Except Error α) : Holding :=
  fun pending own ↦ IssuedBy env result ∧ Opening (calm && result.isOk) (owned result) pending own

/-- Started with nothing to give back, the operation ends with what its result owns. -/
abbrev Settles [Owner α] (env : Env) (vacant : Option DescriptorKey) (calm : Bool)
    (operation : Fallible α) (calmAfter : Bool) : Prop :=
  Balances env vacant (Opening calm 0) operation.run (HandsOver env calmAfter)

section Rules

variable {env : Env} {vacant : Option DescriptorKey} {calm calmAfter calmLast : Bool}
  {share : Multiset Resource} {pre : Holding}

theorem Balances.succeed [Owner α] {value : α} (hissued : IssuedBy env value)
    (hshare : share = owned value) :
    Balances env vacant (Opening calm share) (pure value : Fallible α).run
      (HandsOver env calm) := by
  subst hshare
  refine Balances.done ?_
  rintro pending own ⟨hcalm, hown⟩
  refine ⟨hissued, ?_, hown⟩
  intro hyes
  exact hcalm (Bool.and_eq_true_iff.1 hyes).1

omit [Host] in
theorem issuedBy_of_plain {error : Error} (herror : error.owned? = none) : IssuedBy env error := by
  change IssuedBy env error.owned?
  rw [herror]
  rintro present ⟨⟩

omit [Host] in
theorem owned_of_plain {error : Error} (herror : error.owned? = none) : owned error = 0 := by
  change owned error.owned? = 0
  rw [herror]
  rfl

omit [Host] in
/-- A failure after which nothing is held. -/
theorem handsOver_error [Owner α] {error : Error} {pending : Bool} (herror : error.owned? = none) :
    HandsOver env calmAfter (.error error : Except Error α) pending 0 := by
  refine ⟨issuedBy_of_plain herror, ?_, (owned_of_plain herror).symm⟩
  intro hyes
  exact absurd (Bool.and_eq_true_iff.1 hyes).2 Bool.false_ne_true

/-- An error may take over what is held. -/
theorem Balances.failWith [Owner α] {error : Error} (hissued : IssuedBy env error)
    (hshare : share = owned error) :
    Balances env vacant (Opening calm share) (throw error : Fallible α).run
      (HandsOver env calmAfter) := by
  subst hshare
  refine Balances.done ?_
  rintro pending own ⟨-, rfl⟩
  exact ⟨hissued, fun hyes ↦ absurd (Bool.and_eq_true_iff.1 hyes).2 Bool.false_ne_true, rfl⟩

theorem Balances.fail [Owner α] {error : Error} (herror : error.owned? = none) :
    Balances env vacant (Opening calm 0) (throw error : Fallible α).run (HandsOver env calmAfter) :=
  Balances.failWith (issuedBy_of_plain herror) (owned_of_plain herror).symm

/-- What follows a failure is left out. -/
theorem Balances.failThen [Owner β] {error : Error} {next : α → Fallible β}
    (herror : error.owned? = none) :
    Balances env vacant (Opening calm 0) (throw error >>= next : Fallible β).run
      (HandsOver env calmAfter) := by
  rw [Fallible.run_throw_bind]
  exact Balances.fail herror

/-- What follows an operation starts with what the operation owns. -/
theorem Balances.andThen [Owner α] [Owner β] {operation : Fallible α} {next : α → Fallible β}
    (hoperation : Balances env vacant pre operation.run (HandsOver env calmAfter))
    (hnext : ∀ value, IssuedBy env value →
      Balances env vacant (Opening calmAfter (owned value)) (next value).run
        (HandsOver env calmLast)) :
    Balances env vacant pre (operation >>= next).run (HandsOver env calmLast) := by
  rw [ExceptT.run_bind]
  refine hoperation.bind ?_
  rintro (error | value)
  · refine Balances.done ?_
    rintro pending own ⟨hissued, -, hown⟩
    refine ⟨hissued, ?_, hown⟩
    intro hyes
    exact absurd (Bool.and_eq_true_iff.1 hyes).2 Bool.false_ne_true
  · rintro thread first own rest hready ⟨hissued, hcalm, hown⟩
    refine hnext value hissued thread first own rest hready ⟨?_, hown⟩
    exact fun hyes ↦ hcalm (Bool.and_eq_true_iff.2 ⟨hyes, rfl⟩)

/-- What follows a program that cannot fail sees its result. -/
theorem Balances.liftThen [Owner β] {program : Program α} {middle : α → Holding}
    {next : α → Fallible β} (hprogram : Balances env vacant pre program middle)
    (hnext : ∀ value, Balances env vacant (middle value) (next value).run
      (HandsOver env calmLast)) :
    Balances env vacant pre (liftM program >>= next : Fallible β).run (HandsOver env calmLast) := by
  rw [Fallible.run_lift_bind]
  exact hprogram.bind hnext

/-- What follows a call in an operation is responsible for the answer. -/
theorem Balances.askLift [Owner β] {function : EnvFunction} {next : function.Reply → Fallible β}
    (hsafe : function.isSafeWhilePending = false) (hreturned : function.returned = none)
    (hfailed : ∀ reply, function.Fails reply → function.brought reply = 0 →
      Settles env vacant false (next reply) calmLast)
    (hnext : ∀ reply, Balances env vacant (Opening calm (function.brought reply)) (next reply).run
      (HandsOver env calmLast)) :
    Settles env vacant calm (liftM (env.perform function) >>= next) calmLast := by
  rw [Settles, Fallible.run_lift_bind]
  exact Balances.askThen hsafe hreturned hfailed hnext

/-- A share that an operation does not touch can be put aside. -/
theorem Balances.aside [Owner α] {operation : Fallible α}
    (hoperation : Settles env vacant calm operation calmAfter) :
    Balances env vacant (Opening calm share) operation.run fun result pending own ↦
      IssuedBy env result ∧
        Opening (calmAfter && result.isOk) (owned result + share) pending own := by
  refine (hoperation.frame share).weaken ?_ ?_
  · rintro pending own ⟨hcalm, rfl⟩
    exact ⟨0, ⟨hcalm, rfl⟩, (zero_add own).symm⟩
  · rintro result pending _ ⟨own, ⟨hissued, hcalm, rfl⟩, rfl⟩
    exact ⟨hissued, hcalm, rfl⟩

theorem Settles.nonNull (reference : Option Handle) (place : String) :
    Settles env vacant calm (Fallible.nonNull reference place) calm := by
  cases reference with
  | none => exact Balances.fail rfl
  | some handle => exact Balances.succeed trivial rfl

/-! ## Local references -/

theorem Balances.deleteLocal (handle : Option Handle) :
    Balances env vacant (Opening calm (localShare handle + share)) (env.deleteLocal handle)
      fun _ ↦ Opening calm share := by
  cases handle with
  | none =>
    refine Balances.done ?_
    intro pending own hholds
    rwa [localShare_none, zero_add] at hholds
  | some reference =>
    refine Balances.registered.bind ?_
    rintro answer thread first own rest hready ⟨hholds, registration, rfl, -⟩
    exact Balances.giveBack rfl rfl thread first own rest hready hholds

/-- At the end of a scope the reference of the scope is given back. -/
theorem Balances.scope [Owner α] {reference : LocalReference} {body : Fallible α}
    (hissued : reference.env = env) (hshare : share = owned reference)
    (hbody : Settles env vacant calm body calmAfter) :
    Balances env vacant (Opening calm share) (reference.scope body).run
      (HandsOver env calmAfter) := by
  subst hshare
  refine hbody.aside.bind ?_
  rintro result thread first own rest hready ⟨hresult, hholds⟩
  have hdrop : Balances env vacant
      (Opening (calmAfter && result.isOk) (owned reference + owned result)) reference.drop
      fun _ ↦ Opening (calmAfter && result.isOk) (owned result) := by
    unfold LocalReference.drop
    rw [hissued]
    exact Balances.deleteLocal reference.raw
  rw [add_comm] at hholds
  refine (hdrop.bind fun _ ↦ Balances.done ?_) thread first own rest hready hholds
  exact fun pending share hshare ↦ ⟨hresult, hshare⟩

end Rules

end JavaInterop
