import JavaInterop.Proofs.Environment.Operation
import JavaInterop.Proofs.Reference.Transfer

/-!
# Giving back global references

Dropping a global reference gives it back to its machine, on a thread that is attached or, if it is
not, can be attached for that purpose.  Errors may own a global reference, and dropping one settles
what it owns.
-/

namespace JavaInterop

variable [Host] {α β : Type} {env : Env} {vacant : Option DescriptorKey} {calm calmAfter : Bool}
  {share : Multiset Resource}

/-! ## Changes that concern no reference -/

theorem harmless_countAttached (id : LifecycleId) (change : Nat → Nat) :
    Harmless fun bridge ↦ bridge.setLifecycle id
      { bridge.lifecycle id with attached := change (bridge.lifecycle id).attached } := by
  refine ⟨fun _ ↦ rfl, ?_⟩
  intro bridge other generation
  unfold Bridge.registered?
  by_cases hother : other = id
  · rw [hother, Bridge.lifecycle_setLifecycle_self]
  · rw [Bridge.lifecycle_setLifecycle_of_ne _ _ hother]

theorem harmless_setThread (id : Nat) (change : Bridge → ThreadState) :
    Harmless fun bridge ↦ bridge.setThread id (change bridge) :=
  ⟨fun _ ↦ rfl, fun _ _ _ ↦ rfl⟩

/-! ## Attaching for a moment -/

theorem Balances.countAttached (id : LifecycleId) (change : Nat → Nat) :
    Balances env vacant (Opening calm share) (id.countAttached change) fun _ ↦ Opening calm share :=
  Balances.update (harmless_countAttached id change)

theorem Balances.deferDetach (id : LifecycleId) (generation : Nat) :
    Balances env vacant (Opening calm share) (id.deferDetach generation)
      fun _ ↦ Opening calm share := by
  refine Balances.current.bind fun running ↦ ?_
  split
  · exact Balances.warn _
  · exact Balances.update (harmless_setThread _ _)

/-- A thread that works with an environment can always get hold of it again. -/
theorem Balances.attachTo (id : LifecycleId) {registration : Registration} (config : AttachConfig)
    (hvm : registration.vm = env.pointer.vm) :
    Balances env vacant (Opening calm share) (id.attachTo registration config).run
      fun result pending own ↦ Opening calm share pending own ∧
        ∃ pointer attachedHere, result = .ok (pointer, attachedHere) ∧
          pointer.vm = env.pointer.vm := by
  unfold LifecycleId.attachTo
  rw [Fallible.run_lift_bind]
  refine (Balances.invocation (by simp)).bind ?_
  rintro answer
  refine Balances.given ?_
  rintro (rfl | ⟨pointer, rfl, hpointer⟩)
  · -- The thread has to be attached, which succeeds.
    dsimp only
    rw [Fallible.run_lift_bind]
    refine Balances.current.bind fun running ↦ ?_
    rw [Fallible.run_lift_bind]
    refine (Balances.invocation (by simp)).bind fun answer ↦ Balances.given ?_
    rintro ⟨pointer, rfl, hpointer⟩
    rw [Fallible.ofStatus, pure_bind, Fallible.run_lift_bind]
    refine (Balances.countAttached id _).bind fun _ ↦ ?_
    have hattached : ∀ pending own, Opening calm share pending own →
        Opening calm share pending own ∧ ∃ pointer' attachedHere,
          (Except.ok (pointer, true) : Except Error (EnvPointer × Bool)) =
            .ok (pointer', attachedHere) ∧ pointer'.vm = env.pointer.vm :=
      fun _ _ hholds ↦ ⟨hholds, pointer, true, rfl, hpointer.trans hvm⟩
    split
    · rw [Fallible.run_lift_bind]
      exact (Balances.deferDetach id _).bind fun _ ↦ Balances.done hattached
    · exact Balances.done hattached
  · refine Balances.done ?_
    intro pending own hholds
    exact ⟨hholds, pointer, false, rfl, hpointer.trans hvm⟩

theorem Balances.detachFrom (id : LifecycleId) (registration : Registration) :
    Balances env vacant (Opening calm share) (id.detachFrom registration)
      fun _ ↦ Opening calm share := by
  refine Balances.bind (Balances.current.bind fun _ ↦ Balances.update (harmless_setThread _ _)) ?_
  intro _
  refine (Balances.invocation (by simp)).bind ?_
  rintro (status | pointer)
  · exact Balances.done fun _ _ hholds ↦ hholds.1
  · refine Balances.given fun _ ↦ (Balances.invocation (by simp)).bind ?_
    rintro (status | _)
    · exact Balances.given fun _ ↦ Balances.current.bind fun _ ↦ Balances.complain _
    · exact Balances.given fun _ ↦ Balances.countAttached id _

/-! ## Dropping -/

theorem Balances.dropGlobal {reference : GlobalReference} (hissued : IssuedBy env reference) :
    Balances env vacant (Opening calm (owned reference + share)) reference.drop
      fun _ ↦ Opening calm share := by
  obtain ⟨raw, id, generation⟩ := reference
  obtain ⟨hid, hgeneration⟩ := hissued
  simp only at hid hgeneration
  subst hid hgeneration
  refine Balances.map ?_
  unfold GlobalReference.release
  cases raw with
  | none =>
    refine Balances.done ?_
    rintro pending own ⟨hcalm, hown⟩
    exact ⟨hcalm, hown.trans (zero_add share)⟩
  | some handle =>
    refine Balances.bind ?_ fun _ ↦ Balances.done fun _ _ hholds ↦ hholds
    unfold LifecycleId.deleteGlobal
    refine Balances.registered.bind fun answer ↦ Balances.given ?_
    rintro ⟨registration, rfl, hvm⟩
    refine (Balances.attachTo env.lifecycle _ hvm).bind fun result ↦ Balances.given ?_
    rintro ⟨pointer, attachedHere, rfl, hpointer⟩
    have hdelete : Balances env vacant
        (Opening calm
          (owned (⟨some handle, env.lifecycle, env.generation⟩ : GlobalReference) + share))
        (Program.perform (.env pointer (.deleteGlobalRef handle))) fun _ ↦ Opening calm share :=
      Balances.giveBack rfl hpointer
    cases attachedHere with
    | true =>
      refine (Balances.warn _).bind fun _ ↦ hdelete.bind fun _ ↦ ?_
      exact Balances.detachFrom env.lifecycle registration
    | false => exact hdelete.bind fun _ ↦ Balances.done fun _ _ hholds ↦ hholds

/-- Dropping an error settles what it owns. -/
theorem Balances.dropError {error : Error} (hissued : IssuedBy env error) :
    Balances env vacant (Opening calm (owned error)) error.drop fun _ ↦ Opening calm 0 := by
  unfold Error.drop
  cases howned : error.owned? with
  | none =>
    refine Balances.done ?_
    rintro pending own ⟨hcalm, rfl⟩
    exact ⟨hcalm, by simp [owned, howned]⟩
  | some reference =>
    have hreference : IssuedBy env reference := hissued reference howned
    have hshare : owned error = owned reference + 0 := by simp [owned, howned]
    rw [hshare]
    exact Balances.dropGlobal hreference

/-- An error that becomes the reason of another one is dropped. -/
theorem Balances.withReason [Owner α] {pre : Holding} {operation : Fallible α} (text : String)
    (hoperation : Balances env vacant pre operation.run (HandsOver env calmAfter)) :
    Balances env vacant pre (operation.withReason text).run (HandsOver env calmAfter) := by
  refine Balances.bind hoperation ?_
  rintro (error | value)
  · rintro thread first own rest hready ⟨hissued, -, hown⟩
    have hdrop : Balances env vacant (Opening false (owned error)) error.drop
        fun _ ↦ Opening false 0 := Balances.dropError hissued
    have hafter : Balances env vacant (Opening false (owned error))
        (Except.error (α := α) <$> (do error.drop; return .causedBy text error))
        (HandsOver env calmAfter) := by
      refine Balances.map (hdrop.bind fun _ ↦ Balances.done ?_)
      rintro pending own ⟨-, rfl⟩
      exact handsOver_error rfl
    exact hafter thread first own rest hready ⟨fun hyes ↦ absurd hyes Bool.false_ne_true, hown⟩
  · exact Balances.done fun _ _ hholds ↦ hholds

end JavaInterop
