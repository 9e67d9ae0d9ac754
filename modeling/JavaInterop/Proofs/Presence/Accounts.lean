import JavaInterop.Proofs.Presence.Move

/-!
# The accounts of the bridge

What the bridge has on its books is compared with what the machines know.  No thread owes a detach
twice, and a thread that owes one to a registered machine was attached to it under this very
registration and has not been detached since.

The number of attached threads is never too high, but it can be too low.  Whoever is detached counts
as one less, also if it was somebody else who attached him, and then nobody is left to count for a
thread that is still there.  As long as this does not happen, the number is right.
-/

namespace JavaInterop

variable [Host]

/-- The books are in order. -/
structure Accurate (moment : Moment Presence) : Prop where
  apart : moment.bridge.Apart
  /-- Lifecycles that have ceased to exist have no machine. -/
  extant : ∀ id ∈ moment.bridge.gone, (moment.bridge.lifecycle id).registration = none
  vacant : ∀ id, (moment.bridge.lifecycle id).registration = none →
    (moment.bridge.lifecycle id).attached = 0
  /-- Generations, times and hooks all lie before the next registration. -/
  older : ∀ id registration, (moment.bridge.lifecycle id).registration = some registration →
    registration.generation < moment.bridge.nextGeneration
  past : ∀ vm thread since, moment.outside vm thread = some since →
    since ≤ moment.bridge.nextGeneration
  drawn : ∀ thread, ∀ hook ∈ (moment.bridge.thread thread).pending,
    hook.generation < moment.bridge.nextGeneration
  once : ∀ thread, (moment.bridge.thread thread).pending.Nodup
  /-- A thread owes a detach only where it was attached. -/
  resident : ∀ id registration thread,
    (moment.bridge.lifecycle id).registration = some registration →
    ⟨id, registration.generation⟩ ∈ (moment.bridge.thread thread).pending →
    thread ≠ registration.creator ∧ thread ∈ moment.outside.residents registration
  slotted : moment.bridge.Slotted
  finite : ∀ id registration, (moment.bridge.lifecycle id).registration = some registration →
    (moment.outside.residents registration).Finite
  counted : ∀ id registration, (moment.bridge.lifecycle id).registration = some registration →
    (moment.bridge.lifecycle id).attached ≤ (moment.outside.residents registration).ncard

/-- Nothing is registered, and nobody is attached. -/
theorem accurate_start (registry : Registry) :
    Accurate ⟨{ registry := registry }, fun _ _ ↦ none⟩ where
  apart _ _ _ _ hregistered _ _ := by cases hregistered
  extant _ hgone := absurd hgone List.not_mem_nil
  vacant _ _ := rfl
  older _ _ hregistered := by cases hregistered
  past _ _ _ hsince := by cases hsince
  drawn _ _ hmem := absurd hmem List.not_mem_nil
  once _ := List.nodup_nil
  resident _ _ _ hregistered := by cases hregistered
  slotted _ := ⟨List.nodup_nil, fun hpending ↦ absurd rfl hpending⟩
  finite _ _ hregistered := by cases hregistered
  counted _ _ hregistered := by cases hregistered

/-- The hooks of the threads are in order. -/
structure HooksInOrder (moment : Moment Presence) : Prop where
  /-- No thread has two hooks for one generation of a lifecycle. -/
  once : ∀ thread hook, (moment.bridge.thread thread).pending.count hook ≤ 1
  /-- No thread has a hook for a registered machine that it was not attached to under this
  registration, or that it has registered itself. -/
  attached : ∀ thread id registration,
    (moment.bridge.lifecycle id).registration = some registration →
    ⟨id, registration.generation⟩ ∈ (moment.bridge.thread thread).pending →
      thread ≠ registration.creator ∧ thread ∈ moment.outside.residents registration

/-- The hooks stay in order while a step is under way. -/
theorem Accurate.inOrder {first moment : Moment Presence} (haccurate : Accurate first)
    (hwithin : Within first moment) : HooksInOrder moment where
  once thread := List.nodup_iff_count_le_one.1
    ((haccurate.once thread).sublist (hwithin.pending thread))
  attached thread id registration hregistered howes := by
    rw [hwithin.residents id registration hregistered]
    exact haccurate.resident id registration thread (hwithin.registered id registration hregistered)
      ((hwithin.pending thread).subset howes)

/-! ## Single changes -/

namespace Accurate

variable {first : Moment Presence} (haccurate : Accurate first) {id other : LifecycleId}
  {registration : Registration} {thread : Nat}
include haccurate

/-- A thread that owes a detach is attached. -/
theorem isSome (hregistered : (first.bridge.lifecycle id).registration = some registration)
    (howes : ⟨id, registration.generation⟩ ∈ (first.bridge.thread thread).pending) :
    (first.outside registration.vm thread).isSome := by
  obtain ⟨-, since, hsince, -⟩ := haccurate.resident id registration thread hregistered howes
  exact Option.isSome_of_eq_some hsince

/-- The threads of other lifecycles are not concerned. -/
theorem residents_put_of_ne
    (hregistered : (first.bridge.lifecycle id).registration = some registration)
    {registration' : Registration}
    (hother : (first.bridge.lifecycle other).registration = some registration')
    (hne : other ≠ id) (since : Option Nat) :
    (first.outside.put registration.vm thread since).residents registration' =
      first.outside.residents registration' := by
  apply Presence.residents_put_of_ne
  intro hvm
  exact hne (haccurate.apart other id registration' registration hother hregistered hvm)

/-- A thread may owe something else if it was attached for it. -/
theorem rebooks {change : List PendingDetach → List PendingDetach} {bridge : Bridge}
    (hbridge : first.bridge.Rebooks thread change bridge)
    (honce : (change (first.bridge.thread thread).pending).Nodup)
    (howes : ∀ hook ∈ change (first.bridge.thread thread).pending,
      hook ∈ (first.bridge.thread thread).pending ∨ ∃ registration,
        (first.bridge.lifecycle hook.lifecycle).registration = some registration ∧
          hook.generation = registration.generation ∧ thread ≠ registration.creator ∧
          thread ∈ first.outside.residents registration) :
    Accurate ⟨bridge, first.outside⟩ := by
  have hhooks : ∀ caller, ∀ hook ∈ (bridge.thread caller).pending,
      hook ∈ (first.bridge.thread caller).pending ∨
        ∃ registration, (first.bridge.lifecycle hook.lifecycle).registration = some registration ∧
          hook.generation = registration.generation ∧ caller ≠ registration.creator ∧
          caller ∈ first.outside.residents registration := by
    intro caller
    by_cases hcaller : caller = thread
    · rw [hcaller, hbridge.self]
      exact howes
    · rw [hbridge.other hcaller]
      exact fun hook hmem ↦ .inl hmem
  constructor
  · intro id other
    simp only [hbridge.lifecycle]
    exact haccurate.apart id other
  · intro id
    simp only [hbridge.lifecycle, hbridge.gone]
    exact haccurate.extant id
  · intro id
    simp only [hbridge.lifecycle]
    exact haccurate.vacant id
  · intro id
    simp only [hbridge.lifecycle, hbridge.nextGeneration]
    exact haccurate.older id
  · intro vm caller since hsince
    exact (haccurate.past vm caller since hsince).trans_eq hbridge.nextGeneration.symm
  · intro caller hook hmem
    refine Nat.lt_of_lt_of_eq ?_ hbridge.nextGeneration.symm
    rcases hhooks caller hook hmem with hold | ⟨registration, hregistered, hgeneration, -⟩
    · exact haccurate.drawn caller hook hold
    · rw [hgeneration]
      exact haccurate.older hook.lifecycle registration hregistered
  · intro caller
    by_cases hcaller : caller = thread
    · rw [hcaller, hbridge.self]
      exact honce
    · rw [hbridge.other hcaller]
      exact haccurate.once caller
  · intro id registration caller
    simp only [hbridge.lifecycle]
    intro hregistered hmem
    rcases hhooks caller _ hmem with hold | ⟨registration', hregistered', -, hresident⟩
    · exact haccurate.resident id registration caller hregistered hold
    · obtain rfl : registration = registration' :=
        Option.some.inj (hregistered.symm.trans hregistered')
      exact hresident
  · exact hbridge.slotted haccurate.slotted
  · intro id
    simp only [hbridge.lifecycle]
    exact haccurate.finite id
  · intro id
    simp only [hbridge.lifecycle]
    exact haccurate.counted id

/-- A thread may owe less. -/
theorem owesLess {change : List PendingDetach → List PendingDetach} {bridge : Bridge}
    (hbridge : first.bridge.Rebooks thread change bridge)
    (hfewer : ∀ pending, (change pending).Sublist pending) :
    Accurate ⟨bridge, first.outside⟩ := by
  apply haccurate.rebooks hbridge
  · exact (haccurate.once thread).sublist (hfewer _)
  · exact fun hook hmem ↦ .inl ((hfewer _).subset hmem)

/-- A thread comes under a registration, or leaves the machine, and is counted accordingly. -/
theorem recount (hregistered : (first.bridge.lifecycle id).registration = some registration)
    {change : Nat → Nat} {since : Option Nat}
    (hpast : ∀ begun, since = some begun → begun ≤ first.bridge.nextGeneration)
    (hresident : ∀ caller, ⟨id, registration.generation⟩ ∈ (first.bridge.thread caller).pending →
      caller ∈ (first.outside.put registration.vm thread since).residents registration)
    (hfinite : ((first.outside.put registration.vm thread since).residents registration).Finite)
    (hcounted : change (first.bridge.lifecycle id).attached ≤
      ((first.outside.put registration.vm thread since).residents registration).ncard) :
    Accurate ⟨first.bridge.recount id change, first.outside.put registration.vm thread since⟩ := by
  constructor
  · intro id other
    simp only [registration_recount]
    exact haccurate.apart id other
  · intro other
    rw [registration_recount]
    exact haccurate.extant other
  · intro other
    rw [registration_recount]
    intro hnone
    have hother : other ≠ id := by
      rintro rfl
      cases hnone.symm.trans hregistered
    rw [lifecycle_recount_of_ne _ _ hother]
    exact haccurate.vacant other hnone
  · intro other
    rw [registration_recount]
    exact haccurate.older other
  · intro vm caller begun hbegun
    unfold Presence.put at hbegun
    dsimp only at hbegun
    split at hbegun
    · exact hpast begun hbegun
    · exact haccurate.past vm caller begun hbegun
  · exact haccurate.drawn
  · exact haccurate.once
  · intro other registration' caller
    rw [registration_recount]
    intro hother howes
    obtain ⟨hcreator, hstayed⟩ := haccurate.resident other registration' caller hother howes
    refine ⟨hcreator, ?_⟩
    by_cases hne : other = id
    · subst hne
      obtain rfl : registration' = registration := Option.some.inj (hother.symm.trans hregistered)
      exact hresident caller howes
    · rwa [haccurate.residents_put_of_ne hregistered hother hne]
  · exact haccurate.slotted
  · intro other registration'
    rw [registration_recount]
    intro hother
    by_cases hne : other = id
    · subst hne
      obtain rfl : registration' = registration := Option.some.inj (hother.symm.trans hregistered)
      exact hfinite
    · rw [haccurate.residents_put_of_ne hregistered hother hne]
      exact haccurate.finite other registration' hother
  · intro other registration'
    rw [registration_recount]
    intro hother
    by_cases hne : other = id
    · subst hne
      obtain rfl : registration' = registration := Option.some.inj (hother.symm.trans hregistered)
      rw [attached_recount_self]
      exact hcounted
    · rw [haccurate.residents_put_of_ne hregistered hother hne, lifecycle_recount_of_ne _ _ hne]
      exact haccurate.counted other registration' hother

/-- A thread that was not attached is attached, and owes a detach if it has to. -/
theorem attach (hregistered : (first.bridge.lifecycle id).registration = some registration)
    (habsent : first.outside registration.vm thread = none) {manner : Manner} {bridge : Bridge}
    (hbridge : first.bridge.Rebooks thread (manner.owing first.bridge thread id registration)
      bridge) :
    Accurate ⟨bridge.recount id (· + 1),
      first.outside.put registration.vm thread (some first.bridge.nextGeneration)⟩ := by
  have hgeneration := haccurate.older id registration hregistered
  have hresidents : (first.outside.put registration.vm thread
      (some first.bridge.nextGeneration)).residents registration =
        insert thread (first.outside.residents registration) :=
    Presence.residents_put_some hgeneration
  have hnew : thread ∉ first.outside.residents registration := by
    rintro ⟨since, hsince, -⟩
    cases habsent.symm.trans hsince
  have hfinite := haccurate.finite id registration hregistered
  have hattached : Accurate ⟨first.bridge.recount id (· + 1),
      first.outside.put registration.vm thread (some first.bridge.nextGeneration)⟩ := by
    apply haccurate.recount hregistered
    · rintro begun ⟨rfl⟩
      exact Nat.le_refl _
    · intro caller howes
      rw [hresidents]
      exact Set.mem_insert_of_mem _ (haccurate.resident id registration caller hregistered howes).2
    · rw [hresidents]
      exact hfinite.insert thread
    · rw [hresidents, Set.ncard_insert_of_notMem hnew hfinite]
      exact Nat.succ_le_succ (haccurate.counted id registration hregistered)
  apply hattached.rebooks (hbridge.recount id (· + 1))
  · -- The thread cannot have owed this before, since it was not attached.
    exact Manner.nodup_owing (haccurate.once thread) fun hold ↦
      hnew (haccurate.resident id registration thread hregistered hold).2
  · intro hook hmem
    refine (Manner.mem_owing hmem).imp_right ?_
    rintro ⟨hcreator, rfl⟩
    refine ⟨registration, (registration_recount _ _ _ _).trans hregistered, rfl, hcreator, ?_⟩
    rw [hresidents]
    exact Set.mem_insert _ _

/-- A thread that owes nothing for it any more is detached. -/
theorem detach (hregistered : (first.bridge.lifecycle id).registration = some registration)
    {bridge : Bridge} (hbridge : first.bridge.Rebooks thread
      (·.filter (· ≠ ⟨id, registration.generation⟩)) bridge) :
    Accurate ⟨bridge.recount id (· - 1), first.outside.put registration.vm thread none⟩ := by
  have hcleared : Accurate ⟨bridge, first.outside⟩ :=
    haccurate.owesLess hbridge fun _ ↦ List.filter_sublist
  have hregistered' : (bridge.lifecycle id).registration = some registration := by
    rw [hbridge.lifecycle, hregistered]
  apply hcleared.recount hregistered'
  · exact fun _ hnone ↦ nomatch hnone
  · intro caller howes
    rw [Presence.residents_put_none]
    refine ⟨(hcleared.resident id registration caller hregistered' howes).2, ?_⟩
    rintro rfl
    have hkept : ⟨id, registration.generation⟩ ∈ (bridge.thread caller).pending := howes
    rw [hbridge.self] at hkept
    simp at hkept
  · rw [Presence.residents_put_none]
    exact (hcleared.finite id registration hregistered').sdiff
  · rw [Presence.residents_put_none]
    have hcounted := hcleared.counted id registration hregistered'
    have hfewer := Set.pred_ncard_le_ncard_sdiff_singleton (first.outside.residents registration)
      thread
    dsimp only at hcounted ⊢
    omega

theorem forget : Accurate ⟨first.bridge.forget id, first.outside⟩ := by
  have hbefore : ∀ {other registration},
      ((first.bridge.forget id).lifecycle other).registration = some registration →
        (first.bridge.lifecycle other).registration = some registration := by
    intro other registration hregistered
    rwa [lifecycle_forget hregistered] at hregistered
  constructor
  · intro other other' registration registration' hregistered hregistered'
    exact haccurate.apart other other' _ _ (hbefore hregistered) (hbefore hregistered')
  · intro other hgone
    by_contra hregistered
    obtain ⟨registration, hregistered⟩ := Option.ne_none_iff_exists'.1 hregistered
    cases (haccurate.extant other hgone).symm.trans (hbefore hregistered)
  · intro other
    unfold Bridge.forget
    by_cases hother : other = id
    · rw [hother, Bridge.lifecycle_setLifecycle_self]
      exact fun _ ↦ rfl
    · rw [Bridge.lifecycle_setLifecycle_of_ne _ _ hother]
      exact haccurate.vacant other
  · exact fun other registration hregistered ↦ haccurate.older other _ (hbefore hregistered)
  · exact haccurate.past
  · exact haccurate.drawn
  · exact haccurate.once
  · exact fun other registration caller hregistered ↦
      haccurate.resident other registration caller (hbefore hregistered)
  · exact haccurate.slotted
  · exact fun other registration hregistered ↦ haccurate.finite other _ (hbefore hregistered)
  · intro other registration hregistered
    rw [lifecycle_forget hregistered]
    exact haccurate.counted other registration (hbefore hregistered)

theorem aside {last : Moment Presence} (haside : Aside first last) : Accurate last := by
  constructor
  · intro id other
    simp only [haside.lifecycle]
    exact haccurate.apart id other
  · intro id hgone
    rw [haside.lifecycle]
    exact (haside.gone id hgone).elim (haccurate.extant id) fun hvacant ↦ hvacant
  · intro id
    simp only [haside.lifecycle]
    exact haccurate.vacant id
  · intro id registration
    simp only [haside.lifecycle]
    intro hregistered
    exact (haccurate.older id registration hregistered).trans_le haside.nextGeneration
  · intro vm caller since hsince
    rcases haside.presence vm caller with hsame | ⟨-, hpast⟩
    · exact (haccurate.past vm caller since (hsame ▸ hsince)).trans haside.nextGeneration
    · exact hpast since hsince
  · intro caller hook
    rw [haside.pending]
    exact fun hmem ↦ (haccurate.drawn caller hook hmem).trans_le haside.nextGeneration
  · intro caller
    rw [haside.pending]
    exact haccurate.once caller
  · intro id registration caller
    rw [haside.lifecycle, haside.pending]
    intro hregistered
    rw [haside.residents hregistered]
    exact haccurate.resident id registration caller hregistered
  · exact haside.slotted haccurate.slotted
  · intro id registration
    rw [haside.lifecycle]
    intro hregistered
    rw [haside.residents hregistered]
    exact haccurate.finite id registration hregistered
  · intro id registration
    rw [haside.lifecycle]
    intro hregistered
    rw [haside.residents hregistered]
    exact haccurate.counted id registration hregistered

theorem register {last : Moment Presence} (hregisters : Registers id registration first last) :
    Accurate last := by
  have hnext := hregisters.nextGeneration
  constructor
  · intro other other' registration' registration'' hother hother' hvm
    rcases hregisters.eq_or_same hother with ⟨rfl, rfl⟩ | ⟨hsame, hne, -⟩
    · rcases hregisters.eq_or_same hother' with ⟨rfl, -⟩ | ⟨-, hne', -⟩
      · rfl
      · exact absurd hvm.symm hne'
    · rcases hregisters.eq_or_same hother' with ⟨rfl, rfl⟩ | ⟨hsame', -, -⟩
      · exact absurd hvm hne
      · rw [hsame] at hother
        rw [hsame'] at hother'
        exact haccurate.apart other other' _ _ hother hother' hvm
  · intro other hgone
    rw [hregisters.gone] at hgone
    have hother : other ≠ id := by
      rintro rfl
      exact hregisters.extant hgone
    rw [hregisters.lifecycle other hother]
    exact haccurate.extant other hgone
  · intro other hnone
    have hother : other ≠ id := by
      rintro rfl
      cases hnone.symm.trans hregisters.registered
    rw [hregisters.lifecycle other hother] at hnone ⊢
    exact haccurate.vacant other hnone
  · intro other registration' hregistered
    rw [hnext]
    rcases hregisters.eq_or_same hregistered with ⟨-, rfl⟩ | ⟨hsame, -⟩
    · rw [hregisters.generation]
      exact Nat.lt_succ_self _
    · rw [hsame] at hregistered
      exact (haccurate.older other registration' hregistered).trans (Nat.lt_succ_self _)
  · intro vm caller since hsince
    by_cases hvm : vm = registration.vm
    · subst hvm
      exact hregisters.past caller since hsince
    · rw [hregisters.presence vm hvm] at hsince
      rw [hnext]
      exact (haccurate.past vm caller since hsince).trans (Nat.le_succ _)
  · intro caller hook hmem
    rw [hregisters.pending] at hmem
    rw [hnext]
    exact (haccurate.drawn caller hook hmem).trans (Nat.lt_succ_self _)
  · intro caller
    rw [hregisters.pending]
    exact haccurate.once caller
  · intro other registration' caller hregistered howes
    rw [hregisters.pending] at howes
    rcases hregisters.eq_or_same hregistered with ⟨rfl, rfl⟩ | ⟨hsame, -, hresidents⟩
    · -- Nothing can be owed yet for a generation that has just been drawn.
      have hdrawn := haccurate.drawn caller _ howes
      rw [hregisters.generation] at hdrawn
      exact absurd hdrawn (Nat.lt_irrefl _)
    · rw [hsame] at hregistered
      rw [hresidents]
      exact haccurate.resident other registration' caller hregistered howes
  · exact hregisters.slotted haccurate.slotted
  · intro other registration' hregistered
    rcases hregisters.eq_or_same hregistered with ⟨-, rfl⟩ | ⟨hsame, -, hresidents⟩
    · exact hregisters.finite
    · rw [hsame] at hregistered
      rw [hresidents]
      exact haccurate.finite other registration' hregistered
  · intro other registration' hregistered
    rcases hregisters.eq_or_same hregistered with ⟨rfl, rfl⟩ | ⟨hsame, -, hresidents⟩
    · exact hregisters.counted.le
    · rw [hsame] at hregistered ⊢
      rw [hresidents]
      exact haccurate.counted other registration' hregistered

end Accurate

/-! ## Moves -/

section

variable {manner : Manner} {thread : Nat} {first last : Moment Presence}
  {exchanges : List (Exchange Presence)}

theorem Move.accurate (hmove : Move manner thread first exchanges last)
    (haccurate : Accurate first) : Accurate last := by
  cases hmove with
  | aside haside _ => exact haccurate.aside haside
  | attach hregistered habsent hbridge _ _ => exact haccurate.attach hregistered habsent hbridge
  | cancel _ hbridge _ _ => exact haccurate.owesLess hbridge fun _ ↦ List.filter_sublist
  | detach hregistered hbridge _ _ _ _ _ _ => exact haccurate.detach hregistered hbridge
  | forget => exact haccurate.forget
  | register hregisters _ => exact haccurate.register hregisters

theorem Moves.accurate (hmoves : Moves manner thread first exchanges last)
    (haccurate : Accurate first) : Accurate last := by
  induction hmoves with
  | done => exact haccurate
  | step hmove _ ih => exact ih (hmove.accurate haccurate)

theorem Move.within (hmove : Move manner thread first exchanges last) :
    ∀ exchange ∈ exchanges, Within first exchange.before := by
  cases hmove with
  | aside _ hquiet => exact fun exchange hmem ↦ (hquiet exchange hmem).2
  | attach _ _ _ _ hstays => exact fun exchange hmem ↦ (hstays exchange hmem).2
  | cancel _ _ _ hquiet => exact fun exchange hmem ↦ (hquiet exchange hmem).2
  | detach _ _ hbegun hwithin _ _ _ _ =>
    rw [List.forall_mem_append, List.forall_mem_singleton]
    exact ⟨fun exchange hmem ↦ (hbegun exchange hmem).2, hwithin⟩
  | forget => exact fun _ hmem ↦ absurd hmem List.not_mem_nil
  | register _ hstays => exact fun exchange hmem ↦ (hstays exchange hmem).2

theorem Moves.inOrder (hmoves : Moves manner thread first exchanges last)
    (haccurate : Accurate first) : ∀ exchange ∈ exchanges, HooksInOrder exchange.before := by
  induction hmoves with
  | done => exact fun _ hmem ↦ absurd hmem List.not_mem_nil
  | step hmove _ ih =>
    rw [List.forall_mem_append]
    refine ⟨fun exchange hmem ↦ ?_, ih (hmove.accurate haccurate)⟩
    exact haccurate.inOrder (hmove.within exchange hmem)

/-- Generations are drawn one after the other, and a new registration has a new one. -/
structure Proceeds (first last : Bridge) : Prop where
  nextGeneration : first.nextGeneration ≤ last.nextGeneration
  registered : ∀ id registration, (last.lifecycle id).registration = some registration →
    (first.lifecycle id).registration = some registration ∨
      first.nextGeneration ≤ registration.generation

theorem Proceeds.trans {first middle last : Bridge} (hfirst : Proceeds first middle)
    (hlast : Proceeds middle last) : Proceeds first last where
  nextGeneration := hfirst.nextGeneration.trans hlast.nextGeneration
  registered id registration hregistered := by
    rcases hlast.registered id registration hregistered with hmiddle | hlater
    · exact hfirst.registered id registration hmiddle
    · exact .inr (hfirst.nextGeneration.trans hlater)

theorem Aside.proceeds (haside : Aside first last) : Proceeds first.bridge last.bridge where
  nextGeneration := haside.nextGeneration
  registered id _ hregistered := .inl ((haside.lifecycle id) ▸ hregistered)

theorem Bridge.Rebooks.proceeds {change : List PendingDetach → List PendingDetach}
    {before after : Bridge} (hrebooks : before.Rebooks thread change after) :
    Proceeds before after where
  nextGeneration := hrebooks.nextGeneration.ge
  registered id _ hregistered := .inl ((hrebooks.lifecycle id) ▸ hregistered)

theorem proceeds_recount (bridge : Bridge) (id : LifecycleId) (change : Nat → Nat) :
    Proceeds bridge (bridge.recount id change) where
  nextGeneration := Nat.le_refl _
  registered other _ hregistered :=
    .inl ((registration_recount bridge id other change).symm.trans hregistered)

theorem Move.proceeds (hmove : Move manner thread first exchanges last) :
    Proceeds first.bridge last.bridge := by
  cases hmove with
  | aside haside _ => exact haside.proceeds
  | attach _ _ hbridge _ _ => exact hbridge.proceeds.trans (proceeds_recount _ _ (· + 1))
  | cancel _ hbridge _ _ => exact hbridge.proceeds
  | detach _ hbridge _ _ _ _ _ _ => exact hbridge.proceeds.trans (proceeds_recount _ _ (· - 1))
  | forget =>
    refine ⟨Nat.le_refl _, fun other registration hregistered ↦ .inl ?_⟩
    rwa [lifecycle_forget hregistered] at hregistered
  | register hregisters _ =>
    refine ⟨Nat.le_of_lt (hregisters.nextGeneration ▸ Nat.lt_succ_self _), ?_⟩
    intro other registration' hregistered
    rcases hregisters.eq_or_same hregistered with ⟨-, rfl⟩ | ⟨hsame, -⟩
    · exact .inr hregisters.generation.ge
    · rw [hsame] at hregistered
      exact .inl hregistered

theorem Moves.proceeds (hmoves : Moves manner thread first exchanges last) :
    Proceeds first.bridge last.bridge := by
  induction hmoves with
  | done => exact ⟨Nat.le_refl _, fun _ _ ↦ .inl⟩
  | step hmove _ ih => exact hmove.proceeds.trans ih

/-! ## The number of attached threads -/

/-- The number of attached threads is right. -/
def Moment.Exact (moment : Moment Presence) (id : LifecycleId) (registration : Registration) :
    Prop :=
  (moment.bridge.lifecycle id).attached = (moment.outside.residents registration).ncard

/-- A thread is detached under a registration under which it was not attached. -/
structure Exchange.Dismisses (exchange : Exchange Presence) (id : LifecycleId)
    (registration : Registration) : Prop where
  registered : (exchange.before.bridge.lifecycle id).registration = some registration
  detaches : exchange.Detaches registration.vm
  stranger : exchange.caller.id ∉ exchange.before.outside.residents registration

/-- The number stays right if nobody else is detached. -/
theorem Move.exact (hmove : Move manner thread first exchanges last) (haccurate : Accurate first)
    {id : LifecycleId} {registration : Registration}
    (hregistered : (last.bridge.lifecycle id).registration = some registration)
    (hfirst : (first.bridge.lifecycle id).registration = some registration →
      first.Exact id registration)
    (hnone : ∀ exchange ∈ exchanges, ¬ exchange.Dismisses id registration) :
    last.Exact id registration := by
  unfold Moment.Exact at hfirst ⊢
  cases hmove with
  | aside haside _ =>
    rw [haside.lifecycle] at hregistered ⊢
    rw [hfirst hregistered, haside.residents hregistered]
  | @attach _ other registration' bridge hregistered' habsent hbridge _ _ =>
    rw [registration_recount, hbridge.lifecycle] at hregistered
    by_cases hother : id = other
    · subst hother
      obtain rfl := Option.some.inj (hregistered.symm.trans hregistered')
      have hnew : thread ∉ first.outside.residents registration := by
        rintro ⟨since, hsince, -⟩
        cases habsent.symm.trans hsince
      have hgeneration := haccurate.older id registration hregistered
      rw [attached_recount_self, hbridge.lifecycle, hfirst hregistered,
        Presence.residents_put_some hgeneration,
        Set.ncard_insert_of_notMem hnew (haccurate.finite id registration hregistered)]
    · rw [lifecycle_recount_of_ne _ _ hother, hbridge.lifecycle, hfirst hregistered,
        haccurate.residents_put_of_ne hregistered' hregistered hother]
  | cancel _ hbridge _ _ =>
    rw [hbridge.lifecycle] at hregistered ⊢
    exact hfirst hregistered
  | @detach begun exchange other registration' bridge hregistered' hbridge hbegun _ hdetaches
      hcaller hbefore hpresence =>
    rw [registration_recount, hbridge.lifecycle] at hregistered
    by_cases hother : id = other
    · subst hother
      obtain rfl := Option.some.inj (hregistered.symm.trans hregistered')
      have hresident : thread ∈ first.outside.residents registration := by
        by_contra hstranger
        rw [← hpresence, ← hcaller] at hstranger
        exact hnone exchange (List.mem_append_right _ List.mem_cons_self)
          ⟨hbefore, hdetaches, hstranger⟩
      rw [attached_recount_self, hbridge.lifecycle, hfirst hregistered,
        Presence.residents_put_none, Set.ncard_sdiff_singleton_of_mem hresident]
    · rw [lifecycle_recount_of_ne _ _ hother, hbridge.lifecycle, hfirst hregistered,
        haccurate.residents_put_of_ne hregistered' hregistered hother]
  | forget =>
    have hsame := lifecycle_forget hregistered
    rw [hsame] at hregistered ⊢
    exact hfirst hregistered
  | register hregisters _ =>
    rcases hregisters.eq_or_same hregistered with ⟨rfl, rfl⟩ | ⟨hsame, -, hresidents⟩
    · exact hregisters.counted
    · rw [hsame] at hregistered ⊢
      rw [hfirst hregistered, hresidents]

theorem Moves.exact (hmoves : Moves manner thread first exchanges last)
    (haccurate : Accurate first) {id : LifecycleId} {registration : Registration}
    (hregistered : (last.bridge.lifecycle id).registration = some registration)
    (hfirst : (first.bridge.lifecycle id).registration = some registration →
      first.Exact id registration)
    (hnone : ∀ exchange ∈ exchanges, ¬ exchange.Dismisses id registration) :
    last.Exact id registration := by
  induction hmoves with
  | done => exact hfirst hregistered
  | step hmove _ ih =>
    obtain ⟨hbegun, hrest⟩ := List.forall_mem_append.1 hnone
    apply ih (hmove.accurate haccurate) hregistered _ hrest
    exact fun hmiddle ↦ hmove.exact haccurate hmiddle hfirst hbegun

/-! ## What a thread owes -/

/-- What a thread owes is its own business. -/
theorem Move.pending_of_ne (hmove : Move manner thread first exchanges last) {caller : Nat}
    (hcaller : caller ≠ thread) :
    (last.bridge.thread caller).pending = (first.bridge.thread caller).pending := by
  cases hmove with
  | aside haside _ => exact haside.pending caller
  | attach _ _ hbridge _ _ => exact hbridge.other hcaller
  | cancel _ hbridge _ _ => exact hbridge.other hcaller
  | detach _ hbridge _ _ _ _ _ _ => exact hbridge.other hcaller
  | forget => rfl
  | register hregisters _ => exact hregisters.pending caller

theorem Moves.pending_of_ne (hmoves : Moves manner thread first exchanges last) {caller : Nat}
    (hcaller : caller ≠ thread) :
    (last.bridge.thread caller).pending = (first.bridge.thread caller).pending := by
  induction hmoves with
  | done => rfl
  | step hmove _ ih => exact ih.trans (hmove.pending_of_ne hcaller)

/-- A thread that is attached for a while only owes nothing in addition. -/
theorem Move.pending_sublist (hmove : Move .brief thread first exchanges last) (caller : Nat) :
    (last.bridge.thread caller).pending.Sublist (first.bridge.thread caller).pending := by
  by_cases hcaller : caller = thread
  · subst hcaller
    cases hmove with
    | aside haside _ =>
      rw [haside.pending]
    | @attach _ id registration bridge _ _ hbridge _ _ =>
      change (bridge.thread caller).pending.Sublist _
      rw [hbridge.self, Manner.owing_brief]
    | cancel _ hbridge _ _ =>
      rw [hbridge.self]
      exact List.filter_sublist
    | @detach _ _ id registration bridge _ hbridge _ _ _ _ _ _ =>
      change (bridge.thread caller).pending.Sublist _
      rw [hbridge.self]
      exact List.filter_sublist
    | forget => exact List.Sublist.refl _
    | register hregisters _ =>
      rw [hregisters.pending]
  · rw [hmove.pending_of_ne hcaller]

theorem Moves.pending_sublist (hmoves : Moves .brief thread first exchanges last) (caller : Nat) :
    (last.bridge.thread caller).pending.Sublist (first.bridge.thread caller).pending := by
  induction hmoves with
  | done => exact List.Sublist.refl _
  | step hmove _ ih => exact ih.trans (hmove.pending_sublist caller)

/-- A detach under a registration that is still there stays owed until it is made. -/
theorem Move.owes_iff (hmove : Move .brief thread first exchanges last)
    (haccurate : Accurate first) (hoblige : AllOblige exchanges) {id : LifecycleId}
    {registration : Registration}
    (hregistered : (last.bridge.lifecycle id).registration = some registration) :
    ⟨id, registration.generation⟩ ∈ (last.bridge.thread thread).pending ↔
      ⟨id, registration.generation⟩ ∈ (first.bridge.thread thread).pending ∧
        ∀ exchange ∈ exchanges, ¬ exchange.Detaches registration.vm := by
  cases hmove with
  | aside haside hquiet =>
    rw [haside.pending]
    exact (and_iff_left fun exchange hmem ↦ (hquiet exchange hmem).1.detaches _).symm
  | @attach _ other registration' bridge _ _ hbridge _ hstays =>
    have hsame : (bridge.thread thread).pending = (first.bridge.thread thread).pending := by
      rw [hbridge.self, Manner.owing_brief]
    change _ ∈ (bridge.thread thread).pending ↔ _
    rw [hsame]
    exact (and_iff_left fun exchange hmem ↦ (hstays exchange hmem).1 _).symm
  | @cancel _ other registration' bridge hregistered' hbridge hreason hquiet =>
    rw [hbridge.lifecycle] at hregistered
    rw [hbridge.self, List.mem_filter, decide_eq_true_eq]
    have hquiet' : ∀ exchange ∈ exchanges, ¬ exchange.Detaches registration.vm :=
      fun exchange hmem ↦ (hquiet exchange hmem).1.detaches _
    refine ⟨fun howes ↦ ⟨howes.1, hquiet'⟩, fun howes ↦ ⟨howes.1, fun hsame ↦ ?_⟩⟩
    -- Nothing that is owed is cancelled: the thread is attached, and it is told so.
    obtain rfl : id = other := congrArg PendingDetach.lifecycle hsame
    obtain rfl := Option.some.inj (hregistered.symm.trans hregistered')
    rcases hreason with habsent | ⟨exchange, hmem, hrefusal⟩
    · have hattached := haccurate.isSome hregistered howes.1
      rw [habsent] at hattached
      cases hattached
    · exact hrefusal (hoblige exchange hmem)
  | @detach begun exchange other registration' bridge hregistered' hbridge hbegun _ hdetaches =>
    rw [registration_recount, hbridge.lifecycle] at hregistered
    change _ ∈ (bridge.thread thread).pending ↔ _
    rw [hbridge.self, List.mem_filter, decide_eq_true_eq]
    apply and_congr_right
    intro howes
    rw [List.forall_mem_append, List.forall_mem_singleton,
      and_iff_right fun exchange hmem ↦ (hbegun exchange hmem).1.detaches _]
    apply not_congr
    constructor
    · intro hsame
      obtain rfl : id = other := congrArg PendingDetach.lifecycle hsame
      obtain rfl := Option.some.inj (hregistered.symm.trans hregistered')
      exact hdetaches
    · intro hdetaches'
      have hvm := hdetaches'.unique hdetaches
      obtain rfl := haccurate.apart id other _ _ hregistered hregistered' hvm
      obtain rfl := Option.some.inj (hregistered.symm.trans hregistered')
      rfl
  | forget => exact (and_iff_left fun _ hmem ↦ absurd hmem List.not_mem_nil).symm
  | register hregisters hstays =>
    rw [hregisters.pending]
    exact (and_iff_left fun exchange hmem ↦ (hstays exchange hmem).1 _).symm

theorem Moves.owes_iff (hmoves : Moves .brief thread first exchanges last)
    (haccurate : Accurate first) (hoblige : AllOblige exchanges) {id : LifecycleId}
    {registration : Registration}
    (hregistered : (last.bridge.lifecycle id).registration = some registration) :
    ⟨id, registration.generation⟩ ∈ (last.bridge.thread thread).pending ↔
      ⟨id, registration.generation⟩ ∈ (first.bridge.thread thread).pending ∧
        ∀ exchange ∈ exchanges, ¬ exchange.Detaches registration.vm := by
  induction hmoves with
  | done => exact (and_iff_left fun _ hmem ↦ absurd hmem List.not_mem_nil).symm
  | @step first middle last begun rest hmove hrest ih =>
    obtain ⟨hbegun, hoblige'⟩ := allOblige_append.1 hoblige
    rw [ih (hmove.accurate haccurate) hoblige' hregistered, List.forall_mem_append]
    rcases hrest.proceeds.registered id registration hregistered with hmiddle | hlater
    · rw [hmove.owes_iff haccurate hbegun hmiddle, and_assoc]
    · -- Nothing can have been owed under a registration that was still to come.
      have hnever : ∀ moment, Accurate moment →
          moment.bridge.nextGeneration ≤ middle.bridge.nextGeneration →
          ⟨id, registration.generation⟩ ∉ (moment.bridge.thread thread).pending := by
        intro moment hmoment hnext howes
        have hdrawn := hmoment.drawn thread _ howes
        dsimp only at hdrawn
        omega
      apply iff_of_false
      · exact fun howes ↦ hnever middle (hmove.accurate haccurate) (Nat.le_refl _) howes.1
      · exact fun howes ↦ hnever first haccurate hmove.proceeds.nextGeneration howes.1

end

end JavaInterop
