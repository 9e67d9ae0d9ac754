import JavaInterop.Proofs.Lifecycle.Forgotten

/-!
# What is left of a registration

When a registration is forgotten there may still be much around that stems from it: global and local
references and environments in the hands of native code, the pending detaches and the class loaders
of threads, and classes that were looked up.  None of it has any effect from then on.  Either it is
given up without a call, or it is passed over, and every reference that is handed to a machine comes
from somewhere else.
-/

namespace JavaInterop

variable [Host]

/-! ## Giving up what is left -/

section

variable {ω α : Type} {thread : NativeThread} {first : Moment ω} {id : LifecycleId}
  {generation : Nat}

open Program (Ensures)

omit [Host] in
/-- The reference was issued under this registration. -/
def GlobalReference.StemsFrom (reference : GlobalReference) (id : LifecycleId)
    (generation : Nat) : Prop :=
  reference.lifecycle = id ∧ reference.generation = generation

omit [Host] in
/-- The environment was obtained under this registration. -/
def Env.StemsFrom (env : Env) (id : LifecycleId) (generation : Nat) : Prop :=
  env.lifecycle = id ∧ env.generation = generation

/-- The program makes no call, and when it is over nothing has changed. -/
def Program.Idles (thread : NativeThread) (program : Program α) (first : Moment ω) : Prop :=
  Ensures (fun _ ↦ True) thread program first fun exchanges _ last ↦ exchanges = [] ∧ last = first

theorem registered?_of_not_live {bridge : Bridge}
    (hgone : bridge.isLive id generation = false) : bridge.registered? id generation = none := by
  unfold Bridge.isLive at hgone
  exact Option.not_isSome_iff_eq_none.1 (by simp [hgone])

theorem not_usable {bridge : Bridge} (hgone : bridge.isLive id generation = false)
    {reference : GlobalReference} (hstems : reference.StemsFrom id generation) :
    bridge.isUsable reference = false := by
  obtain ⟨rfl, rfl⟩ := hstems
  unfold Bridge.isUsable
  rw [hgone, Bool.and_false]

section

variable (hgone : first.bridge.isLive id generation = false)

include hgone

theorem idles_release {reference : GlobalReference} (hstems : reference.StemsFrom id generation) :
    reference.release.Idles thread first := by
  obtain ⟨rfl, rfl⟩ := hstems
  unfold Program.Idles
  rw [GlobalReference.ensures_release_iff]
  cases reference.raw with
  | none => exact ⟨rfl, rfl⟩
  | some handle =>
    dsimp only
    rw [LifecycleId.ensures_deleteGlobal_iff, registered?_of_not_live hgone]
    exact ⟨rfl, rfl⟩

theorem idles_drop {reference : GlobalReference} (hstems : reference.StemsFrom id generation) :
    reference.drop.Idles thread first :=
  Program.ensures_map.2 (idles_release hgone hstems)

theorem idles_dropLocal {reference : LocalReference}
    (hstems : reference.env.StemsFrom id generation) : reference.drop.Idles thread first := by
  obtain ⟨rfl, rfl⟩ := hstems
  unfold Program.Idles LocalReference.drop Env.deleteLocal
  cases reference.raw with
  | none => exact Program.ensures_pure.2 ⟨rfl, rfl⟩
  | some handle =>
    dsimp only
    unfold LifecycleId.registered?
    rw [Program.ensures_bind, Program.ensures_look, registered?_of_not_live hgone]
    simp

theorem idles_leave (config : AttachConfig) {env : Env} (attachedHere : Bool)
    (hgeneration : env.generation = generation) :
    (id.leave config env attachedHere).Idles thread first := by
  subst hgeneration
  unfold Program.Idles
  rw [LifecycleId.ensures_leave_iff, registered?_of_not_live hgone, ite_self]
  exact ⟨rfl, rfl⟩

theorem idles_runPending (heldOutside : LifecycleId → Bool) :
    (PendingDetach.run ⟨id, generation⟩ heldOutside).Idles thread first := by
  unfold Program.Idles PendingDetach.run
  rw [Program.ensures_bind, Program.ensures_state]
  split
  · unfold LifecycleId.registered?
    rw [Program.ensures_bind, Program.ensures_look, registered?_of_not_live hgone]
    simp
  · exact Program.ensures_pure.2 ⟨rfl, rfl⟩

end

end

/-! ## The exit of a thread -/

/-- Something that a thread has to do before it is gone. -/
inductive Duty where
  | detach (pending : PendingDetach)
  | unload (loader : GlobalReference)

namespace Duty

def program (heldOutside : LifecycleId → Bool) : Duty → Program Unit
  | detach pending => pending.run heldOutside
  | unload loader => loader.drop

omit [Host] in
/-- The duty arose under this registration. -/
def StemsFrom (id : LifecycleId) (generation : Nat) : Duty → Prop
  | detach pending => pending = ⟨id, generation⟩
  | unload loader => loader.StemsFrom id generation

theorem idles {ω : Type} {thread : NativeThread} {first : Moment ω} {id : LifecycleId}
    {generation : Nat} (hgone : first.bridge.isLive id generation = false)
    (heldOutside : LifecycleId → Bool) {duty : Duty} (hstems : duty.StemsFrom id generation) :
    (duty.program heldOutside).Idles thread first := by
  cases duty with
  | detach pending =>
    cases hstems
    exact idles_runPending hgone heldOutside
  | unload loader => exact idles_drop hgone hstems

end Duty

omit [Host] in
/-- What a thread that keeps these things has to do at its exit: it runs its hooks and gives up its
class loader. -/
def ThreadState.duties (state : ThreadState) : List Duty :=
  state.pending.map .detach ++ state.loader.toList.map .unload

/-- A duty and the calls that were made for it. -/
abbrev Duty.Part := Duty × List (Exchange Chronicle)

/-- The thread was found to have the duty at some moment from `first` on and did it then, and these
are the calls it took. -/
def Duty.Part.Done (part : Duty.Part) (thread : NativeThread) (heldOutside : LifecycleId → Bool)
    (first : Moment Chronicle) : Prop :=
  ∃ found begun ended, Continues first found ∧ Continues found begun ∧
    part.1 ∈ (found.bridge.thread thread.id).duties ∧
    (part.1.program heldOutside).Run thread begun part.2 () ended

/-- All calls of the program are made for duties that the thread was found to have from `start` on,
one after the other. -/
def Discharges (thread : NativeThread) (heldOutside : LifecycleId → Bool)
    (start : Moment Chronicle) (program : Program Unit) (first : Moment Chronicle) : Prop :=
  Program.Ensures (registering thread).law thread program first fun exchanges _ last ↦
    Continues first last ∧ ∃ parts : List Duty.Part, exchanges = (parts.map Prod.snd).flatten ∧
      ∀ part ∈ parts, part.Done thread heldOutside start

namespace Discharges

variable {thread : NativeThread} {heldOutside : LifecycleId → Bool} {start first : Moment Chronicle}

theorem done : Discharges thread heldOutside start (pure ()) first :=
  Program.ensures_pure.2 ⟨.refl first, [], rfl, fun _ hmem ↦ nomatch hmem⟩

theorem bind {program : Program Unit} {next : Unit → Program Unit}
    (hprogram : Discharges thread heldOutside start program first)
    (hnext : ∀ middle, Continues first middle →
      Discharges thread heldOutside start (next ()) middle) :
    Discharges thread heldOutside start (program >>= next) first := by
  unfold Discharges
  rw [Program.ensures_bind]
  refine hprogram.weaken ?_
  rintro begun _ middle ⟨hmiddle, parts, rfl, hparts⟩
  refine (hnext middle hmiddle).weaken ?_
  rintro rest _ last ⟨hlast, more, rfl, hmore⟩
  refine ⟨hmiddle.trans hlast, parts ++ more, by simp, fun part hmem ↦ ?_⟩
  rcases List.mem_append.1 hmem with hmem | hmem
  · exact hparts part hmem
  · exact hmore part hmem

theorem forM {α : Type} {items : List α} {each : α → Program Unit}
    (heach : ∀ item ∈ items, ∀ middle, Continues first middle →
      Discharges thread heldOutside start (each item) middle) :
    Discharges thread heldOutside start (items.forM each) first := by
  induction items generalizing first with
  | nil => exact done
  | cons item items ih =>
    rw [List.forall_mem_cons] at heach
    refine bind (heach.1 first (.refl first)) fun middle hmiddle ↦ ih fun item hmem last hlast ↦ ?_
    exact heach.2 item hmem last (hmiddle.trans hlast)

/-- The program goes on from a moment that a change of the bridge has led to. -/
theorem changed {program : Program Unit} {bridge : Bridge}
    (hbridge : Continues first ⟨bridge, first.outside⟩)
    (hprogram : Discharges thread heldOutside start program ⟨bridge, first.outside⟩) :
    Program.Ensures (registering thread).law thread program ⟨bridge, first.outside⟩
      fun exchanges _ last ↦ Continues first last ∧ ∃ parts : List Duty.Part,
        exchanges = (parts.map Prod.snd).flatten ∧
          ∀ part ∈ parts, part.Done thread heldOutside start :=
  hprogram.weaken fun _ _ _ hlast ↦ ⟨hbridge.trans hlast.1, hlast.2⟩

/-- A duty that the thread was found to have. -/
theorem duty (duty : Duty) {found : Moment Chronicle} (hfound : Continues start found)
    (hfirst : Continues found first) (hduty : duty ∈ (found.bridge.thread thread.id).duties) :
    Discharges thread heldOutside start (duty.program heldOutside) first := by
  have hadmits : (registering thread).Admits (duty.program heldOutside) fun _ ↦ True := by
    cases duty with
    | detach pending => exact Setting.Admits.runPending pending heldOutside
    | unload loader => exact Setting.Admits.drop fun _ _ _ _ _ _ ↦ trivial
  intro exchanges _ last hrun hlaw
  obtain ⟨hlast, -⟩ := hadmits first trivial exchanges () last hrun hlaw
  refine ⟨hlast, [(duty, exchanges)], by simp, fun part hmem ↦ ?_⟩
  cases List.mem_singleton.1 hmem
  exact ⟨found, first, last, hfound, hfirst, hduty, hrun⟩

theorem vacate (hfirst : Continues start first) (slot : ThreadSlot) :
    Discharges thread heldOutside start (slot.vacate heldOutside) first := by
  unfold Discharges ThreadSlot.vacate
  rw [Program.ensures_bind, Program.ensures_current, Program.ensures_bind, Program.ensures_state]
  cases slot with
  | classLoader =>
    rw [Program.ensures_bind, Program.ensures_update]
    have hunloaded : Continues first ⟨first.bridge.setThread thread.id
        { first.bridge.thread thread.id with loader := none }, first.outside⟩ :=
      .of_shifts (shifts_setThread _ _ (.inl rfl))
    refine changed hunloaded ?_
    cases hloader : (first.bridge.thread thread.id).loader with
    | none => exact done
    | some loader =>
      exact duty (.unload loader) hfirst hunloaded (by simp [ThreadState.duties, hloader])
  | pendingDetaches =>
    rw [Program.ensures_bind, Program.ensures_update]
    have hcleared : Continues first ⟨first.bridge.setThread thread.id
        { first.bridge.thread thread.id with pending := [] }, first.outside⟩ :=
      .of_shifts (shifts_setThread _ _ (.inr rfl))
    refine changed hcleared (forM fun pending hmem middle hmiddle ↦ ?_)
    exact duty (.detach pending) hfirst (hcleared.trans hmiddle)
      (by simpa [ThreadState.duties] using hmem)

theorem exitThread : Discharges thread heldOutside first (exitThread heldOutside) first := by
  unfold Discharges JavaInterop.exitThread
  rw [Program.ensures_bind, Program.ensures_current, Program.ensures_bind, Program.ensures_state]
  refine bind (forM fun slot _ middle hmiddle ↦ vacate hmiddle slot) fun middle _ ↦ ?_
  refine Program.ensures_update.2 ⟨.of_shifts (shifts_erase _ _), [], rfl, ?_⟩
  exact fun _ hmem ↦ nomatch hmem

end Discharges

/-! ## Where references come from -/

/-- The call was answered with this reference. -/
def Exchange.Answers {ω : Type} (handle : Handle) : Exchange ω → Prop
  | ⟨_, .env _ function, reply, _, _⟩ => function.answered reply = some handle
  | _ => False

/-- Where an operation has a reference from that it hands to a machine: it was given the reference,
a call was answered with it, or the bridge kept it, and then it did not stem from the registration
that is gone. -/
inductive Sourced (id : LifecycleId) (generation : Nat) (given : List Handle)
    (thread : NativeThread) (first : Moment Chronicle) (exchanges : List (Exchange Chronicle))
    (handle : Handle) : Prop
  | given (hmem : handle ∈ given)
  | answered {exchange : Exchange Chronicle} (hmem : exchange ∈ exchanges)
      (hanswers : exchange.Answers handle)
  | kept {moment : Moment Chronicle} {reference : GlobalReference}
      (hmoment : moment ∈ boundaries first exchanges)
      (hkept : moment.bridge.Keeps thread.id reference) (hraw : reference.raw = some handle)
      (hother : ¬ reference.StemsFrom id generation)

section

variable (id : LifecycleId) (generation : Nat) (given : List Handle) (thread : NativeThread)
  (first : Moment Chronicle) (exchanges : List (Exchange Chronicle))

/-- What the bridge keeps, it kept at a boundary, or it was put there by the operation itself. -/
def Accounted (moment : Moment Chronicle) : Prop :=
  ∀ reference, moment.bridge.Keeps thread.id reference →
    (∃ boundary ∈ boundaries first exchanges, boundary.bridge.Keeps thread.id reference) ∨
      ∀ handle, reference.raw = some handle →
        Sourced id generation given thread first exchanges handle

/-- A moment of an operation that was started after the registration had gone. -/
structure After (moment : Moment Chronicle) : Prop where
  orderly : Orderly moment
  forgot : Forgot moment.outside id generation
  kept : Accounted id generation given thread first exchanges moment

variable {id generation given thread first exchanges}

theorem After.gone {moment : Moment Chronicle}
    (hafter : After id generation given thread first exchanges moment) :
    moment.bridge.isLive id generation = false :=
  hafter.orderly.gone id generation hafter.forgot

/-- What the bridge keeps under another registration has its source at a boundary. -/
theorem After.sourced {moment : Moment Chronicle}
    (hafter : After id generation given thread first exchanges moment)
    {reference : GlobalReference} (hkept : moment.bridge.Keeps thread.id reference)
    (hother : ¬ reference.StemsFrom id generation) {handle : Handle}
    (hraw : reference.raw = some handle) :
    Sourced id generation given thread first exchanges handle := by
  rcases hafter.kept reference hkept with ⟨boundary, hboundary, hbefore⟩ | hsourced
  · exact .kept hboundary hbefore hraw hother
  · exact hsourced handle hraw

/-- Nothing more is kept than before. -/
theorem Accounted.of_keeps {before after : Moment Chronicle}
    (haccounted : Accounted id generation given thread first exchanges before)
    (hkeeps : ∀ reference, after.bridge.Keeps thread.id reference →
      before.bridge.Keeps thread.id reference ∨ ∀ handle, reference.raw = some handle →
        Sourced id generation given thread first exchanges handle) :
    Accounted id generation given thread first exchanges after := by
  intro reference hkept
  rcases hkeeps reference hkept with hbefore | hsourced
  · exact haccounted reference hbefore
  · exact .inr hsourced

variable (id generation given thread first exchanges) in
/-- The setting in which an operation is followed from its first moment through its calls. -/
def tracing : Setting Chronicle where
  thread := thread
  law exchange := exchange ∈ exchanges ∧ Continues exchange.before exchange.after
  good := After id generation given thread first exchanges
  later before after := Continues before after ∧
    (Accounted id generation given thread first exchanges before →
      Accounted id generation given thread first exchanges after)
  own _ := Sourced id generation given thread first exchanges
  known _ := Sourced id generation given thread first exchanges
  trusts _ := True
  refl moment := ⟨.refl moment, fun haccounted ↦ haccounted⟩
  trans hfirst hlast := ⟨hfirst.1.trans hlast.1, fun haccounted ↦ hlast.2 (hfirst.2 haccounted)⟩
  stays hafter hlater := ⟨hlater.1.orderly hafter.orderly,
    hafter.forgot.of_prefix hlater.1.chronicle, hlater.2 hafter.kept⟩
  call hlaw _ := ⟨hlaw.2, fun _ reference hkept ↦
    .inl ⟨_, List.mem_cons_of_mem _ (List.mem_map_of_mem hlaw.1), hkept⟩⟩
  knows hown := hown
  answer hlaw hanswered := .answered hlaw.1 hanswered
  pointer _ hknown := hknown
  attached _ hknown := hknown
  issued _ hissued := fun _ _ _ _ handle hraw ↦ hissued.own handle hraw
  kept hafter hkept := by
    intro moment hmoment registration hregistered handle hraw
    refine hafter.sourced hkept ?_ hraw
    rintro ⟨rfl, rfl⟩
    cases (registered?_of_not_live hmoment.1.gone).symm.trans hregistered
  shift _ hshifts := ⟨.of_shifts hshifts, fun haccounted ↦
    haccounted.of_keeps fun _ hkept ↦ .inl (keeps_of_shifts hshifts hkept)⟩
  keepClass key _ _ hissued := by
    refine ⟨.of_advances (.of_registration rfl fun _ ↦ .inr rfl), fun haccounted ↦ ?_⟩
    refine haccounted.of_keeps fun reference hkept ↦ ?_
    rcases keeps_insert hkept with hkept | rfl
    · exact .inl hkept
    · exact .inr hissued.own
  keepLoader _ _ hissued hloader := by
    refine ⟨.of_advances (.of_registration rfl fun _ ↦ .inr rfl), fun haccounted ↦ ?_⟩
    refine haccounted.of_keeps fun reference hkept ↦ ?_
    rcases keeps_setThread hloader hkept with hkept | rfl
    · exact .inl hkept
    · exact .inr hissued.own

end

/-! ## Nothing has any effect -/

/-- Every reference that is handed to a machine has another source. -/
def Spares (id : LifecycleId) (generation : Nat) (given : List Handle) (thread : NativeThread)
    (first : Moment Chronicle) (exchanges : List (Exchange Chronicle)) : Prop :=
  ∀ exchange ∈ exchanges, ∀ vm handle, exchange.request.Passes vm handle →
    Sourced id generation given thread first exchanges handle

open Program (Ensures)

/-- Nothing that stems from a registration has any effect at a moment, and whatever looks up classes
does so without the ones that are left. -/
structure Inert (rules : ProcessRules) (id : LifecycleId) (generation : Nat)
    (moment : Moment Chronicle) : Prop where
  unusable : ∀ reference : GlobalReference, reference.StemsFrom id generation →
    moment.bridge.isUsable reference = false
  release : ∀ thread (reference : GlobalReference), reference.StemsFrom id generation →
    reference.release.Idles thread moment
  drop : ∀ thread (reference : GlobalReference), reference.StemsFrom id generation →
    reference.drop.Idles thread moment
  dropLocal : ∀ thread (reference : LocalReference), reference.env.StemsFrom id generation →
    reference.drop.Idles thread moment
  leave : ∀ thread config (env : Env) attachedHere, env.StemsFrom id generation →
    (id.leave config env attachedHere).Idles thread moment
  /-- A hook of the registration detaches no thread. -/
  hook : ∀ thread heldOutside, (PendingDetach.run ⟨id, generation⟩ heldOutside).Idles thread moment
  /-- At its exit a thread makes calls only for its hooks and its class loader, and none for those
  that stem from the registration. -/
  exit : ∀ thread heldOutside, Ensures rules.Bears thread (exitThread heldOutside) moment
    fun exchanges _ _ ↦ Spares id generation [] thread moment exchanges ∧
      ∃ parts : List Duty.Part, exchanges = (parts.map Prod.snd).flatten ∧
        ∀ part ∈ parts, part.Done thread heldOutside moment ∧
          (part.1.StemsFrom id generation → part.2 = [])
  setClassLoader : ∀ thread env loader, Ensures rules.Bears thread (setClassLoader env loader).run
    moment fun exchanges _ _ ↦ Spares id generation loader.toList thread moment exchanges
  operation : ∀ thread (operation : Operation) env,
    Ensures rules.Bears thread (operation.program env).run moment
      fun exchanges _ _ ↦ Spares id generation operation.given thread moment exchanges

variable {rules : ProcessRules} {id : LifecycleId} {generation : Nat} {thread : NativeThread}
  {moment : Moment Chronicle}

/-- What keeps to the setting of a single run spares what is left of the registration. -/
theorem ensures_spares {α : Type} {program : Program α} {given : List Handle}
    (hreaches : rules.Reaches moment) (hforgot : Forgot moment.outside id generation)
    (hadmits : ∀ exchanges, ∃ wanted,
      (tracing id generation given thread moment exchanges).Admits program wanted) :
    Ensures rules.Bears thread program moment fun exchanges _ _ ↦
      Spares id generation given thread moment exchanges := by
  intro exchanges result last hrun hbears
  obtain ⟨wanted, hadmits⟩ := hadmits exchanges
  have hafter : After id generation given thread moment exchanges moment :=
    ⟨hreaches.orderly, hforgot, fun _ hkept ↦ .inl ⟨moment, List.mem_cons_self, hkept⟩⟩
  have hlaw : ∀ exchange ∈ exchanges,
      (tracing id generation given thread moment exchanges).law exchange :=
    fun exchange hmem ↦ ⟨hmem, (hbears exchange hmem).2.continues⟩
  obtain ⟨-, hexchanges, -⟩ := hadmits moment hafter exchanges result last hrun hlaw
  exact fun exchange hmem ↦ (hexchanges exchange hmem).2

theorem tracing_offers {given : List Handle} {exchanges : List (Exchange Chronicle)} {env : Env}
    (key : DescriptorKey) :
    (tracing id generation given thread moment exchanges).Offers env key := by
  intro later hafter reference husable hkept handle hraw
  have hkeeps : later.bridge.Keeps thread.id reference := by
    rcases hkept with hclass | hloader
    · exact .classObject key hclass
    · exact .loader hloader
  refine hafter.sourced hkeeps (fun hstems ↦ ?_) hraw
  rw [not_usable hafter.gone hstems] at husable
  cases husable

/-- Once a registration is forgotten, nothing that stems from it has any effect for the rest of the
process, whatever is registered afterwards. -/
theorem ProcessRules.Reaches.forgotten_inert (hreaches : rules.Reaches moment)
    (hforgot : Forgot moment.outside id generation) : Inert rules id generation moment := by
  have hgone := hreaches.orderly.gone id generation hforgot
  refine ⟨fun _ ↦ not_usable hgone, fun _ _ ↦ idles_release hgone, fun _ _ ↦ idles_drop hgone,
    fun _ _ ↦ idles_dropLocal hgone, fun _ config _ attachedHere hstems ↦
      idles_leave hgone config attachedHere hstems.2,
    fun _ heldOutside ↦ idles_runPending hgone heldOutside, ?_, ?_, ?_⟩
  · intro thread heldOutside
    refine (ensures_spares hreaches hforgot fun exchanges ↦
      ⟨_, Setting.Admits.exitThread heldOutside⟩).and ?_
    intro exchanges result last hrun hbears
    obtain ⟨-, parts, hsplit, hdone⟩ := Discharges.exitThread exchanges result last hrun
      fun exchange hmem ↦ (hbears exchange hmem).2.continues
    refine ⟨parts, hsplit, fun part hmem ↦ ⟨hdone part hmem, fun hstems ↦ ?_⟩⟩
    obtain ⟨found, begun, ended, hfound, hlater, -, hduty⟩ := hdone part hmem
    have hbegun := hfound.trans hlater
    have hgone' := (hbegun.orderly hreaches.orderly).gone id generation
      (hforgot.of_prefix hbegun.chronicle)
    exact (Duty.idles hgone' heldOutside hstems part.2 () ended hduty fun _ _ ↦ trivial).1
  · intro thread env loader
    refine ensures_spares hreaches hforgot fun exchanges ↦
      ⟨_, Setting.Performs.setClassLoader ?_ fun handle hhandle ↦ ?_⟩
    · trivial
    · exact .given (Option.mem_toList.2 hhandle)
  · intro thread operation env
    refine ensures_spares hreaches hforgot fun exchanges ↦
      ⟨_, Setting.Performs.operation ?_ operation (fun _ hmem ↦ .given hmem)
        (fun key _ ↦ tracing_offers key) fun _ moment hafter ↦ ?_⟩
    · trivial
    refine ⟨.of_advances (.of_registration rfl fun _ ↦ .inr rfl), fun haccounted ↦ ?_⟩
    exact haccounted.of_keeps fun reference hkept ↦ .inl (keeps_of_same hkept rfl rfl)

namespace Sample

/-- A machine is registered and forgotten, and then it is registered again in the same lifecycle. -/
def readoption : List (@Activity host) :=
  let _ := host
  [.adopt .shared (some vm) .v1_8, .reset .shared, .adopt .shared (some vm) .v1_8]

end Sample

omit [Host] in
/-- What stems from the first registration has no effect, although its machine is registered. -/
theorem ProcessRules.Reaches.forgotten_inert_again :
    let _ := Sample.host
    let moment := Sample.course Sample.readoption
    ProcessRules.any.Reaches moment ∧
      (moment.bridge.lifecycle .shared).registration.map Registration.vm = some Sample.vm ∧
      Inert ProcessRules.any .shared 1 moment := by
  intro _ moment
  have hreaches : ProcessRules.any.Reaches moment :=
    .later (.start .builtins)
      (ProcessRules.evolves_courseOf (fun _ _ ↦ trivial) (fun _ _ ↦ trivial) Sample.readoption)
  let adopted := (Sample.course [.adopt .shared (some Sample.vm) .v1_8]).bridge
  let forgotten := (Sample.course [.adopt .shared (some Sample.vm) .v1_8, .reset .shared]).bridge
  have hforgot : Forgot moment.outside .shared 1 := by
    refine ⟨adopted, forgotten, by decide +kernel, by decide +kernel, ?_⟩
    change List.Sublist [Record.seen adopted, Record.seen forgotten]
      [_, Record.seen adopted, _, Record.seen forgotten, _, _]
    simp
  exact ⟨hreaches, by decide +kernel, hreaches.forgotten_inert hforgot⟩

end JavaInterop
