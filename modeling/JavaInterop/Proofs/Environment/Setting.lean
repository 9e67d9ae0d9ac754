import JavaInterop.Lifecycle.Registration
import JavaInterop.Lifecycle.ThreadExit
import JavaInterop.Proofs.Interface.Operand
import JavaInterop.Proofs.Program.Fallible

/-!
# Settings

Most operations change little of what the bridge remembers, and they hand to a machine only what
they were given, what they got as an answer, or what the bridge keeps.  A *setting* says what is
relied on while operations are carried out on one thread: what is true of every call, how the bridge
may have changed after a while, and which references may be handed to which machine.  Its fields are
the conditions under which this makes sense, one for each kind of change that operations make.

While a call is under way other code may act, on the same thread or another one.  A setting does not
exclude this; it only says what such code leaves true.

What an operation does in a setting is put together from what its parts do.  A statement about all
operations is then a statement about the few kinds of changes that a setting allows.
-/

namespace JavaInterop

variable [Host]

/-! ## Changes of the bridge -/

/-- A change after which nothing is registered, hooked or kept that was not before. -/
structure Bridge.Shifts (before after : Bridge) : Prop where
  generation : before.nextGeneration ≤ after.nextGeneration
  registration : ∀ id, (after.lifecycle id).registration = none ∨
    (after.lifecycle id).registration = (before.lifecycle id).registration
  hooked : after.hooked = before.hooked
  classes : after.classes = before.classes
  loader : ∀ thread, (after.thread thread).loader = none ∨
    (after.thread thread).loader = (before.thread thread).loader

omit [Host] in
/-- What is there after such a change was there before. -/
theorem eq_some_of_shift {α : Type} {before after : Option α} {value : α}
    (hshift : after = none ∨ after = before) (hafter : after = some value) :
    before = some value := by
  rcases hshift with hnone | hsame
  · cases hnone.symm.trans hafter
  · exact hsame.symm.trans hafter

/-- A change of what no other part of the bridge depends on. -/
theorem Bridge.Shifts.of_same {before after : Bridge}
    (hgeneration : before.nextGeneration ≤ after.nextGeneration)
    (hlifecycles : after.lifecycles = before.lifecycles) (hhooked : after.hooked = before.hooked)
    (hclasses : after.classes = before.classes) (hthreads : after.threads = before.threads) :
    before.Shifts after := by
  refine ⟨hgeneration, fun id ↦ .inr ?_, hhooked, hclasses, fun thread ↦ .inr ?_⟩
  · unfold Bridge.lifecycle
    rw [hlifecycles]
  · unfold Bridge.thread
    rw [hthreads]

theorem shifts_setLifecycle (bridge : Bridge) (id : LifecycleId) {lifecycle : Lifecycle}
    (hregistration : lifecycle.registration = none ∨
      lifecycle.registration = (bridge.lifecycle id).registration) :
    bridge.Shifts (bridge.setLifecycle id lifecycle) := by
  refine ⟨Nat.le_refl _, fun other ↦ ?_, rfl, rfl, fun _ ↦ .inr rfl⟩
  by_cases hother : other = id
  · rw [hother, Bridge.lifecycle_setLifecycle_self]
    exact hregistration
  · rw [Bridge.lifecycle_setLifecycle_of_ne _ _ hother]
    exact .inr rfl

theorem shifts_setThread (bridge : Bridge) (id : Nat) {thread : ThreadState}
    (hloader : thread.loader = none ∨ thread.loader = (bridge.thread id).loader) :
    bridge.Shifts (bridge.setThread id thread) := by
  refine ⟨Nat.le_refl _, fun _ ↦ .inr rfl, rfl, rfl, fun other ↦ ?_⟩
  by_cases hother : other = id
  · rw [hother, Bridge.thread_setThread_self]
    exact hloader
  · rw [Bridge.thread_setThread_of_ne _ _ hother]
    exact .inr rfl

theorem shifts_erase (bridge : Bridge) (id : Nat) :
    bridge.Shifts { bridge with threads := bridge.threads.erase id } := by
  refine ⟨Nat.le_refl _, fun _ ↦ .inr rfl, rfl, rfl, fun other ↦ ?_⟩
  by_cases hother : other = id
  · exact .inl (by simp [Bridge.thread, hother])
  · exact .inr (by simp [Bridge.thread, Store.find?_erase_of_ne _ hother])

/-! ## Settings -/

/-- What the bridge keeps for a thread: a class that was looked up, or its class loader. -/
inductive Bridge.Keeps (bridge : Bridge) (thread : Nat) (reference : GlobalReference) : Prop
  | classObject (key : DescriptorKey) (hkept : bridge.classes.find? key = some reference)
  | loader (hkept : (bridge.thread thread).loader = some reference)

section

variable {bridge before after : Bridge} {reference : GlobalReference} {thread : Nat}

theorem keeps_of_shifts (hshifts : before.Shifts after) (hkept : after.Keeps thread reference) :
    before.Keeps thread reference := by
  cases hkept with
  | classObject key hfound => exact .classObject key (hshifts.classes ▸ hfound)
  | loader hloader => exact .loader (eq_some_of_shift (hshifts.loader thread) hloader)

/-- What is kept depends on the classes and the threads only. -/
theorem keeps_of_same (hkept : after.Keeps thread reference)
    (hclasses : after.classes = before.classes) (hthreads : after.threads = before.threads) :
    before.Keeps thread reference := by
  cases hkept with
  | classObject key hfound => exact .classObject key (hclasses ▸ hfound)
  | loader hloader =>
    refine .loader ?_
    unfold Bridge.thread at hloader ⊢
    exact hthreads ▸ hloader

omit [Host] in
theorem find?_of_insert {classes : Store DescriptorKey GlobalReference}
    {key other : DescriptorKey} {kept : GlobalReference}
    (hfound : (classes.insert key kept).find? other = some reference) :
    classes.find? other = some reference ∨ reference = kept := by
  by_cases hother : other = key
  · subst hother
    rw [Store.find?_insert_self] at hfound
    exact .inr (Option.some.inj hfound).symm
  · rw [Store.find?_insert_of_ne _ _ hother] at hfound
    exact .inl hfound

theorem loader_of_setThread {id : Nat} {state : ThreadState} {kept : GlobalReference}
    (hstate : state.loader = some kept)
    (hloader : ((bridge.setThread id state).thread thread).loader = some reference) :
    (bridge.thread thread).loader = some reference ∨ reference = kept := by
  by_cases hthread : thread = id
  · subst hthread
    rw [Bridge.thread_setThread_self, hstate] at hloader
    exact .inr (Option.some.inj hloader).symm
  · rw [Bridge.thread_setThread_of_ne _ _ hthread] at hloader
    exact .inl hloader

/-- Besides what was kept before, only the class that was looked up is kept. -/
theorem keeps_insert {key : DescriptorKey} {kept : GlobalReference}
    (hkept : ({ bridge with classes := bridge.classes.insert key kept } : Bridge).Keeps thread
      reference) : bridge.Keeps thread reference ∨ reference = kept := by
  cases hkept with
  | classObject other hfound => exact (find?_of_insert hfound).imp_left (.classObject other)
  | loader hloader => exact .inl (.loader hloader)

/-- Besides what was kept before, only the class loader of the thread is kept. -/
theorem keeps_setThread {id : Nat} {state : ThreadState} {kept : GlobalReference}
    (hstate : state.loader = some kept)
    (hkept : (bridge.setThread id state).Keeps thread reference) :
    bridge.Keeps thread reference ∨ reference = kept := by
  cases hkept with
  | classObject key hfound => exact .inl (.classObject key hfound)
  | loader hloader => exact (loader_of_setThread hstate hloader).imp_left .loader

end

variable {ω α β : Type}

/-- Wherever the reference may be deleted, the machine that does it knows the reference. -/
def Deletable (known : VmId → Handle → Prop) (good : Moment ω → Prop)
    (reference : GlobalReference) : Prop :=
  ∀ moment, good moment → ∀ registration,
    moment.bridge.registered? reference.lifecycle reference.generation = some registration →
    ∀ handle, reference.raw = some handle → known registration.vm handle

omit [Host] in
/-- The reference was issued under the registration of an environment. -/
structure IssuedThrough (own : VmId → Handle → Prop) (env : Env) (reference : GlobalReference) :
    Prop where
  lifecycle : reference.lifecycle = env.lifecycle
  generation : reference.generation = env.generation
  own : ∀ handle, reference.raw = some handle → own env.pointer.vm handle

/-- What is relied on while operations are carried out on a thread. -/
structure Setting (ω : Type) where
  thread : NativeThread
  /-- What is true of every call. -/
  law : Exchange ω → Prop
  /-- The moments at which an operation may be carried out. -/
  good : Moment ω → Prop
  /-- The moments that another one may lead to. -/
  later : Moment ω → Moment ω → Prop
  /-- The references that a machine may answer with. -/
  own : VmId → Handle → Prop
  /-- The references that may be handed to a machine. -/
  known : VmId → Handle → Prop
  /-- The environments that operations may be carried out with. -/
  trusts : Env → Prop
  refl : ∀ moment, later moment moment
  trans : ∀ {first middle last}, later first middle → later middle last → later first last
  stays : ∀ {first last}, good first → later first last → good last
  call : ∀ {exchange}, law exchange → good exchange.before → later exchange.before exchange.after
  knows : ∀ {vm handle}, own vm handle → known vm handle
  answer : ∀ {pointer function reply before after handle},
    law ⟨thread, .env pointer function, reply, before, after⟩ →
    function.answered reply = some handle → own pointer.vm handle
  pointer : ∀ {vm version pointer before after handle},
    law ⟨thread, .getEnv vm version, .ok pointer, before, after⟩ →
    known vm handle → known pointer.vm handle
  attached : ∀ {vm request pointer before after handle},
    law ⟨thread, .attach vm request, .ok pointer, before, after⟩ →
    known vm handle → known pointer.vm handle
  issued : ∀ {env reference}, trusts env → IssuedThrough own env reference →
    Deletable known good reference
  kept : ∀ {moment reference}, good moment → moment.bridge.Keeps thread.id reference →
    Deletable known (fun after ↦ good after ∧ later moment after) reference
  shift : ∀ {moment bridge}, good moment → moment.bridge.Shifts bridge →
    later moment ⟨bridge, moment.outside⟩
  keepClass : ∀ {moment env reference} key, good moment → trusts env →
    IssuedThrough own env reference →
    later moment
      ⟨{ moment.bridge with classes := moment.bridge.classes.insert key reference },
        moment.outside⟩
  keepLoader : ∀ {moment env reference state}, good moment → trusts env →
    IssuedThrough own env reference → state.loader = some reference →
    later moment ⟨moment.bridge.setThread thread.id state, moment.outside⟩

namespace Setting

/-- The setting from a moment on. -/
def since (setting : Setting ω) (moment : Moment ω) : Setting ω where
  thread := setting.thread
  law := setting.law
  good after := setting.good after ∧ setting.later moment after
  later := setting.later
  own := setting.own
  known := setting.known
  trusts := setting.trusts
  refl := setting.refl
  trans := setting.trans
  stays hgood hlater := ⟨setting.stays hgood.1 hlater, setting.trans hgood.2 hlater⟩
  call hlaw hgood := setting.call hlaw hgood.1
  knows := setting.knows
  answer := setting.answer
  pointer := setting.pointer
  attached := setting.attached
  issued htrusts hissued := fun _ hgood ↦ setting.issued htrusts hissued _ hgood.1
  kept hgood hkept := fun _ hafter ↦ setting.kept hgood.1 hkept _ ⟨hafter.1.1, hafter.2⟩
  shift hgood := setting.shift hgood.1
  keepClass key hgood := setting.keepClass key hgood.1
  keepLoader hgood := setting.keepLoader hgood.1

variable (setting : Setting ω)

/-- A call hands over known references only. -/
def Allows (request : Call) : Prop :=
  ∀ vm handle, request.Passes vm handle → setting.known vm handle

/-- The program keeps to the setting and gives what is wanted: however it is run from a good moment,
every call is allowed and is made at a later moment, and the last moment is a later one too. -/
def Admits (program : Program α) (wanted : α → Prop) : Prop :=
  ∀ first, setting.good first →
    Program.Ensures setting.law setting.thread program first fun exchanges result last ↦
      setting.later first last ∧
      (∀ exchange ∈ exchanges, setting.later first exchange.before ∧
        setting.Allows exchange.request) ∧
      wanted result

namespace Admits

variable {setting}

open Program (Ensures)

section

variable {wanted : α → Prop}

theorem weaken {program : Program α} {weaker : α → Prop} (hadmits : setting.Admits program wanted)
    (himplies : ∀ result, wanted result → weaker result) : setting.Admits program weaker := by
  intro first hgood
  refine (hadmits first hgood).weaken ?_
  rintro exchanges result last ⟨hlater, hexchanges, hwanted⟩
  exact ⟨hlater, hexchanges, himplies result hwanted⟩

/-- A program without calls. -/
theorem of_silent {program : Program α} {first : Moment ω}
    (hsilent : Ensures setting.law setting.thread program first fun exchanges result last ↦
      exchanges = [] ∧ setting.later first last ∧ wanted result) :
    Ensures setting.law setting.thread program first fun exchanges result last ↦
      setting.later first last ∧
      (∀ exchange ∈ exchanges, setting.later first exchange.before ∧
        setting.Allows exchange.request) ∧
      wanted result := by
  refine hsilent.weaken ?_
  rintro exchanges result last ⟨rfl, hlater, hwanted⟩
  exact ⟨hlater, fun _ hmem ↦ absurd hmem List.not_mem_nil, hwanted⟩

theorem done {result : α} (hwanted : wanted result) : setting.Admits (pure result) wanted := by
  intro first _
  exact of_silent (Program.ensures_pure.2 ⟨rfl, setting.refl first, hwanted⟩)

theorem bind {program : Program α} {next : α → Program β} {wanted' : β → Prop}
    (hprogram : setting.Admits program wanted)
    (hnext : ∀ value, wanted value → setting.Admits (next value) wanted') :
    setting.Admits (program >>= next) wanted' := by
  intro first hgood
  rw [Program.ensures_bind]
  refine (hprogram first hgood).weaken ?_
  rintro begun value middle ⟨hmiddle, hbegun, hvalue⟩
  refine (hnext value hvalue middle (setting.stays hgood hmiddle)).weaken ?_
  rintro rest result last ⟨hlast, hrest, hresult⟩
  refine ⟨setting.trans hmiddle hlast, fun exchange hmem ↦ ?_, hresult⟩
  rcases List.mem_append.1 hmem with hmem | hmem
  · exact hbegun exchange hmem
  · exact ⟨setting.trans hmiddle (hrest exchange hmem).1, (hrest exchange hmem).2⟩

theorem map {program : Program α} (change : α → β) {wanted : β → Prop}
    (hprogram : setting.Admits program fun value ↦ wanted (change value)) :
    setting.Admits (change <$> program) wanted := by
  rw [← bind_pure_comp]
  exact hprogram.bind fun value hvalue ↦ done hvalue

theorem perform {request : Call} {wanted : request.Reply → Prop}
    (hallows : setting.Allows request)
    (hwanted : ∀ reply before after,
      setting.law ⟨setting.thread, request, reply, before, after⟩ → wanted reply) :
    setting.Admits (Program.perform request) wanted := by
  intro first hgood
  rw [Program.ensures_perform]
  intro reply after hlaw
  refine ⟨setting.call hlaw hgood, fun exchange hmem ↦ ?_, hwanted _ _ _ hlaw⟩
  cases List.mem_singleton.1 hmem
  exact ⟨setting.refl first, hallows⟩

/-- What comes after a look at the bridge sees it at a good moment. -/
theorem state {next : Bridge → Program α}
    (hnext : ∀ moment, setting.good moment → setting.Admits (next moment.bridge) wanted) :
    setting.Admits (Program.state >>= next) wanted := by
  intro first hgood
  rw [Program.ensures_bind, Program.ensures_state]
  exact hnext first hgood first hgood

theorem look {view : Bridge → α}
    (hwanted : ∀ moment, setting.good moment → wanted (view moment.bridge)) :
    setting.Admits (Program.look view) wanted := by
  intro first hgood
  exact of_silent (Program.ensures_look.2 ⟨rfl, setting.refl first, hwanted first hgood⟩)

/-- The bridge may be looked at. -/
theorem glance {view : Bridge → α} : setting.Admits (Program.look view) fun _ ↦ True :=
  look fun _ _ ↦ trivial

theorem current : setting.Admits Program.current fun running ↦ running = setting.thread := by
  intro first _
  exact of_silent (Program.ensures_current.2 ⟨rfl, setting.refl first, rfl⟩)

theorem warn (text : String) : setting.Admits (Program.warn text) fun _ ↦ True := by
  intro first _
  exact of_silent (Program.ensures_warn.2 ⟨rfl, setting.refl first, trivial⟩)

theorem complain (text : String) : setting.Admits (Program.complain text) fun _ ↦ True := by
  intro first _
  exact of_silent (Program.ensures_complain.2 ⟨rfl, setting.refl first, trivial⟩)

theorem update {change : Bridge → Bridge}
    (hlater : ∀ moment, setting.good moment →
      setting.later moment ⟨change moment.bridge, moment.outside⟩) :
    setting.Admits (Program.update change) fun _ ↦ True := by
  intro first hgood
  exact of_silent (Program.ensures_update.2 ⟨rfl, hlater first hgood, trivial⟩)

theorem shift {change : Bridge → Bridge}
    (hshifts : ∀ bridge : Bridge, bridge.Shifts (change bridge)) :
    setting.Admits (Program.update change) fun _ ↦ True :=
  update fun moment hgood ↦ setting.shift hgood (hshifts moment.bridge)

end

theorem forM {items : List α} {each : α → Program Unit}
    (heach : ∀ item, setting.Admits (each item) fun _ ↦ True) :
    setting.Admits (items.forM each) fun _ ↦ True := by
  induction items with
  | nil => exact done trivial
  | cons item items ih => exact (heach item).bind fun _ _ ↦ ih

end Admits

/-! ## Programs that may fail -/

/-- How a program that may fail ends. -/
def Ends (failed : Error → Prop) (wanted : α → Prop) : Except Error α → Prop
  | .ok value => wanted value
  | .error error => failed error

/-- What an error owns was issued through the environment. -/
def Blames (env : Env) (error : Error) : Prop :=
  ∀ reference, error.owned? = some reference → IssuedThrough setting.own env reference

/-- The operation keeps to the setting.  If it succeeds the result is wanted, and otherwise what the
error owns was issued through the environment. -/
abbrev Performs (env : Env) (operation : Fallible α) (wanted : α → Prop) : Prop :=
  setting.Admits operation.run (Ends (setting.Blames env) wanted)

/-- The operation keeps to the setting, whatever comes of it. -/
abbrev Accepts (operation : Fallible α) : Prop :=
  setting.Admits operation.run (Ends (fun _ ↦ True) fun _ ↦ True)

variable {setting} {env : Env}

theorem Admits.accepts {operation : Fallible α} {wanted : Except Error α → Prop}
    (hadmits : setting.Admits operation.run wanted) : setting.Accepts operation := by
  refine hadmits.weaken ?_
  rintro (error | value) -
  · trivial
  · trivial

theorem blames_of_plain {error : Error} (hplain : error.owned? = none) :
    setting.Blames env error := by
  intro reference howned
  cases hplain.symm.trans howned

namespace Admits

variable {failed : Error → Prop} {wanted : α → Prop}

theorem succeed {value : α} (hwanted : wanted value) :
    setting.Admits (pure value : Fallible α).run (Ends failed wanted) :=
  done hwanted

theorem throwThen {error : Error} {next : α → Fallible β} {wanted' : β → Prop}
    (hfailed : failed error) :
    setting.Admits (throw error >>= next : Fallible β).run (Ends failed wanted') := by
  rw [Fallible.run_throw_bind]
  exact done hfailed

theorem throw {error : Error} (hfailed : failed error) :
    setting.Admits (throw error : Fallible α).run (Ends failed wanted) :=
  done hfailed

theorem andThen {operation : Fallible α} {next : α → Fallible β} {wanted' : β → Prop}
    (hoperation : setting.Admits operation.run (Ends failed wanted))
    (hnext : ∀ value, wanted value → setting.Admits (next value).run (Ends failed wanted')) :
    setting.Admits (operation >>= next).run (Ends failed wanted') := by
  rw [ExceptT.run_bind]
  refine hoperation.bind ?_
  rintro (error | value) hends
  · exact done hends
  · exact hnext value hends

theorem liftThen {program : Program α} {next : α → Fallible β} {wanted' : β → Prop}
    (hprogram : setting.Admits program wanted)
    (hnext : ∀ value, wanted value → setting.Admits (next value).run (Ends failed wanted')) :
    setting.Admits (liftM program >>= next : Fallible β).run (Ends failed wanted') := by
  rw [Fallible.run_lift_bind]
  exact hprogram.bind hnext

theorem lift {program : Program α} (hprogram : setting.Admits program wanted) :
    setting.Admits (liftM program : Fallible α).run (Ends failed wanted) :=
  Admits.map Except.ok hprogram

theorem thenAlways {body : Fallible α} {release : Program Unit}
    (hbody : setting.Admits body.run (Ends failed wanted))
    (hrelease : setting.Admits release fun _ ↦ True) :
    setting.Admits (body.thenAlways release).run (Ends failed wanted) :=
  Admits.bind hbody fun _ hends ↦ hrelease.bind fun _ _ ↦ done hends

theorem mapFailure {failed' : Error → Prop} {body : Fallible α} {change : Error → Program Error}
    (hbody : setting.Admits body.run (Ends failed wanted))
    (hchange : ∀ error, failed error → setting.Admits (change error) failed') :
    setting.Admits (body.mapFailure change).run (Ends failed' wanted) := by
  refine Admits.bind hbody ?_
  rintro (error | value) hends
  · exact Admits.map _ (hchange error hends)
  · exact done hends

theorem ofStatus {status : Except Status α} {error : Status → Error}
    (hfailed : ∀ code, failed (error code)) (hwanted : ∀ value, status = .ok value → wanted value) :
    setting.Admits (Fallible.ofStatus status error).run (Ends failed wanted) := by
  cases status with
  | ok value => exact succeed (hwanted value rfl)
  | error code => exact throw (hfailed code)

end Admits

namespace Performs

theorem fail {error : Error} {wanted : α → Prop} (hplain : error.owned? = none) :
    setting.Performs env (throw error) wanted :=
  Admits.throw (blames_of_plain hplain)

theorem failThen {error : Error} {next : α → Fallible β} {wanted : β → Prop}
    (hplain : error.owned? = none) :
    setting.Performs env (throw error >>= next : Fallible β) wanted :=
  Admits.throwThen (blames_of_plain hplain)

theorem nonNull (reference : Option α) (place : String) :
    setting.Performs env (Fallible.nonNull reference place) fun present ↦
      reference = some present := by
  cases reference with
  | none => exact fail rfl
  | some present => exact Admits.succeed rfl

theorem ended (text : String) :
    setting.Performs env (Fallible.ended text) fun _ ↦ True := by
  unfold Fallible.ended
  cases Text.CString.ofText text with
  | ok bytes => exact Admits.succeed trivial
  | error position => exact fail rfl

theorem ofStatus (status : Except Status α) :
    setting.Performs env (Fallible.ofStatus status .callFailed) fun _ ↦ True :=
  Admits.ofStatus (fun _ ↦ blames_of_plain rfl) fun _ _ ↦ trivial

end Performs

end Setting

end JavaInterop
