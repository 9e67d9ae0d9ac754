import JavaInterop.Proofs.Lifecycle.Admission
import JavaInterop.Proofs.Lifecycle.Attachments

/-!
# Nested work

A piece of work that has an environment may ask for one again, for good or for the duration of
another piece of work, and it may give up references, which can attach the thread for a moment.
`Work` is the syntax of everything that a thread does in this way, and `Work.plain` is what it would
do if it had one environment all along and did not care about attachments.

Only the outermost piece of work makes a difference.  If the thread is attached when it begins, then
nothing is attached or detached any more; otherwise the thread is attached once, and detached once
if that is asked for.  The work itself is the plain one.

A thread that is already exiting can be left no hook.  What is counted are the ways to the machine
of the one lifecycle: giving up a reference of another machine may take the thread there for a
moment.  Machines tell the truth and refuse nothing, and nobody else writes to the books during a
call.
-/

namespace JavaInterop

open Program (Ensures)

variable [Host] {α : Type}

/-! ## What is relied on -/

/-- What a machine answers, and what becomes of the attachments.  An attempt to find out whether the
thread is attached changes nothing. -/
def Hospitality (thread : Nat) (before after : Moment Attachments) :
    (request : Call) → request.Reply → Prop
  | .getEnv vm _, reply => after = before ∧ reply =
    (before.outside vm thread).elim (.error .threadDetached) fun number ↦ .ok ⟨vm, number⟩
  | .attach vm _, reply => ∃ number, reply = .ok ⟨vm, number⟩ ∧
    after.outside = before.outside.put vm thread (some number)
  | .detach vm, reply => reply = .ok () ∧ after.outside = before.outside.put vm thread none
  | .env .., _ => after.outside = before.outside
  | _, _ => True

structure Exchange.Hospitable (exchange : Exchange Attachments) : Prop where
  books : exchange.Keeps Bridge.books
  law : Hospitality exchange.caller.id exchange.before exchange.after exchange.request
    exchange.reply

/-- The books and the attachments. -/
def Moment.standing (moment : Moment Attachments) : Books × Attachments :=
  (moment.bridge.books, moment.outside)

/-- No hook is left over on a thread for a machine that it is not attached to. -/
def Tidy (thread : Nat) (standing : Books × Attachments) : Prop :=
  ∀ id registration, (standing.1.lifecycle id).registration = some registration →
    standing.2 registration.vm thread = none →
    (⟨id, registration.generation⟩ : PendingDetach) ∉ standing.1.hooks thread

/-- A thread that is attached to the machine of a lifecycle. -/
structure Inside (id : LifecycleId) (registration : Registration) (number thread : Nat)
    (standing : Books × Attachments) : Prop where
  registered : (standing.1.lifecycle id).registration = some registration
  attached : standing.2 registration.vm thread = some number
  tidy : Tidy thread standing

/-! ## What is seen of the calls -/

/-- A thread comes to a machine or leaves it. -/
inductive Passage where
  | arrival
  | departure
deriving DecidableEq

/-- Whether the caller is to come to a machine or to leave it. -/
def Call.passage? (vm : VmId) : Call → Option Passage
  | .attach other _ => if other = vm then some .arrival else none
  | .detach other => if other = vm then some .departure else none
  | _ => none

/-- The call has nothing to do with the attachment of the caller to a machine. -/
def Call.isWork (vm : VmId) : Call → Bool
  | .getEnv other _ | .attach other _ | .detach other => other ≠ vm
  | _ => true

variable {ω : Type}

/-- How often and in which order the thread comes and goes. -/
def passages (vm : VmId) (exchanges : List (Exchange ω)) : List Passage :=
  exchanges.filterMap fun exchange ↦ exchange.request.passage? vm

/-- The calls apart from those about the attachment of the thread to a machine. -/
def substance (vm : VmId) (exchanges : List (Exchange ω)) : List (Exchange ω) :=
  exchanges.filter fun exchange ↦ exchange.request.isWork vm

@[simp]
theorem passages_nil (vm : VmId) : passages vm ([] : List (Exchange ω)) = [] := rfl

@[simp]
theorem passages_cons (vm : VmId) (exchange : Exchange ω) (rest : List (Exchange ω)) :
    passages vm (exchange :: rest) =
      (exchange.request.passage? vm).toList ++ passages vm rest := by
  unfold passages
  cases hpassage : exchange.request.passage? vm <;> simp [hpassage]

@[simp]
theorem passages_append (vm : VmId) (begun rest : List (Exchange ω)) :
    passages vm (begun ++ rest) = passages vm begun ++ passages vm rest :=
  List.filterMap_append

@[simp]
theorem substance_nil (vm : VmId) : substance vm ([] : List (Exchange ω)) = [] := rfl

@[simp]
theorem substance_cons (vm : VmId) (exchange : Exchange ω) (rest : List (Exchange ω)) :
    substance vm (exchange :: rest) =
      if exchange.request.isWork vm then exchange :: substance vm rest else substance vm rest :=
  List.filter_cons

@[simp]
theorem substance_append (vm : VmId) (begun rest : List (Exchange ω)) :
    substance vm (begun ++ rest) = substance vm begun ++ substance vm rest :=
  List.filter_append ..

/-! ## Coming and going -/

variable {thread : NativeThread} {first : Moment Attachments} {id : LifecycleId}
  {registration : Registration} {number : Nat}

/-- The thread is told whether it is attached, and nothing changes. -/
theorem hospitable_getEnv {version : Version} {vm : VmId} {answer : Except Status EnvPointer}
    {asked : Moment Attachments}
    (hasked : Exchange.Hospitable ⟨thread, .getEnv vm version, answer, first, asked⟩) :
    asked = first ∧ answer = (first.outside vm thread.id).elim (.error .threadDetached)
      fun number ↦ .ok ⟨vm, number⟩ :=
  hasked.law

theorem ensures_attachTo_inside (config : AttachConfig)
    (hattached : first.outside registration.vm thread.id = some number) :
    Ensures Exchange.Hospitable thread (id.attachTo registration config).run first
      fun exchanges result last ↦ last = first ∧
        result = .ok (⟨registration.vm, number⟩, false) ∧
        ∃ answer, exchanges =
          [⟨thread, .getEnv registration.vm registration.version, answer, first, first⟩] := by
  refine (id.ensures_attachTo_approach config).weaken fun exchanges result last happroach ↦ ?_
  cases happroach with
  | present hasked =>
    obtain ⟨rfl, hanswer⟩ := hospitable_getEnv hasked
    rw [hattached] at hanswer
    cases hanswer
    exact ⟨rfl, rfl, _, rfl⟩
  | unclear _ hasked | refused hasked _ | admitted hasked _ =>
    obtain ⟨-, hanswer⟩ := hospitable_getEnv hasked
    rw [hattached] at hanswer
    cases hanswer

theorem ensures_attachTo_outside (config : AttachConfig)
    (hdetached : first.outside registration.vm thread.id = none) :
    Ensures Exchange.Hospitable thread (id.attachTo registration config).run first
      fun exchanges result last ↦ ∃ number,
        result = .ok (⟨registration.vm, number⟩, true) ∧
        last.bridge.books =
          first.bridge.books.arrive id registration thread config.isScoped ∧
        last.outside = first.outside.put registration.vm thread.id (some number) ∧
        ∃ answer request granted asked attached, exchanges =
          [⟨thread, .getEnv registration.vm registration.version, answer, first, asked⟩,
            ⟨thread, .attach registration.vm request, granted, asked, attached⟩] := by
  refine (id.ensures_attachTo_approach config).weaken fun exchanges result last happroach ↦ ?_
  cases happroach with
  | present hasked =>
    obtain ⟨-, hanswer⟩ := hospitable_getEnv hasked
    rw [hdetached] at hanswer
    cases hanswer
  | unclear hstatus hasked =>
    obtain ⟨-, hanswer⟩ := hospitable_getEnv hasked
    rw [hdetached] at hanswer
    exact absurd (Except.error.inj hanswer) hstatus
  | refused _ hattached =>
    obtain ⟨-, number, hanswer, -⟩ := hattached
    cases hanswer
  | admitted hasked hattached =>
    obtain ⟨rfl, -⟩ := hospitable_getEnv hasked
    obtain ⟨hbooks, number, hanswer, hput⟩ := hattached
    cases hanswer
    exact ⟨number, rfl, (books_receive ..).trans (congrArg (Books.arrive · ..) hbooks), hput,
      _, _, _, _, _, rfl⟩

/-- The books after the thread was detached. -/
def Books.depart (books : Books) (id : LifecycleId) (registration : Registration)
    (thread : Nat) : Books :=
  (books.rehook thread (·.filter (· ≠ ⟨id, registration.generation⟩))).recount id (· - 1)

theorem ensures_detachFrom_inside
    (hattached : first.outside registration.vm thread.id = some number) :
    Ensures Exchange.Hospitable thread (id.detachFrom registration) first
      fun exchanges _ last ↦
        last.bridge.books = first.bridge.books.depart id registration thread.id ∧
        last.outside = first.outside.put registration.vm thread.id none ∧
        ∃ answer asked granted detached, exchanges =
          [⟨thread, .getEnv registration.vm registration.version, answer, asked, asked⟩,
            ⟨thread, .detach registration.vm, granted, asked, detached⟩] := by
  refine LifecycleId.ensures_detachFrom_parting.weaken fun exchanges _ last hparting ↦ ?_
  cases hparting with
  | absent hasked =>
    obtain ⟨-, hanswer⟩ := hospitable_getEnv hasked
    rw [hattached] at hanswer
    cases hanswer
  | refused _ hdetached =>
    obtain ⟨-, hanswer, -⟩ := hdetached
    cases hanswer
  | left hasked hdetached =>
    obtain ⟨rfl, -⟩ := hospitable_getEnv hasked
    obtain ⟨hbooks, -, houtside⟩ := hdetached
    refine ⟨?_, houtside, _, _, _, _, rfl⟩
    change Bridge.books _ = Bridge.books _ at hbooks
    rw [books_recount, hbooks, Bridge.excuse, books_rehook]
    rfl

theorem ensures_env_hospitable (pointer : EnvPointer) (function : EnvFunction) :
    Ensures Exchange.Hospitable thread (Program.perform (.env pointer function)) first
      fun exchanges _ last ↦ last.standing = first.standing ∧
        ∀ vm, passages vm exchanges = [] := by
  rw [Program.ensures_perform]
  rintro reply after ⟨hbooks, houtside⟩
  exact ⟨Prod.ext hbooks houtside, fun vm ↦ rfl⟩

omit [Host] in
/-- A visitor leaves the books as they were. -/
theorem Books.depart_arrive {books : Books} {thread : NativeThread}
    (htidy : ⟨id, registration.generation⟩ ∉ books.hooks thread.id) :
    (books.arrive id registration thread true).depart id registration thread.id = books := by
  have hfilter : (books.hooks thread.id).filter (· ≠ ⟨id, registration.generation⟩) =
      books.hooks thread.id := by
    rw [List.filter_eq_self]
    intro pending hmem
    rw [decide_eq_true_iff]
    rintro rfl
    exact htidy hmem
  unfold arrive depart
  rw [if_pos (.inr rfl)]
  simp only [recount, rehook, Function.update_self, Function.update_idem, hfilter,
    Function.update_eq_self, Nat.add_sub_cancel]

omit [Host] in
/-- Coming and going leaves the attachments as they were. -/
theorem put_put_none {attachments : Attachments} {vm : VmId} {thread : Nat} {stay : Option Nat}
    (hdetached : attachments vm thread = none) :
    (attachments.put vm thread stay).put vm thread none = attachments := by
  funext other caller
  by_cases hsame : other = vm ∧ caller = thread
  · obtain ⟨rfl, rfl⟩ := hsame
    simp [hdetached]
  · simp [Attachments.put, hsame]

/-- After a visit everything is as it was. -/
theorem standing_of_visit {books : Books} {last : Moment Attachments}
    (hbooks : books = first.bridge.books.arrive id registration thread true)
    (hlast : last.bridge.books = books.depart id registration thread.id)
    (houtside : last.outside =
      (first.outside.put registration.vm thread.id (some number)).put registration.vm thread.id
        none)
    (hregistered : (first.bridge.books.lifecycle id).registration = some registration)
    (hdetached : first.outside registration.vm thread.id = none)
    (htidy : Tidy thread.id first.standing) : last.standing = first.standing := by
  subst hbooks
  refine Prod.ext ?_ ?_
  · exact hlast.trans (Books.depart_arrive (htidy id registration hregistered hdetached))
  · exact houtside.trans (put_put_none hdetached)

/-! ## Giving up a reference -/

/-- Giving up a reference does not change where the thread stands, and takes it to no machine that
it is attached to. -/
theorem ensures_deleteGlobal_hospitable (generation : Nat) (handle : Handle)
    (htidy : Tidy thread.id first.standing) :
    Ensures Exchange.Hospitable thread (id.deleteGlobal generation handle) first
      fun exchanges _ last ↦ last.standing = first.standing ∧
        ∀ vm, (first.outside vm thread.id).isSome → passages vm exchanges = [] := by
  rw [LifecycleId.ensures_deleteGlobal_iff]
  cases hregistered : first.bridge.registered? id generation with
  | none => exact ⟨rfl, fun _ _ ↦ rfl⟩
  | some registration =>
    have hregistration : (first.bridge.books.lifecycle id).registration = some registration :=
      (Option.filter_eq_some_iff.1 hregistered).1
    cases hstay : first.outside registration.vm thread.id with
    | some number =>
      refine (ensures_attachTo_inside { isScoped := true } hstay).weaken ?_
      rintro _ _ _ ⟨rfl, rfl, answer, rfl⟩
      refine (ensures_env_hospitable ⟨registration.vm, number⟩ (.deleteGlobalRef handle)).weaken ?_
      rintro deletion _ last ⟨hlast, hdeletion⟩
      refine ⟨hlast, fun vm _ ↦ ?_⟩
      simp [hdeletion, Call.passage?]
    | none =>
      refine (ensures_attachTo_outside { isScoped := true } hstay).weaken ?_
      rintro _ _ attached ⟨number, rfl, hbooks, houtside, _, _, _, _, _, rfl⟩
      refine (ensures_env_hospitable ⟨registration.vm, number⟩ (.deleteGlobalRef handle)).weaken ?_
      rintro deletion _ deleted ⟨hdeleted, hdeletion⟩
      obtain ⟨hsameBooks, hsameOutside⟩ := Prod.ext_iff.1 hdeleted
      change deleted.bridge.books = attached.bridge.books at hsameBooks
      change deleted.outside = attached.outside at hsameOutside
      have hthere : deleted.outside registration.vm thread.id = some number := by
        rw [hsameOutside, houtside, put_self]
      rw [if_pos rfl]
      refine (ensures_detachFrom_inside hthere).weaken ?_
      rintro _ _ last ⟨hlast, hlastOutside, _, _, _, _, rfl⟩
      rw [hsameOutside, houtside] at hlastOutside
      refine ⟨standing_of_visit (hsameBooks.trans hbooks) hlast hlastOutside hregistration hstay
        htidy, fun vm hvm ↦ ?_⟩
      have hother : registration.vm ≠ vm := by
        rintro rfl
        simp [hstay] at hvm
      simp [hdeletion, Call.passage?, hother]

theorem ensures_drop_hospitable (reference : GlobalReference)
    (htidy : Tidy thread.id first.standing) :
    Ensures Exchange.Hospitable thread reference.drop first
      fun exchanges _ last ↦ last.standing = first.standing ∧
        ∀ vm, (first.outside vm thread.id).isSome → passages vm exchanges = [] := by
  rw [GlobalReference.ensures_drop_iff]
  cases reference.raw with
  | none => exact ⟨rfl, fun _ _ ↦ rfl⟩
  | some handle => exact ensures_deleteGlobal_hospitable _ handle htidy

/-! ## Work -/

/-- What a thread may do with an environment.  It may attach, which makes no difference, give up
references, call functions of environments, and do another piece of work that gets an environment of
its own. -/
inductive Work : Type → Type 1
  | done {α : Type} (result : Except Error α) : Work α
  | attach {α : Type} (config : AttachConfig) (next : Except Error Env → Work α) : Work α
  | release {α : Type} (reference : GlobalReference) (next : Work α) : Work α
  | call {α : Type} (pointer : EnvPointer) (function : EnvFunction)
      (next : function.Reply → Work α) : Work α
  | within {α β : Type} (config : AttachConfig) (inner : Env → Work β)
      (next : Except Error β → Work α) : Work α

namespace Work

/-- What is run for a piece of work. -/
def program {α : Type} (id : LifecycleId) : Work α → Fallible α
  | done result => ExceptT.mk (pure result)
  | attach config next => do
    let answer ← liftM (id.attach config).run
    (next answer).program id
  | release reference next => do
    reference.drop
    next.program id
  | call pointer function next => do
    let reply ← Program.perform (.env pointer function)
    (next reply).program id
  | within config inner next => do
    let result ← liftM (id.withEnv config fun env ↦ (inner env).program id).run
    (next result).program id

/-- What would be run if the thread had one environment all along.  An inner piece of work gets this
environment, too, and its result is handed on. -/
def plain {α : Type} (env : Env) : Work α → Fallible α
  | done result => ExceptT.mk (pure result)
  | attach _ next => (next (.ok env)).plain env
  | release reference next => do
    reference.drop
    (next.plain env)
  | call pointer function next => do
    let reply ← Program.perform (.env pointer function)
    (next reply).plain env
  | within _ inner next => do
    let result ← liftM ((inner env).plain env).run
    (next result).plain env

end Work

/-! ## Work that begins while the thread is attached -/

/-- The thread stands where it stood, has neither come nor gone, and has otherwise done what another
program would have done. -/
structure AmountsTo (vm : VmId) (program : Program α) (thread : NativeThread)
    (first : Moment Attachments) (exchanges : List (Exchange Attachments)) (result : α)
    (last : Moment Attachments) : Prop where
  standing : last.standing = first.standing
  passages : passages vm exchanges = []
  run : ∃ seen, program.Run thread first seen result last ∧
    substance vm seen = substance vm exchanges

namespace AmountsTo

variable {β : Type} {vm : VmId} {middle last : Moment Attachments}
  {begun rest : List (Exchange Attachments)}

theorem done (result : α) : AmountsTo vm (pure result) thread first [] result first :=
  ⟨rfl, rfl, [], .done result first, rfl⟩

theorem bind {program : Program α} {next : α → Program β} {value : α} {result : β}
    (hprogram : AmountsTo vm program thread first begun value middle)
    (hnext : AmountsTo vm (next value) thread middle rest result last) :
    AmountsTo vm (program >>= next) thread first (begun ++ rest) result last := by
  obtain ⟨seen, hseen, hbegun⟩ := hprogram.run
  obtain ⟨later, hlater, hrest⟩ := hnext.run
  refine ⟨hnext.standing.trans hprogram.standing, ?_, seen ++ later, hseen.bind hlater, ?_⟩
  · rw [passages_append, hprogram.passages, hnext.passages]
    rfl
  · rw [substance_append, substance_append, hbegun, hrest]

/-- Questions about the attachment do not matter. -/
theorem after {program : Program α} {result : α} (hpassages : JavaInterop.passages vm begun = [])
    (hsubstance : substance vm begun = [])
    (hprogram : AmountsTo vm program thread first rest result last) :
    AmountsTo vm program thread first (begun ++ rest) result last := by
  obtain ⟨seen, hseen, hrest⟩ := hprogram.run
  refine ⟨hprogram.standing, ?_, seen, hseen, ?_⟩
  · rw [passages_append, hpassages, hprogram.passages]
    rfl
  · rw [substance_append, hsubstance, hrest]
    rfl

end AmountsTo

/-- The calls of a program that is no concern of the machine's amount to that program. -/
theorem ensures_amountsTo {program : Program α} {vm : VmId}
    (hprogram : Ensures Exchange.Hospitable thread program first fun exchanges _ last ↦
      last.standing = first.standing ∧ passages vm exchanges = []) :
    Ensures Exchange.Hospitable thread program first (AmountsTo vm program thread first) := by
  intro exchanges result last hrun hlaw
  obtain ⟨hstanding, hpassages⟩ := hprogram exchanges result last hrun hlaw
  exact ⟨hstanding, hpassages, exchanges, hrun, rfl⟩

theorem ensures_enter_inside (config : AttachConfig)
    (hinside : Inside id registration number thread.id first.standing) :
    Ensures Exchange.Hospitable thread (id.enter config).run first fun exchanges result last ↦
      last = first ∧ result = .ok (.of id registration ⟨registration.vm, number⟩, false) ∧
        passages registration.vm exchanges = [] ∧ substance registration.vm exchanges = [] := by
  rw [LifecycleId.ensures_enter_iff_of_registered hinside.registered]
  refine (ensures_attachTo_inside config hinside.attached).weaken ?_
  rintro _ _ _ ⟨rfl, rfl, answer, rfl⟩
  exact ⟨rfl, rfl, by simp [Call.passage?], by simp [Call.isWork]⟩

theorem ensures_attach_inside (config : AttachConfig)
    (hinside : Inside id registration number thread.id first.standing) :
    Ensures Exchange.Hospitable thread (id.attach config).run first fun exchanges result last ↦
      last = first ∧ result = .ok (.of id registration ⟨registration.vm, number⟩) ∧
        passages registration.vm exchanges = [] ∧ substance registration.vm exchanges = [] := by
  rw [LifecycleId.ensures_attach_iff]
  refine (ensures_enter_inside _ hinside).weaken ?_
  rintro _ _ _ ⟨rfl, rfl, hpassages, hsubstance⟩
  exact ⟨rfl, rfl, hpassages, hsubstance⟩

/-- An inner piece of work is done with the environment that the thread has, and nothing is left to
be done in the end. -/
theorem ensures_withEnv_inside {config : AttachConfig} {inner : Env → Fallible α}
    {plain : Program (Except Error α)}
    (hinside : Inside id registration number thread.id first.standing)
    (hinner : Ensures Exchange.Hospitable thread
      (inner (.of id registration ⟨registration.vm, number⟩)).run first
      (AmountsTo registration.vm plain thread first)) :
    Ensures Exchange.Hospitable thread (id.withEnv config inner).run first
      (AmountsTo registration.vm plain thread first) := by
  unfold LifecycleId.withEnv
  rw [Fallible.ensures_bind]
  refine (ensures_enter_inside config hinside).weaken ?_
  rintro _ _ _ ⟨rfl, rfl, hpassages, hsubstance⟩
  rw [Fallible.continues_ok]
  dsimp only
  rw [Fallible.ensures_thenAlways]
  refine hinner.weaken fun rest result last hrest ↦ ?_
  rw [LifecycleId.ensures_leave_iff, Bool.false_and, if_neg Bool.false_ne_true]
  dsimp only
  rw [List.append_nil]
  exact hrest.after hpassages hsubstance

/-- However work is nested, while the thread is attached it amounts to the plain one. -/
theorem Work.ensures_inside (work : Work α)
    (hinside : Inside id registration number thread.id first.standing) :
    Ensures Exchange.Hospitable thread (work.program id).run first
      (AmountsTo registration.vm
        (work.plain (.of id registration ⟨registration.vm, number⟩)).run thread first) := by
  induction work generalizing first with
  | done result => exact Program.ensures_pure.2 (.done result)
  | attach config next ih =>
    rw [program, Fallible.ensures_liftThen]
    refine (ensures_attach_inside config hinside).weaken ?_
    rintro _ _ _ ⟨rfl, rfl, hpassages, hsubstance⟩
    exact (ih _ hinside).weaken fun _ _ _ hrest ↦ hrest.after hpassages hsubstance
  | release reference next ih =>
    rw [program, plain, Fallible.ensures_liftThen, Fallible.run_lift_bind]
    have hdrop := (ensures_drop_hospitable reference hinside.tidy).weaken
      fun exchanges _ last hlast ↦ And.intro hlast.1
        (hlast.2 registration.vm (Option.isSome_of_eq_some hinside.attached))
    refine (ensures_amountsTo hdrop).weaken fun begun _ middle hbegun ↦ ?_
    exact (ih (hbegun.standing ▸ hinside)).weaken fun _ _ _ hrest ↦ hbegun.bind hrest
  | call pointer function next ih =>
    rw [program, plain, Fallible.ensures_liftThen, Fallible.run_lift_bind]
    have hcall : Ensures Exchange.Hospitable thread (Program.perform (.env pointer function)) first
        fun exchanges _ last ↦ last.standing = first.standing ∧
          passages registration.vm exchanges = [] :=
      (ensures_env_hospitable pointer function).weaken
        fun _ _ _ hlast ↦ ⟨hlast.1, hlast.2 registration.vm⟩
    refine (ensures_amountsTo hcall).weaken fun begun reply middle hbegun ↦ ?_
    exact (ih reply (hbegun.standing ▸ hinside)).weaken fun _ _ _ hrest ↦ hbegun.bind hrest
  | within config inner next ihInner ihNext =>
    rw [program, plain, Fallible.ensures_liftThen, Fallible.run_lift_bind]
    refine (ensures_withEnv_inside hinside (ihInner _ hinside)).weaken
      fun begun result middle hbegun ↦ ?_
    exact (ihNext result (hbegun.standing ▸ hinside)).weaken fun _ _ _ hrest ↦ hbegun.bind hrest

/-! ## Work that begins with a thread that may not be attached -/

omit [Host] in
@[simp]
theorem registration_arrive (books : Books) (id other : LifecycleId) (registration : Registration)
    (thread : NativeThread) (isScoped : Bool) :
    ((books.arrive id registration thread isScoped).lifecycle other).registration =
      (books.lifecycle other).registration := by
  have hrecount : ((books.recount id (· + 1)).lifecycle other).registration =
      (books.lifecycle other).registration := by
    by_cases hother : other = id
    · simp [Books.recount, hother]
    · simp [Books.recount, hother]
  unfold Books.arrive
  split
  · exact hrecount
  · rw [Books.lifecycle_defer]
    exact hrecount

omit [Host] in
/-- A newcomer has one hook, and none if it is the founder or exiting. -/
theorem count_arrive {books : Books} {thread : NativeThread}
    (htidy : ⟨id, registration.generation⟩ ∉ books.hooks thread.id) :
    ((books.arrive id registration thread false).hooks thread.id).count
      ⟨id, registration.generation⟩ =
        if thread.id = registration.creator ∨ thread.isExiting then 0 else 1 := by
  have hnone : (books.hooks thread.id).count ⟨id, registration.generation⟩ = 0 :=
    List.count_eq_zero.2 htidy
  have hkept : ∀ keeps : PendingDetach → Bool,
      ((books.hooks thread.id).filter keeps).count ⟨id, registration.generation⟩ = 0 :=
    fun keeps ↦ List.count_eq_zero.2 fun hmem ↦ htidy (List.mem_filter.1 hmem).1
  unfold Books.arrive Books.defer
  by_cases hcreator : thread.id = registration.creator
  · rw [if_pos (.inl hcreator), if_pos (.inl hcreator)]
    exact hnone
  · cases hexits : thread.isExiting with
    | true => simp [hcreator, Books.recount, hnone]
    | false => simp [hcreator, Books.recount, Books.rehook, hkept]

omit [Host] in
/-- The hook of a newcomer is one for a machine that it is attached to. -/
theorem Tidy.arrive {standing : Books × Attachments} {thread : NativeThread} (isScoped : Bool)
    (htidy : Tidy thread.id standing)
    (hregistered : (standing.1.lifecycle id).registration = some registration) :
    Tidy thread.id (standing.1.arrive id registration thread isScoped,
      standing.2.put registration.vm thread.id (some number)) := by
  intro other found hfound hdetached
  have hvm : found.vm ≠ registration.vm := by
    intro hsame
    simp [hsame] at hdetached
  rw [registration_arrive] at hfound
  have hbefore : standing.2 found.vm thread.id = none := by
    simpa [Attachments.put, hvm] using hdetached
  have hnone : ⟨other, found.generation⟩ ∉ standing.1.hooks thread.id :=
    htidy other found hfound hbefore
  unfold Books.arrive
  split
  · exact hnone
  · intro hmem
    rcases Books.mem_hooks_defer _ _ _ hmem with hbefore | hsame
    · exact hnone hbefore
    · injection hsame with hother
      subst hother
      cases hfound.symm.trans hregistered
      exact hvm rfl

theorem ensures_enter_outside (config : AttachConfig)
    (hregistered : (first.bridge.lifecycle id).registration = some registration)
    (htidy : Tidy thread.id first.standing)
    (hdetached : first.outside registration.vm thread.id = none) :
    Ensures Exchange.Hospitable thread (id.enter config).run first fun exchanges result last ↦
      ∃ number, result = .ok (.of id registration ⟨registration.vm, number⟩, true) ∧
        last.bridge.books =
          first.bridge.books.arrive id registration thread config.isScoped ∧
        last.outside = first.outside.put registration.vm thread.id (some number) ∧
        Inside id registration number thread.id last.standing ∧
        passages registration.vm exchanges = [.arrival] ∧
        substance registration.vm exchanges = [] := by
  rw [LifecycleId.ensures_enter_iff_of_registered hregistered]
  refine (ensures_attachTo_outside config hdetached).weaken ?_
  rintro _ _ last ⟨number, rfl, hbooks, houtside, _, _, _, _, _, rfl⟩
  have hstanding : last.standing =
      (first.bridge.books.arrive id registration thread config.isScoped,
        first.outside.put registration.vm thread.id (some number)) := Prod.ext hbooks houtside
  refine ⟨number, rfl, hbooks, houtside, ?_, by simp [Call.passage?], by simp [Call.isWork]⟩
  rw [hstanding]
  exact ⟨(registration_arrive ..).trans hregistered, put_self .., htidy.arrive _ hregistered⟩

theorem ensures_leave_inside {config : AttachConfig} (hscoped : config.isScoped = true)
    (hinside : Inside id registration number thread.id first.standing) :
    Ensures Exchange.Hospitable thread
      (id.leave config (.of id registration ⟨registration.vm, number⟩) true) first
      fun exchanges _ last ↦
        last.bridge.books = first.bridge.books.depart id registration thread.id ∧
        last.outside = first.outside.put registration.vm thread.id none ∧
        passages registration.vm exchanges = [.departure] ∧
        substance registration.vm exchanges = [] := by
  have hregistered : first.bridge.registered? id registration.generation = some registration :=
    Option.filter_eq_some_iff.2 ⟨hinside.registered, beq_self_eq_true _⟩
  rw [LifecycleId.ensures_leave_iff, hscoped, Bool.and_self, if_pos rfl]
  simp only [Env.of, hregistered]
  refine (ensures_detachFrom_inside hinside.attached).weaken ?_
  rintro _ _ last ⟨hbooks, houtside, _, _, _, _, rfl⟩
  exact ⟨hbooks, houtside, by simp [Call.passage?], by simp [Call.isWork]⟩

/-- What comes of a piece of work for which a thread has, or gets, the environment with a given
number. -/
structure Visit (id : LifecycleId) (registration : Registration) (config : AttachConfig)
    (inner : Env → Work α) (thread : NativeThread) (number : Nat) (first : Moment Attachments)
    (exchanges : List (Exchange Attachments)) (result : Except Error α)
    (last : Moment Attachments) : Prop where
  /-- A thread that is attached stays so. -/
  resident : ∀ stay, first.outside registration.vm thread.id = some stay →
    number = stay ∧ passages registration.vm exchanges = [] ∧ last.standing = first.standing
  /-- One that is not comes and goes once if the work is scoped. -/
  visitor : first.outside registration.vm thread.id = none → config.isScoped = true →
    passages registration.vm exchanges = [.arrival, .departure] ∧
      last.standing = first.standing
  /-- Otherwise it comes once and stays, with one hook unless it is the founder or exiting. -/
  newcomer : first.outside registration.vm thread.id = none → config.isScoped = false →
    passages registration.vm exchanges = [.arrival] ∧
      last.outside = first.outside.put registration.vm thread.id (some number) ∧
      last.bridge.books = first.bridge.books.arrive id registration thread false ∧
      (last.bridge.books.hooks thread.id).count ⟨id, registration.generation⟩ =
        if thread.id = registration.creator ∨ thread.isExiting then 0 else 1
  /-- There is no hook for a machine that the thread has left. -/
  tidy : Tidy thread.id last.standing
  /-- All parts of the work are done with the one environment, and their results are handed on. -/
  uniform : ∃ begun seen ended, begun.outside registration.vm thread.id = some number ∧
    ((inner (.of id registration ⟨registration.vm, number⟩)).plain
      (.of id registration ⟨registration.vm, number⟩)).run.Run thread begun seen result ended ∧
    substance registration.vm seen = substance registration.vm exchanges

/-- Nested work is done with one environment, and whoever came for it leaves with its end. -/
theorem Work.ensures_visit (config : AttachConfig) (inner : Env → Work α)
    (hregistered : (first.bridge.lifecycle id).registration = some registration)
    (htidy : Tidy thread.id first.standing) :
    Ensures Exchange.Hospitable thread
      (id.withEnv config fun env ↦ (inner env).program id).run first
      fun exchanges result last ↦ ∃ number,
        Visit id registration config inner thread number first exchanges result last := by
  cases hstay : first.outside registration.vm thread.id with
  | some number =>
    have hinside : Inside id registration number thread.id first.standing :=
      ⟨hregistered, hstay, htidy⟩
    refine (ensures_withEnv_inside hinside (ensures_inside _ hinside)).weaken
      fun exchanges result last hwork ↦ ⟨number, ?_⟩
    obtain ⟨seen, hseen, hsubstance⟩ := hwork.run
    refine ⟨?_, ?_, ?_, hwork.standing ▸ htidy, first, seen, last, hstay, hseen, hsubstance⟩
    · rintro _ hsame
      cases hstay.symm.trans hsame
      exact ⟨rfl, hwork.passages, hwork.standing⟩
    · simp [hstay]
    · simp [hstay]
  | none =>
    unfold LifecycleId.withEnv
    rw [Fallible.ensures_bind]
    refine (ensures_enter_outside config hregistered htidy hstay).weaken ?_
    rintro arrival _ begun ⟨number, rfl, hbooks, houtside, hinside, hpassages, hsubstance⟩
    rw [Fallible.continues_ok]
    dsimp only
    rw [Fallible.ensures_thenAlways]
    refine (ensures_inside _ hinside).weaken fun calls result ended hwork ↦ ?_
    obtain ⟨seen, hseen, hcalls⟩ := hwork.run
    have hended : Inside id registration number thread.id ended.standing :=
      hwork.standing ▸ hinside
    obtain ⟨hsameBooks, hsameOutside⟩ := Prod.ext_iff.1 hwork.standing
    change ended.bridge.books = begun.bridge.books at hsameBooks
    change ended.outside = begun.outside at hsameOutside
    cases hscoped : config.isScoped with
    | true =>
      refine (ensures_leave_inside hscoped hended).weaken ?_
      rintro departure _ last ⟨hlast, hlastOutside, hdeparture, hnothing⟩
      rw [hsameOutside, houtside] at hlastOutside
      rw [hscoped] at hbooks
      have hstanding : last.standing = first.standing := standing_of_visit
        (hsameBooks.trans hbooks) hlast hlastOutside hregistered hstay htidy
      refine ⟨number, by simp [hstay], fun _ _ ↦ ⟨?_, hstanding⟩, by simp [hscoped],
        hstanding ▸ htidy, begun, seen, ended, hinside.attached, hseen, ?_⟩
      · simp [hpassages, hwork.passages, hdeparture]
      · simp [hsubstance, hcalls, hnothing]
    | false =>
      rw [LifecycleId.ensures_leave_iff, hscoped, Bool.and_false, if_neg Bool.false_ne_true]
      dsimp only
      rw [List.append_nil]
      rw [hscoped] at hbooks
      refine ⟨number, by simp [hstay], by simp [hscoped], fun _ _ ↦ ⟨?_, ?_, ?_, ?_⟩,
        hended.tidy, begun, seen, ended, hinside.attached, hseen, ?_⟩
      · simp [hpassages, hwork.passages]
      · exact hsameOutside.trans houtside
      · exact hsameBooks.trans hbooks
      · rw [hsameBooks, hbooks]
        exact count_arrive (htidy id registration hregistered hstay)
      · simp [hsubstance, hcalls]

namespace Sample

/-- A machine that takes in whoever asks for it, and tells everyone the truth. -/
def hosting (caller : Nat) : Program.Machine Attachments
  | .getEnv vm _, before =>
    ((before.outside vm caller).elim (.error .threadDetached) fun number ↦ .ok ⟨vm, number⟩,
      before)
  | .attach vm _, before =>
    (.ok ⟨vm, 7⟩, ⟨before.bridge, before.outside.put vm caller (some 7)⟩)
  | .detach vm, before => (.ok (), ⟨before.bridge, before.outside.put vm caller none⟩)
  | request, before => (nothing request, before)

theorem hospitable_hosting (thread : NativeThread) (request : Call)
    (before : Moment Attachments) :
    Exchange.Hospitable ⟨thread, request, (hosting thread.id request before).1, before,
      (hosting thread.id request before).2⟩ := by
  cases request with
  | getEnv vm version => exact ⟨rfl, rfl, rfl⟩
  | attach vm request => exact ⟨rfl, 7, rfl, rfl⟩
  | detach vm => exact ⟨rfl, rfl, rfl⟩
  | env pointer function => exact ⟨rfl, rfl⟩
  | _ => exact ⟨rfl, trivial⟩

/-- Two pieces of work, one inside the other, of which the inner one fails.  The outer one then
attaches and gives up a reference. -/
def nested (_ : Env) : Work Unit :=
  .within { isScoped := true } (fun _ ↦ (.done (.error .vmShutdown) : Work Unit)) fun _ ↦
    .attach { } fun _ ↦ .release ⟨some ⟨vm, 5⟩, .shared, 1⟩ (.done (.ok ()))

end Sample

omit [Host] in
/-- A thread that is not attached does two pieces of work, one inside the other.  It comes once and
goes once. -/
theorem Work.visit_nested :
    let _ := Sample.host
    let first : Moment Attachments := ⟨Sample.bridge, fun _ _ ↦ none⟩
    let config : AttachConfig := { isScoped := true }
    (first.bridge.lifecycle .shared).registration = some Sample.registration ∧
      Tidy Sample.heir.id first.standing ∧
      first.outside Sample.vm Sample.heir.id = none ∧
      ∃ exchanges result last, passages Sample.vm exchanges = [.arrival, .departure] ∧
        ∃ number, Visit .shared Sample.registration config Sample.nested Sample.heir number first
          exchanges result last := by
  intro _ first config
  have hregistered : (first.bridge.lifecycle .shared).registration = some Sample.registration :=
    rfl
  have htidy : Tidy Sample.heir.id first.standing := by
    intro other registration _ _
    exact List.not_mem_nil
  let program := (LifecycleId.shared.withEnv config fun env ↦
    (Sample.nested env).program .shared).run
  have hpassages : passages Sample.vm
      (program.play (Sample.hosting Sample.heir.id) Sample.heir first).1 =
        [.arrival, .departure] := by decide +kernel
  have hvisit := (Work.ensures_visit config Sample.nested hregistered htidy).played
    (Sample.hospitable_hosting Sample.heir)
  exact ⟨hregistered, htidy, rfl, _, _, _, hpassages, hvisit⟩

namespace Sample

/-- The first machine, and a second one that is registered in another lifecycle. -/
def twins : Bridge :=
  bridge.setLifecycle ⟨1⟩ ⟨some ⟨⟨1⟩, .v1_8, Sample.thread.id, false, 2⟩, 1⟩

/-- A reference of the second machine is given up. -/
def releasing (_ : Env) : Work Unit :=
  .release ⟨some ⟨⟨1⟩, 5⟩, ⟨1⟩, 2⟩ (.done (.ok ()))

end Sample

omit [Host] in
/-- Two things that truthful machines do not rule out.  A thread that is attached is taken to the
second machine and away again when a reference of that one is given up.  A thread that is exiting,
and did not create the machine, has no hook although it stays. -/
theorem Work.visit_elsewhere_or_unhooked :
    let _ := Sample.host
    let attached : Moment Attachments :=
      ⟨Sample.twins, Attachments.put (fun _ _ ↦ none) Sample.vm Sample.heir.id (some 7)⟩
    let released := (LifecycleId.shared.withEnv { } fun env ↦
      (Sample.releasing env).program .shared).run.play (Sample.hosting Sample.heir.id) Sample.heir
      attached
    let unattached : Moment Attachments := ⟨Sample.bridge, fun _ _ ↦ none⟩
    let stayed := (LifecycleId.shared.withEnv { } fun _ ↦
      (Work.done (.ok ()) : Work Unit).program .shared).run.play (Sample.hosting Sample.dying.id)
      Sample.dying unattached
    ((∀ exchange ∈ released.1, exchange.Hospitable) ∧ Tidy Sample.heir.id attached.standing ∧
      passages ⟨1⟩ released.1 = [.arrival, .departure]) ∧
    (∀ exchange ∈ stayed.1, exchange.Hospitable) ∧ Tidy Sample.dying.id unattached.standing ∧
      Sample.dying.id ≠ Sample.registration.creator ∧
      passages Sample.vm stayed.1 = [.arrival] ∧
      (stayed.2.2.bridge.thread Sample.dying.id).pending = [] := by
  intro _ attached released unattached stayed
  have htidy : ∀ number, Tidy number attached.standing ∧ Tidy number unattached.standing :=
    fun number ↦ ⟨fun _ _ _ _ ↦ List.not_mem_nil, fun _ _ _ _ ↦ List.not_mem_nil⟩
  refine ⟨⟨?_, (htidy _).1, by decide +kernel⟩, ?_, (htidy _).2, by decide, by decide +kernel,
    by decide +kernel⟩
  · exact Program.lawful_play _ (Sample.hospitable_hosting Sample.heir)
  · exact Program.lawful_play _ (Sample.hospitable_hosting Sample.dying)

end JavaInterop
