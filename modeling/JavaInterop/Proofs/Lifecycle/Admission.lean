import JavaInterop.Lifecycle.Attach
import JavaInterop.Proofs.Lifecycle.Bid
import JavaInterop.Proofs.Lifecycle.History

/-!
# Admission of a thread

A thread asks a lifecycle for an environment.  `Admission` lists the ways in which this goes, each
with all calls that are made and with what it does to the books, that is, to the counters of the
lifecycles and to the hooks of the threads.  How a thread is attached depends on whether it founded
the registration, and who did can be told from the turns that were taken on the lifecycle.

The machine may answer whatever it likes.  Nobody else writes to the books while a call is under
way.  A thread counts as attached if the machine says so: one that is told otherwise is attached
again.  A thread that is exiting is attached and counted like any other, but no hook can be left
with it.
-/

namespace JavaInterop

variable [Host] {ω : Type} {id : LifecycleId} {thread : NativeThread} {first : Moment ω}

/-! ## Books -/

/-- What the bridge keeps about attachments: the registration and the counter of every lifecycle,
the hooks of every thread, and which lifecycles have ceased to exist. -/
structure Books where
  lifecycle : LifecycleId → Lifecycle
  hooks : Nat → List PendingDetach
  gone : List LifecycleId

def Bridge.books (bridge : Bridge) : Books :=
  ⟨bridge.lifecycle, fun number ↦ (bridge.thread number).pending, bridge.gone⟩

namespace Books

/-- The counter of one lifecycle is changed. -/
def recount (books : Books) (id : LifecycleId) (change : Nat → Nat) : Books :=
  let lifecycle := books.lifecycle id
  let counted := { lifecycle with attached := change lifecycle.attached }
  { books with lifecycle := Function.update books.lifecycle id counted }

/-- The hooks of one thread are changed. -/
def rehook (books : Books) (number : Nat)
    (change : List PendingDetach → List PendingDetach) : Books :=
  { books with hooks := Function.update books.hooks number (change (books.hooks number)) }

/-- One more hook is left with a thread, unless it is exiting.  Hooks of lifecycles that have ceased
to exist are cleared away. -/
def defer (books : Books) (thread : NativeThread) (hook : PendingDetach) : Books :=
  if thread.isExiting then books
  else books.rehook thread.id (·.filter (·.lifecycle ∉ books.gone) ++ [hook])

variable (books : Books) (thread : NativeThread) (hook : PendingDetach)

omit [Host] in
@[simp]
theorem lifecycle_defer : (books.defer thread hook).lifecycle = books.lifecycle := by
  unfold defer
  split
  · rfl
  · rfl

omit [Host] in
/-- Only the hook itself is new. -/
theorem mem_hooks_defer {other : PendingDetach}
    (hmem : other ∈ (books.defer thread hook).hooks thread.id) :
    other ∈ books.hooks thread.id ∨ other = hook := by
  unfold defer at hmem
  split at hmem
  · exact .inl hmem
  · simp only [rehook, Function.update_self, List.mem_append, List.mem_filter,
      List.mem_singleton] at hmem
    exact hmem.imp_left And.left

end Books

theorem books_setLifecycle (bridge : Bridge) (id : LifecycleId) (lifecycle : Lifecycle) :
    (bridge.setLifecycle id lifecycle).books =
      { bridge.books with lifecycle := Function.update bridge.lifecycle id lifecycle } := by
  refine congrArg (Books.mk · _ _) ?_
  funext other
  by_cases hother : other = id
  · simp [hother]
  · simp [hother, Bridge.lifecycle_setLifecycle_of_ne]

theorem books_setThread (bridge : Bridge) (number : Nat) (state : ThreadState) :
    (bridge.setThread number state).books =
      { bridge.books with hooks := Function.update bridge.books.hooks number state.pending } := by
  refine congrArg (Books.mk _ · _) ?_
  funext other
  by_cases hother : other = number
  · simp [hother]
  · simp [hother, Bridge.thread_setThread_of_ne, Bridge.books]

theorem books_recount (bridge : Bridge) (id : LifecycleId) (change : Nat → Nat) :
    (bridge.recount id change).books = bridge.books.recount id change :=
  books_setLifecycle ..

theorem books_rehook (bridge : Bridge) (thread : Nat)
    (change : List PendingDetach → List PendingDetach) :
    (bridge.rehook thread change).books = bridge.books.rehook thread change := by
  rw [Bridge.rehook, books_setThread, touch_pending]
  rfl

theorem books_defer (bridge : Bridge) (thread : NativeThread) (hook : PendingDetach) :
    (bridge.defer thread hook).books = bridge.books.defer thread hook := by
  unfold Bridge.defer Books.defer
  split
  · rfl
  · exact books_rehook ..

/-! ## The ways to be admitted -/

/-- The thread that created or adopted the registered machine. -/
def Moment.founder? (moment : Moment ω) (id : LifecycleId) : Option Nat :=
  (moment.bridge.lifecycle id).registration.map Registration.creator

/-- What the machine is asked when a thread is to be attached to it.  By default every thread but
the founder becomes a daemon. -/
structure AttachRequest.Follows (request : AttachRequest) (config : AttachConfig)
    (thread : NativeThread) (isFounder : Prop) (version : Version) : Prop where
  daemon : request.daemon = true ↔
    config.daemon = .daemon ∨ config.daemon = .auto ∧ ¬ isFounder
  name : request.name = Text.ModifiedUtf8.encode (config.name.getD thread.attachName)
  group : request.group = config.group.bind GlobalReference.raw
  version : request.version = version

open Program (Ensures)
open Fallible (Yields)

/-- The books after the thread was attached.  The founder and a passing visitor get no hook. -/
def Books.arrive (books : Books) (id : LifecycleId) (registration : Registration)
    (thread : NativeThread) (isScoped : Bool) : Books :=
  let counted := books.recount id (· + 1)
  if thread.id = registration.creator ∨ isScoped then counted
  else counted.defer thread ⟨id, registration.generation⟩

theorem books_receive (bridge : Bridge) (id : LifecycleId) (registration : Registration)
    (thread : NativeThread) (isScoped : Bool) :
    (bridge.receive id registration thread isScoped).books =
      bridge.books.arrive id registration thread isScoped := by
  unfold Bridge.receive Books.arrive
  split
  · exact books_recount ..
  · rw [books_defer, books_recount]

theorem AttachConfig.follows_request (config : AttachConfig) (registration : Registration) :
    (config.request registration thread).Follows config thread (thread.id = registration.creator)
      registration.version := by
  refine ⟨?_, rfl, rfl, rfl⟩
  unfold request
  cases config.daemon <;> simp

/-- The ways in which an attempt to attach goes, with all calls, the answer and the last moment. -/
inductive Admission (id : LifecycleId) (config : AttachConfig) (thread : NativeThread)
    (isFounder : Prop) (first : Moment ω) :
    List (Exchange ω) → Except Error Env → Moment ω → Prop
  /-- There is no machine. -/
  | vacant (hvacant : (first.bridge.lifecycle id).registration = none) :
      Admission id config thread isFounder first [] (.error .vmShutdown) first
  /-- The thread has an environment already. -/
  | present {registration : Registration} {pointer : EnvPointer} {last : Moment ω}
      (hregistration : (first.bridge.lifecycle id).registration = some registration)
      (hbooks : last.bridge.books = first.bridge.books) :
      Admission id config thread isFounder first
        [⟨thread, .getEnv registration.vm registration.version, .ok pointer, first, last⟩]
        (.ok (.of id registration pointer)) last
  /-- The machine does not say whether the thread has one. -/
  | unclear {registration : Registration} {status : Status} {last : Moment ω}
      (hregistration : (first.bridge.lifecycle id).registration = some registration)
      (hstatus : status ≠ .threadDetached)
      (hbooks : last.bridge.books = first.bridge.books) :
      Admission id config thread isFounder first
        [⟨thread, .getEnv registration.vm registration.version, .error status, first, last⟩]
        (.error (.attachFailed status)) last
  /-- The machine refuses to attach the thread. -/
  | refused {registration : Registration} {request : AttachRequest} {status : Status}
      {asked last : Moment ω}
      (hregistration : (first.bridge.lifecycle id).registration = some registration)
      (hrequest : request.Follows config thread isFounder registration.version)
      (hbooks : last.bridge.books = first.bridge.books) :
      Admission id config thread isFounder first
        [⟨thread, .getEnv registration.vm registration.version, .error .threadDetached, first,
            asked⟩,
          ⟨thread, .attach registration.vm request, .error status, asked, last⟩]
        (.error (.attachFailed status)) last
  /-- The machine attaches the thread, which is counted and will be detached when it exits.  The
  founder is left to detach itself, and so is a thread that is exiting already. -/
  | admitted {registration : Registration} {request : AttachRequest} {pointer : EnvPointer}
      {asked attached last : Moment ω}
      (hregistration : (first.bridge.lifecycle id).registration = some registration)
      (hrequest : request.Follows config thread isFounder registration.version)
      (hfounder : isFounder ∨ thread.isExiting = true →
        last.bridge.books = first.bridge.books.recount id (· + 1))
      (hother : ¬ isFounder → thread.isExiting = false → last.bridge.books =
        (first.bridge.books.recount id (· + 1)).rehook thread.id
          (first.bridge.alive · ++ [⟨id, registration.generation⟩])) :
      Admission id config thread isFounder first
        [⟨thread, .getEnv registration.vm registration.version, .error .threadDetached, first,
            asked⟩,
          ⟨thread, .attach registration.vm request, .ok pointer, asked, attached⟩]
        (.ok (.of id registration pointer)) last

theorem ensures_attachTo_admission {registration : Registration} (config : AttachConfig)
    (hregistration : (first.bridge.lifecycle id).registration = some registration) :
    Ensures (Exchange.Keeps Bridge.books) thread
      (id.attachTo registration { config with isScoped := false }).run first
      fun exchanges result last ↦
        Admission id config thread (first.founder? id = some thread.id) first exchanges
          ((fun answer ↦ .of id registration answer.1) <$> result) last := by
  have hfounder : first.founder? id = some thread.id ↔ thread.id = registration.creator := by
    simp [Moment.founder?, hregistration, eq_comm]
  have hrequest : (config.request registration thread).Follows config thread
      (first.founder? id = some thread.id) registration.version := by
    rw [hfounder]
    exact config.follows_request registration
  refine (id.ensures_attachTo_approach _).weaken fun exchanges result last happroach ↦ ?_
  cases happroach with
  | present hasked => exact .present hregistration hasked
  | unclear hstatus hasked => exact .unclear hregistration hstatus hasked
  | refused hasked hattached => exact .refused hregistration hrequest (hattached.trans hasked)
  | admitted hasked hattached =>
    have hbooks : Bridge.books _ = first.bridge.books := Eq.trans hattached hasked
    refine .admitted hregistration hrequest (fun hmain ↦ ?_) fun hother hstays ↦ ?_
    · rw [books_receive, hbooks, Books.arrive]
      split
      · rfl
      · rename_i hguest
        have hexits : thread.isExiting = true :=
          hmain.resolve_left fun hcreator ↦ hguest (.inl (hfounder.1 hcreator))
        rw [Books.defer, if_pos hexits]
    · have hguest : ¬ (thread.id = registration.creator ∨ false = true) := by
        simpa [hfounder] using hother
      rw [books_receive, hbooks, Books.arrive, if_neg hguest, Books.defer, hstays,
        if_neg Bool.false_ne_true]
      rfl

theorem ensures_attach_admission (config : AttachConfig) :
    Ensures (Exchange.Keeps Bridge.books) thread (id.attach config).run first
      (Admission id config thread (first.founder? id = some thread.id) first) := by
  rw [LifecycleId.ensures_attach_iff, LifecycleId.ensures_enter_iff]
  cases hregistration : (first.bridge.lifecycle id).registration with
  | none => exact .vacant hregistration
  | some registration =>
    refine (ensures_attachTo_admission config hregistration).weaken ?_
    rintro exchanges (error | ⟨pointer, attachedHere⟩) last hadmission
    · exact hadmission
    · exact hadmission

/-! ## Attaching again -/

/-- The environment of a thread that asked for it. -/
def Exchange.environment? : Exchange ω → Option EnvPointer
  | ⟨_, .getEnv .., .ok pointer, _, _⟩ => some pointer
  | _ => none

/-- If the thread asks for its environment, it has one. -/
def Exchange.FindsAttached : Exchange ω → Prop
  | ⟨_, .getEnv .., .error _, _, _⟩ => False
  | _ => True

/-- A number of attempts that all found the thread attached.  They only ask for its environment and
return what they are told. -/
structure Repetition (id : LifecycleId) (registration : Registration) (count : Nat)
    (first : Moment ω) (exchanges : List (Exchange ω)) (result : Except Error (List Env))
    (last : Moment ω) : Prop where
  requests : exchanges.map Exchange.request =
    List.replicate count (.getEnv registration.vm registration.version)
  result : result = .ok ((exchanges.filterMap Exchange.environment?).map (.of id registration))
  books : last.bridge.books = first.bridge.books

theorem ensures_attach_present {registration : Registration} (config : AttachConfig)
    (hregistration : (first.bridge.lifecycle id).registration = some registration) :
    Ensures (fun exchange ↦ exchange.Keeps Bridge.books ∧ exchange.FindsAttached) thread
      (id.attach config).run first fun exchanges result last ↦
        last.bridge.books = first.bridge.books ∧ ∃ pointer,
          exchanges = [⟨thread, .getEnv registration.vm registration.version, .ok pointer, first,
            last⟩] ∧ result = .ok (.of id registration pointer) := by
  intro exchanges result last hrun hlaw
  have hadmission := ensures_attach_admission config exchanges result last hrun
    fun exchange hmem ↦ (hlaw exchange hmem).1
  have hfinds : ∀ exchange ∈ exchanges, exchange.FindsAttached :=
    fun exchange hmem ↦ (hlaw exchange hmem).2
  cases hadmission with
  | vacant hvacant => cases hvacant.symm.trans hregistration
  | present hfound hbooks =>
    cases hfound.symm.trans hregistration
    exact ⟨hbooks, _, rfl, rfl⟩
  | unclear => exact (hfinds _ List.mem_cons_self).elim
  | refused => exact (hfinds _ List.mem_cons_self).elim
  | admitted => exact (hfinds _ List.mem_cons_self).elim

theorem ensures_attach_repetition {registration : Registration} (configs : List AttachConfig)
    (hregistration : (first.bridge.lifecycle id).registration = some registration) :
    Ensures (fun exchange ↦ exchange.Keeps Bridge.books ∧ exchange.FindsAttached) thread
      (configs.mapM id.attach).run first
      (Repetition id registration configs.length first) := by
  induction configs generalizing first with
  | nil =>
    rw [List.mapM_nil]
    exact Fallible.ensures_pure.2 ⟨rfl, rfl, rfl⟩
  | cons config configs ih =>
    rw [List.mapM_cons, Fallible.ensures_bind]
    refine (ensures_attach_present config hregistration).weaken ?_
    rintro _ _ middle ⟨hbooks, pointer, rfl, rfl⟩
    have hmiddle : (middle.bridge.lifecycle id).registration = some registration := by
      rw [← hregistration]
      exact congrArg (fun books ↦ (books.lifecycle id).registration) hbooks
    rw [Fallible.continues_ok, Fallible.ensures_bind]
    refine (ih hmiddle).weaken ?_
    rintro rest result last ⟨hrequests, rfl, hlast⟩
    rw [Fallible.continues_ok, Fallible.ensures_pure, List.append_nil]
    exact ⟨congrArg (_ :: ·) hrequests, rfl, hlast.trans hbooks⟩

/-- How a lifecycle receives a thread.  An attempt to attach goes in one of the listed ways, and as
long as the thread is attached it may be repeated to no effect. -/
structure AttachOutcomes (id : LifecycleId) (isFounder : Prop) (thread : NativeThread)
    (first : Moment ω) : Prop where
  once : ∀ config, Ensures (Exchange.Keeps Bridge.books) thread (id.attach config).run first
    (Admission id config thread isFounder first)
  again : ∀ registration (configs : List AttachConfig),
    (first.bridge.lifecycle id).registration = some registration →
    Ensures (fun exchange ↦ exchange.Keeps Bridge.books ∧ exchange.FindsAttached) thread
      (configs.mapM id.attach).run first (Repetition id registration configs.length first)

/-! ## Who founded a registration -/

/-- This thread made the last successful creation or adoption, and no turn has ended the time of its
machine since. -/
def Founded (episodes : List (Episode ω)) (number : Nat) : Prop :=
  Since (fun episode ↦ episode.installs.isSome ∧ episode.thread.id = number) episodes

theorem yields_register_founder {law : Exchange ω → Prop} (vm : VmId) (version : Version)
    (owned : Bool) :
    Yields law thread (id.register vm version owned) first fun _ registration _ ↦
      registration.creator = thread.id := by
  refine LifecycleId.ensures_register_iff.2 ?_
  rintro begun (error | answer) middle - -
  · rintro _ ⟨⟩
  · rintro rest reported last - - _ ⟨rfl⟩
    rfl

/-- After a registration that succeeded, the running thread is the founder. -/
theorem yields_setRegistration_founder {law : Exchange ω → Prop} {registration : Registration}
    (hcreator : registration.creator = thread.id) :
    Yields law thread (liftM (id.setRegistration registration) : Fallible Unit) first
      fun _ _ last ↦ last.founder? id = some thread.id := by
  refine .lift ?_
  rw [LifecycleId.ensures_setRegistration_iff]
  simp [Bridge.install, Moment.founder?, hcreator]

theorem Bid.yields_founder {law : Exchange ω → Prop} (bid : Bid) :
    Yields law thread (bid.program id) first fun _ _ last ↦
      last.founder? id = some thread.id := by
  cases bid with
  | create version options =>
    unfold Bid.program LifecycleId.create
    refine .skip fun _ _ _ ↦ .skip fun _ arguments _ ↦ .skip fun _ answer _ ↦
      .skip fun _ vm _ ↦ .skip fun _ vm middle ↦ ?_
    refine Yields.bind (.mapFailure (yields_register_founder vm version true))
      fun _ registration _ hcreator ↦ yields_setRegistration_founder hcreator
  | adopt vm version =>
    unfold Bid.program LifecycleId.adopt
    refine .skip fun _ vm _ ↦ ?_
    dsimp only
    split
    · exact .throwThen
    · refine .skip fun _ _ _ ↦ ?_
      exact (yields_register_founder vm version false).bind
        fun _ registration _ hcreator ↦ yields_setRegistration_founder hcreator

theorem Moment.founder?_eq_none_iff {moment : Moment ω} :
    moment.founder? id = none ↔ moment.incumbent id = none := by
  rw [Moment.founder?, Option.map_eq_none_iff, incumbent_eq_none_iff]

/-- A failed bid leaves the founder what it was. -/
theorem Bid.ensures_founder_of_error (bid : Bid) :
    Ensures (Exchange.Undisturbed id) thread (bid.program id).run first fun _ result last ↦
      ∀ error, result = .error error → last.founder? id = first.founder? id := by
  have hunnumbered : Unnumbered fun bridge ↦ (bridge.lifecycle id).registration :=
    fun _ _ ↦ rfl
  refine (bid.ensures_untouched hunnumbered).weaken fun exchanges result last hbid error herror ↦ ?_
  exact congrArg (Option.map Registration.creator) (hbid error herror).1

/-- A turn that brings a machine makes its thread the founder. -/
theorem Episode.founder? {episode : Episode ω}
    (hrun : (episode.turn.program id).run.Run episode.thread episode.first episode.exchanges
      episode.result episode.last)
    (hundisturbed : ∀ exchange ∈ episode.exchanges, exchange.Undisturbed id) :
    episode.last.founder? id =
      if episode.turn.ends then none
      else if episode.installs.isSome then some episode.thread.id
      else episode.first.founder? id := by
  have hplain : episode.Plain id := episode.turn.isPlain _ _ _ hrun hundisturbed
  cases hends : episode.turn.ends with
  | true =>
    rw [if_pos rfl, Moment.founder?_eq_none_iff, hplain.incumbent, hends, if_pos rfl]
  | false =>
    obtain ⟨bid, hbid⟩ : ∃ bid : Bid, episode.turn.program id = bid.program id := by
      cases hturn : episode.turn with
      | create version options => exact ⟨.create version options, rfl⟩
      | adopt vm version => exact ⟨.adopt (some vm) version, rfl⟩
      | teardown | reset | cleanup => simp [hturn, Turn.ends] at hends
    rw [hbid] at hrun
    rw [if_neg Bool.false_ne_true]
    cases hresult : episode.result with
    | ok value =>
      rw [if_pos (hplain.succeeded hends hresult)]
      exact bid.yields_founder _ _ _ hrun hundisturbed value hresult
    | error error =>
      have hinstalls : episode.installs = none := by simp [Episode.installs, hresult]
      rw [hinstalls, Option.isSome_none, if_neg Bool.false_ne_true]
      exact bid.ensures_founder_of_error _ _ _ hrun hundisturbed error hresult

namespace RegistrationHistory

variable {episodes : List (Episode ω)} {moment : Moment ω}

/-- Who founded the registration can be told from the turns. -/
theorem founder?_iff (hhistory : RegistrationHistory id episodes moment) {number : Nat} :
    moment.founder? id = some number ↔ Founded episodes number := by
  induction hhistory with
  | start hvacant =>
    rw [Moment.founder?_eq_none_iff.2 (incumbent_eq_none_iff.2 hvacant)]
    exact iff_of_false nofun not_since_nil
  | meanwhile _ hsame ih =>
    rw [Moment.founder?, hsame]
    exact ih
  | @turn _ episode _ hrun hundisturbed ih =>
    rw [Founded, since_snoc, ← Founded, ← ih, Episode.founder? hrun hundisturbed]
    cases hends : episode.turn.ends with
    | true => simp [Episode.installs_of_ends hends]
    | false => cases hinstalls : episode.installs <;> simp

/-- Whatever turns were taken on a lifecycle, it receives every thread in the same way. -/
theorem attach_outcomes (hhistory : RegistrationHistory id episodes moment)
    (thread : NativeThread) :
    AttachOutcomes id (Founded episodes thread.id) thread moment where
  once config := by
    rw [← hhistory.founder?_iff]
    exact ensures_attach_admission config
  again _ configs hregistration := ensures_attach_repetition configs hregistration

end RegistrationHistory

namespace Sample

/-- A thread that comes after the first one. -/
def heir : NativeThread := { id := 1, name := none }

/-- The machine of the first thread was torn down, and the second one adopts another. -/
def inheritance : @Episode host Unit :=
  let _ := host
  (Turn.adopt vm .v1_8).against nothing .shared heir teardown.last

/-- The answers of a machine that no thread is attached to. -/
def unattached : (request : Call) → request.Reply
  | .getEnv .. => .error .threadDetached
  | request => nothing request

end Sample

omit [Host] in
/-- The thread that created the first machine is nothing special to the second one, which another
thread adopted: it is attached as a daemon. -/
theorem RegistrationHistory.attach_outcomes_predecessor :
    let _ := Sample.host
    let episodes := [Sample.creation, Sample.teardown, Sample.inheritance]
    let moment := Sample.inheritance.last
    RegistrationHistory .shared episodes moment ∧
      Founded episodes Sample.heir.id ∧ ¬ Founded episodes Sample.thread.id ∧
      ((LifecycleId.shared.attach { }).run.play (.answering Sample.unattached) Sample.thread
        moment).1.map Exchange.request = [.getEnv Sample.vm .v1_8, .attach Sample.vm {
          version := .v1_8
          name := Text.ModifiedUtf8.encode "NativeThread-0"
          group := none
          daemon := true }] ∧
      AttachOutcomes .shared (Founded episodes Sample.thread.id) Sample.thread moment := by
  intro _ episodes moment
  have hcreation : RegistrationHistory .shared [Sample.creation] Sample.creation.last :=
    (RegistrationHistory.start rfl).against (.create .v1_8 { }) Sample.stubborn
  have hteardown : RegistrationHistory .shared [Sample.creation, Sample.teardown]
      Sample.teardown.last :=
    hcreation.against .teardown Sample.stubborn
  have hhistory : RegistrationHistory .shared episodes moment :=
    hteardown.against (.adopt Sample.vm .v1_8) Sample.nothing
  have hfounder : moment.founder? .shared = some Sample.heir.id := by decide +kernel
  refine ⟨hhistory, hhistory.founder?_iff.1 hfounder, fun hfounded ↦ ?_, by decide +kernel,
    hhistory.attach_outcomes Sample.thread⟩
  have hsame := hfounder.symm.trans (hhistory.founder?_iff.2 hfounded)
  exact absurd hsame (by decide)

namespace Sample

/-- A thread that has run its hooks, in whose last moments something is still done. -/
def dying : NativeThread := { id := 2, name := none, isExiting := true }

end Sample

omit [Host] in
/-- Not every thread that is attached gets a hook, and asking again is not always to no effect.  A
thread that is exiting, and did not create the machine, is attached and counted, but it has no hook
afterwards.  A thread that is attached is attached once more, counted twice and given a second hook,
when the machine tells it that it has no environment. -/
theorem RegistrationHistory.attached_without_hook :
    let _ := Sample.host
    let moment := Sample.creation.last
    let attempt (thread : NativeThread) (first : Moment Unit) :=
      (LifecycleId.shared.attach { }).run.play (.answering fun
        | .attach .. => .ok ⟨Sample.vm, 7⟩
        | request => Sample.unattached request) thread first
    let last := (attempt Sample.dying moment).2.2
    let once := (attempt Sample.heir moment).2.2
    let twice := (attempt Sample.heir once).2.2
    RegistrationHistory .shared [Sample.creation] moment ∧
      (¬ Founded [Sample.creation] Sample.dying.id ∧
        (attempt Sample.dying moment).2.1.isOk ∧
        (last.bridge.lifecycle .shared).attached =
          (moment.bridge.lifecycle .shared).attached + 1 ∧
        (last.bridge.thread Sample.dying.id).pending = []) ∧
      ((attempt Sample.heir moment).2.1.isOk ∧
        (attempt Sample.heir once).1.map Exchange.request =
          [.getEnv Sample.vm .v1_8, .attach Sample.vm {
            version := .v1_8
            name := Text.ModifiedUtf8.encode "NativeThread-1"
            group := none
            daemon := true }] ∧
        (twice.bridge.lifecycle .shared).attached =
          (once.bridge.lifecycle .shared).attached + 1 ∧
        (twice.bridge.thread Sample.heir.id).pending =
          (once.bridge.thread Sample.heir.id).pending ++ [⟨.shared, 1⟩]) := by
  intro _ moment attempt last once twice
  have hhistory : RegistrationHistory .shared [Sample.creation] moment :=
    (RegistrationHistory.start rfl).against (.create .v1_8 { }) Sample.stubborn
  have hfounder : moment.founder? .shared = some Sample.thread.id := by decide +kernel
  have hguest : ¬ Founded [Sample.creation] Sample.dying.id := by
    intro hfounded
    have hsame := hfounder.symm.trans (hhistory.founder?_iff.2 hfounded)
    exact absurd hsame (by decide)
  refine ⟨hhistory, ⟨hguest, by decide +kernel, by decide +kernel, by decide +kernel⟩,
    by decide +kernel, by decide +kernel, by decide +kernel, by decide +kernel⟩

end JavaInterop
