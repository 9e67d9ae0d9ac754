import JavaInterop.Proofs.Lifecycle.Clerical
import JavaInterop.Proofs.Lifecycle.Turn
import JavaInterop.Proofs.Local.Stays
import JavaInterop.Proofs.Reference.Execution

/-!
# What threads do with local references

Threads create machines and forget them, attach themselves and detach, for good or for a piece of
work, and make local references, which their owners drop or give away.  A history is any sequence of
such doings by any threads, starting with any threads attached; what a machine answers is left open.
An environment and the references that are made with it stay with their thread.

Each doing does one of four things to what the threads have: it leaves it alone, an environment is
obtained, a reference is made, or one is given up.
-/

namespace JavaInterop

/-! ## Belongings -/

/-- A local reference that was made for a thread.  It is owned until it is given up. -/
structure HeldLocal where
  thread : Nat
  reference : LocalReference
  owned : Bool

/-- What the threads have: environments, work that has begun, and local references. -/
structure Belongings where
  envs : List (Nat × Env) := []
  scopes : List Scope := []
  locals : List HeldLocal := []

namespace Belongings

/-- A thread has an environment. -/
def obtain (belongings : Belongings) (thread : Nat) (env : Env) : Belongings :=
  { belongings with envs := (thread, env) :: belongings.envs }

/-- A thread owns a local reference. -/
def hold (belongings : Belongings) (thread : Nat) (reference : LocalReference) : Belongings :=
  { belongings with locals := belongings.locals ++ [⟨thread, reference, true⟩] }

/-- The owner of a reference gives it up. -/
def giveUp (belongings : Belongings) (index : Nat) (held : HeldLocal) : Belongings :=
  { belongings with locals := belongings.locals.set index { held with owned := false } }

/-- The reference, if the thread owns it. -/
def owned? (belongings : Belongings) (thread : NativeThread) (index : Nat) : Option HeldLocal :=
  belongings.locals[index]?.filter fun held ↦ held.owned && held.thread == thread.id

theorem owned?_eq_some {belongings : Belongings} {thread : NativeThread} {index : Nat}
    {held : HeldLocal} : belongings.owned? thread index = some held ↔
      belongings.locals[index]? = some held ∧ held.owned = true ∧ held.thread = thread.id := by
  simp [owned?, Option.filter_eq_some_iff]

end Belongings

/-! ## Doings -/

/-- What a thread may do. -/
inductive Doing where
  | take (id : LifecycleId) (turn : Turn)
  | attach (id : LifecycleId) (config : AttachConfig)
  | detach (id : LifecycleId)
  | enter (id : LifecycleId) (config : AttachConfig)
  | leave
  | exit (heldOutside : LifecycleId → Bool)
  | newLocal (env : Env) (object : Option Handle)
  | own (env : Env) (raw : Option Handle)
  | intoRaw (index : Nat)
  | drop (index : Nat)

namespace Doing

/-- The reference that its owner gives up. -/
def givenUp? : Doing → Option Nat
  | intoRaw index | drop index => some index
  | _ => none

/-- The reference that its owner drops. -/
def dropped? : Doing → Option Nat
  | drop index => some index
  | _ => none

/-- The machine of a lifecycle is to be forgotten. -/
def Forgets (id : LifecycleId) : Doing → Prop
  | take other turn => other = id ∧ turn.ends = true
  | _ => False

/-- An environment was obtained before it is used, and a reference is only given up by the thread
that owns it. -/
def Permitted (thread : NativeThread) (belongings : Belongings) : Doing → Prop
  | newLocal env _ | own env _ => (thread.id, env) ∈ belongings.envs
  | intoRaw index | drop index => (belongings.owned? thread index).isSome
  | _ => True

variable [Host]

/-- Something that the belongings do not depend on. -/
def aside {α : Type} (belongings : Belongings) (program : Program α) : Program Belongings :=
  (fun _ ↦ belongings) <$> program

/-- The program of a doing, which gives what the threads have afterwards. -/
def program (belongings : Belongings) : Doing → Program Belongings
  | take id turn => aside belongings (turn.program id).run
  | attach id config => do
    let running ← Program.current
    match ← (id.attach config).run with
    | .ok env => return belongings.obtain running.id env
    | .error _ => return belongings
  | detach id => aside belongings id.detach
  | enter id config => do
    let running ← Program.current
    match ← (id.enter config).run with
    | .ok (env, attachedHere) => return { belongings.obtain running.id env with
        scopes := ⟨running.id, id, config, env, attachedHere⟩ :: belongings.scopes }
    | .error _ => return belongings
  | leave => do
    let running ← Program.current
    match belongings.scopes.find? (·.thread == running.id) with
    | some scope =>
      scope.lifecycle.leave scope.config scope.env scope.attachedHere
      return { belongings with
        scopes := belongings.scopes.eraseP (·.thread == running.id) }
    | none => return belongings
  | exit heldOutside => aside belongings (exitThread heldOutside)
  | newLocal env object => do
    let running ← Program.current
    match ← (env.newLocal object).run with
    | .ok reference => return belongings.hold running.id reference
    | .error _ => return belongings
  | own env raw => do
    let running ← Program.current
    return belongings.hold running.id (env.own raw)
  | intoRaw index => do
    let running ← Program.current
    match belongings.owned? running index with
    | some held => return belongings.giveUp index held
    | none => return belongings
  | drop index => do
    let running ← Program.current
    match belongings.owned? running index with
    | some held => do
      held.reference.drop
      return belongings.giveUp index held
    | none => return belongings

end Doing

variable [Host]

/-- What a thread did, with all the calls. -/
structure Page where
  thread : NativeThread
  doing : Doing
  before : Belongings
  after : Belongings
  first : Moment Stays
  exchanges : List (Exchange Stays)
  last : Moment Stays

/-- What has been done since the process began, how things are now, and what the threads have. -/
inductive LocalHistory : List Page → Moment Stays → Belongings → Prop
  | start (stays : Stays) : LocalHistory [] ⟨{ }, stays⟩ { }
  | step {pages : List Page} {now last : Moment Stays} {belongings after : Belongings}
      {thread : NativeThread} {doing : Doing} {exchanges : List (Exchange Stays)}
      (hbefore : LocalHistory pages now belongings) (hpermitted : doing.Permitted thread belongings)
      (hrun : (doing.program belongings).Run thread now exchanges after last)
      (hkeeps : ∀ exchange ∈ exchanges, exchange.KeepsStays) :
      LocalHistory (pages ++ [⟨thread, doing, belongings, after, now, exchanges, last⟩]) last after

/-! ## What a doing does to the bridge -/

open Program (Ensures)

/-- What the threads attached to a machine see of a call is lawful if the stays are. -/
theorem Exchange.KeepsStays.attachments {exchange : Exchange Stays} (hkeeps : exchange.KeepsStays) :
    (exchange.onto Stays.attachments).KeepsAttachments := by
  obtain ⟨caller, request, reply, before, after⟩ := exchange
  obtain ⟨hbridge, hlaw⟩ := hkeeps
  refine ⟨hbridge, ?_⟩
  change AttachmentLaw caller.id before.outside.attachments after.outside.attachments request reply
  have hseen : ∀ vm, before.outside.attachments vm caller.id =
      (before.outside.stay vm caller.id).map Stay.number := fun _ ↦ rfl
  cases request with
  | create | list | destroy => trivial
  | getEnv vm =>
    obtain ⟨hafter, hreply⟩ := hlaw
    refine ⟨congrArg _ hafter, ?_⟩
    rw [hseen]
    cases hstay : before.outside.stay vm caller.id with
    | none =>
      rw [hstay] at hreply
      exact hreply
    | some stay =>
      rw [hstay] at hreply
      exact hreply
  | attach vm =>
    refine ⟨fun pointer hreply ↦ ?_, fun status hreply ↦ congrArg _ (hlaw.2 status hreply)⟩
    obtain ⟨hvm, hafter⟩ := hlaw.1 pointer hreply
    refine ⟨hvm, ?_⟩
    cases hstay : before.outside.stay vm caller.id with
    | none =>
      rw [hstay] at hafter
      rw [hafter, Stays.attachments_begin]
    | some stay =>
      rw [hstay] at hafter
      rw [hafter.2, hafter.1]
      funext other thread
      by_cases hsame : other = vm ∧ thread = caller.id
      · simp [Attachments.put, Stays.attachments, hsame, hstay]
      · simp [Attachments.put, hsame]
  | detach vm =>
    refine ⟨fun hreply ↦ ?_, fun status hreply ↦ congrArg _ (hlaw.2 status hreply)⟩
    rw [hlaw.1 hreply, Stays.attachments_finish]
  | env pointer function =>
    obtain ⟨hafter, hreply⟩ := hlaw
    cases function with
    | newGlobalRef => exact ⟨congrArg _ hafter, hreply⟩
    | _ => exact congrArg _ hafter

namespace Tame

variable {clean : Bool}

theorem deleteLocal (env : Env) (reference : Option Handle) :
    Tame clean (env.deleteLocal reference) := by
  cases reference with
  | none => exact done
  | some handle =>
    refine look.bind ?_
    rintro (_ | registration)
    · exact done
    · exact perform fun _ ↦ rfl

theorem newLocal (env : Env) (object : Option Handle) : Tame clean (env.newLocal object).run := by
  refine andThen nonNull fun object ↦ liftThen (perform fun _ ↦ rfl) ?_
  rintro (_ | handle)
  · exact throw
  · exact done

theorem turn (id : LifecycleId) (turn : Turn) : Tame clean (turn.program id).run := by
  cases turn with
  | create version options => exact create id version options
  | adopt vm version => exact adopt id (some vm) version
  | teardown => exact teardown id
  | reset => exact (reset id).bind fun _ ↦ done
  | cleanup => exact (cleanup id).bind fun _ ↦ done

theorem aside {α : Type} {program : Program α} (hprogram : Tame clean program)
    (belongings : Belongings) : Tame clean (Doing.aside belongings program) :=
  hprogram.bind fun _ ↦ done

/-- Whatever threads do, the bridge only goes forward. -/
theorem doing (belongings : Belongings) (doing : Doing) :
    Tame clean (doing.program belongings) := by
  cases doing with
  | take id turn => exact (Tame.turn id turn).aside _
  | detach id => exact (detach id).aside _
  | exit heldOutside => exact (exitThread heldOutside).aside _
  | attach id config =>
    refine current.bind fun running ↦ (attach id config).bind ?_
    rintro (error | env)
    · exact done
    · exact done
  | enter id config =>
    refine current.bind fun running ↦ (enter id config).bind ?_
    rintro (error | env)
    · exact done
    · exact done
  | leave =>
    refine current.bind fun running ↦ ?_
    split
    · exact (leave _ _ _ _).bind fun _ ↦ done
    · exact done
  | newLocal env object =>
    refine current.bind fun running ↦ (newLocal env object).bind ?_
    rintro (error | reference)
    · exact done
    · exact done
  | own env raw => exact current.bind fun running ↦ done
  | intoRaw index =>
    refine current.bind fun running ↦ ?_
    split
    · exact done
    · exact done
  | drop index =>
    refine current.bind fun running ↦ ?_
    split
    · exact (deleteLocal _ _).bind fun _ ↦ done
    · exact done

end Tame

/-! ## What a doing does to the belongings -/

/-- The environment is the one that a thread has at a moment. -/
structure Moment.Grants (moment : Moment Stays) (thread : Nat) (env : Env) : Prop where
  given : env.generation < moment.bridge.nextGeneration
  stays : ∃ stay, moment.outside.stay env.pointer.vm thread = some stay ∧
    stay.number = env.pointer.number

/-- What becomes of the belongings: no reference and no environment comes or goes, an environment is
obtained, a reference is made with one, or a reference is given up. -/
inductive Alters (doing : Doing) (thread : NativeThread) (last : Moment Stays)
    (before after : Belongings) : Prop
  | same (hgivenUp : doing.givenUp? = none) (henvs : after.envs = before.envs)
      (hlocals : after.locals = before.locals)
  | obtained {env : Env} (hgivenUp : doing.givenUp? = none)
      (henvs : after.envs = (thread.id, env) :: before.envs)
      (hlocals : after.locals = before.locals) (hgrants : last.Grants thread.id env)
  | made {reference : LocalReference} (hgivenUp : doing.givenUp? = none)
      (henvs : after.envs = before.envs)
      (hlocals : after.locals = before.locals ++ [⟨thread.id, reference, true⟩])
      (hobtained : (thread.id, reference.env) ∈ before.envs)
  | givenUp {index : Nat} {held : HeldLocal} (hgivenUp : doing.givenUp? = some index)
      (henvs : after.envs = before.envs)
      (hlocals : after.locals = before.locals.set index { held with owned := false })
      (hheld : before.owned? thread index = some held)

section

variable {thread : NativeThread}

/-- Whoever gets an environment is attached with it. -/
theorem ensures_enter_number {first : Moment Attachments} (id : LifecycleId)
    (config : AttachConfig) :
    Ensures Exchange.KeepsAttachments thread (id.enter config).run first fun _ result last ↦
      ∀ env attachedHere, result = .ok (env, attachedHere) →
        last.outside env.pointer.vm thread.id = some env.pointer.number := by
  rw [LifecycleId.ensures_enter_iff]
  cases (first.bridge.lifecycle id).registration with
  | none =>
    rintro _ _ ⟨⟩
  | some registration =>
    refine (ensures_attachTo id registration config).weaken ?_
    rintro exchanges (error | ⟨pointer, attachedHere⟩) last ⟨-, hattach⟩
    · rintro _ _ ⟨⟩
    · rintro _ _ ⟨rfl⟩
      change last.outside pointer.vm thread.id = some pointer.number
      cases attachedHere with
      | false =>
        obtain ⟨hnumber, hvm, rfl⟩ := hattach
        rw [hvm]
        exact hnumber
      | true =>
        obtain ⟨-, -, hvm, -, houtside⟩ := hattach
        rw [hvm, houtside, put_self]

variable {first : Moment Stays}

theorem ensures_enter_grants (id : LifecycleId) (config : AttachConfig)
    (hunloaded : first.bridge.Unloaded) (hnumbered : first.bridge.Numbered) :
    Ensures Exchange.KeepsStays thread (id.enter config).run first fun _ result last ↦
      ∀ env attachedHere, result = .ok (env, attachedHere) → last.Grants thread.id env := by
  have htame : Tame true (id.enter config).run := .enter id config
  have hseen : Ensures Exchange.KeepsAttachments thread (id.enter config).run
      (first.onto Stays.attachments) _ :=
    ((ensures_enter id config hnumbered).and (ensures_enter_number id config)).and
      (htame thread _ hunloaded)
  refine (hseen.onto fun _ ↦ Exchange.KeepsStays.attachments).weaken ?_
  rintro exchanges result last ⟨⟨htrusts, hnumber⟩, -, -, hadvances⟩ env attachedHere hresult
  refine ⟨?_, ?_⟩
  · exact Nat.lt_of_lt_of_le (htrusts env attachedHere hresult).given hadvances.generation
  · exact Option.map_eq_some_iff.1 (hnumber env attachedHere hresult)

variable {belongings : Belongings}

/-- Something that the belongings do not depend on. -/
theorem ensures_aside_alters {α : Type} {doing : Doing} {program : Program α}
    (hgivenUp : doing.givenUp? = none) :
    Ensures Exchange.KeepsStays thread (Doing.aside belongings program) first
      fun _ after last ↦ Alters doing thread last belongings after := by
  unfold Doing.aside
  rw [Program.ensures_map]
  intro exchanges _ last _ _
  exact .same hgivenUp rfl rfl

/-- A new local reference belongs to the environment that made it. -/
theorem always_newLocal (env : Env) (object : Option Handle) :
    Always (env.newLocal object).run fun result ↦
      ∀ reference, result = .ok reference → reference.env = env := by
  intro ω law thread first
  unfold Env.newLocal Env.perform
  rw [Fallible.ensures_bind, Fallible.ensures_nonNull]
  cases object with
  | none => rintro _ ⟨⟩
  | some object =>
    rw [Option.elim_some, Fallible.continues_ok, Fallible.ensures_liftThen,
      Program.ensures_perform]
    rintro (_ | handle) after -
    · dsimp only
      rw [Fallible.ensures_throw]
      rintro _ ⟨⟩
    · dsimp only
      rw [Fallible.ensures_pure]
      rintro _ ⟨rfl⟩
      rfl

theorem ensures_alters {doing : Doing} (hpermitted : doing.Permitted thread belongings)
    (hunloaded : first.bridge.Unloaded) (hnumbered : first.bridge.Numbered) :
    Ensures Exchange.KeepsStays thread (doing.program belongings) first
      fun _ after last ↦ Alters doing thread last belongings after := by
  cases doing with
  | take | detach | exit => exact ensures_aside_alters rfl
  | attach id config =>
    unfold Doing.program LifecycleId.attach
    rw [Program.ensures_bind, Program.ensures_current, Program.ensures_bind, Fallible.ensures_bind]
    refine (ensures_enter_grants id _ hunloaded hnumbered).weaken ?_
    rintro exchanges (error | ⟨env, attachedHere⟩) last hgrants
    · rw [Fallible.continues_error, Program.ensures_pure]
      exact .same rfl rfl rfl
    · rw [Fallible.continues_ok, Fallible.ensures_pure, Program.ensures_pure]
      exact .obtained rfl rfl rfl (hgrants _ _ rfl)
  | enter id config =>
    unfold Doing.program
    rw [Program.ensures_bind, Program.ensures_current, Program.ensures_bind]
    refine (ensures_enter_grants id config hunloaded hnumbered).weaken ?_
    rintro exchanges (error | ⟨env, attachedHere⟩) last hgrants
    · exact Program.ensures_pure.2 (.same rfl rfl rfl)
    · exact Program.ensures_pure.2 (.obtained rfl rfl rfl (hgrants _ _ rfl))
  | leave =>
    unfold Doing.program
    rw [Program.ensures_bind, Program.ensures_current]
    split
    · rw [Program.ensures_bind]
      intro exchanges _ middle _ _
      exact Program.ensures_pure.2 (.same rfl rfl rfl)
    · exact Program.ensures_pure.2 (.same rfl rfl rfl)
  | newLocal env object =>
    unfold Doing.program
    rw [Program.ensures_bind, Program.ensures_current, Program.ensures_bind]
    refine (always_newLocal env object _ _ thread first).weaken ?_
    rintro exchanges (error | reference) last hreference
    · exact Program.ensures_pure.2 (.same rfl rfl rfl)
    · refine Program.ensures_pure.2 (.made rfl rfl rfl ?_)
      rw [hreference reference rfl]
      exact hpermitted
  | own env raw =>
    unfold Doing.program
    rw [Program.ensures_bind, Program.ensures_current]
    exact Program.ensures_pure.2 (.made rfl rfl rfl hpermitted)
  | intoRaw index =>
    obtain ⟨held, hheld⟩ := Option.isSome_iff_exists.1 hpermitted
    unfold Doing.program
    rw [Program.ensures_bind, Program.ensures_current, hheld]
    exact Program.ensures_pure.2 (.givenUp rfl rfl rfl hheld)
  | drop index =>
    obtain ⟨held, hheld⟩ := Option.isSome_iff_exists.1 hpermitted
    unfold Doing.program
    rw [Program.ensures_bind, Program.ensures_current, hheld, Program.ensures_bind]
    intro exchanges _ middle _ _
    exact Program.ensures_pure.2 (.givenUp rfl rfl rfl hheld)

end

/-! ## Deletions of local references -/

/-- The local reference that is deleted in a call. -/
def Call.deletedLocal? : Call → Option Handle
  | .env _ (.deleteLocalRef reference) => some reference
  | _ => none

omit [Host] in
theorem Call.IsClerical.deletedLocal? {request : Call} (hclerical : request.IsClerical) :
    request.deletedLocal? = none := by
  cases request with
  | env pointer function =>
    cases function with
    | deleteLocalRef => cases hclerical
    | _ => rfl
  | _ => rfl

theorem LifecycleId.official_turn (id : LifecycleId) (turn : Turn) :
    (turn.program id).run.Official := by
  cases turn with
  | create version options => exact official_create id version options
  | adopt vm version => exact official_adopt id (some vm) version
  | teardown => exact official_teardown id
  | reset => exact .lift (official_reset id)
  | cleanup => exact .lift (official_cleanup id)

/-- Whoever does not drop a reference deletes none. -/
theorem Doing.calls {doing : Doing} {belongings : Belongings} (hdropped : doing.dropped? = none) :
    (doing.program belongings).Calls fun request ↦ request.deletedLocal? = none := by
  have hclerical : ∀ {α : Type} {program : Program α}, program.Clerical →
      program.Calls fun request ↦ request.deletedLocal? = none :=
    fun hprogram ↦ hprogram.weaken fun _ ↦ Call.IsClerical.deletedLocal?
  cases doing with
  | take id turn => exact hclerical (id.official_turn turn).clerical.map
  | detach id => exact hclerical id.official_detach.clerical.map
  | exit heldOutside => exact hclerical (clerical_exitThread heldOutside).map
  | attach id config =>
    have hattach := (id.official_attach config).clerical
    refine hclerical (Program.Calls.current.bind fun running ↦ hattach.bind ?_)
    rintro (error | env)
    · exact .done
    · exact .done
  | enter id config =>
    have henter := (id.official_enter config).clerical
    refine hclerical (Program.Calls.current.bind fun running ↦ henter.bind ?_)
    rintro (error | env)
    · exact .done
    · exact .done
  | leave =>
    refine hclerical (Program.Calls.current.bind fun running ↦ ?_)
    split
    · exact (LifecycleId.official_leave _ _ _ _).clerical.bind fun _ ↦ .done
    · exact .done
  | newLocal env object =>
    have hnew : (env.newLocal object).run.Calls fun request ↦ request.deletedLocal? = none := by
      refine .andThen .nonNull fun object ↦ .liftThen (.perform rfl) ?_
      rintro (_ | handle)
      · exact .throw
      · exact .succeed
    refine Program.Calls.current.bind fun running ↦ hnew.bind ?_
    rintro (error | reference)
    · exact .done
    · exact .done
  | own env raw => exact Program.Calls.current.bind fun running ↦ .done
  | intoRaw index =>
    refine Program.Calls.current.bind fun running ↦ ?_
    split
    · exact .done
    · exact .done
  | drop index => cases hdropped

/-- The calls that dropping a reference makes. -/
def LocalReference.deletion (reference : LocalReference) (bridge : Bridge) : List Call :=
  match reference.raw with
  | some handle =>
    if bridge.isLive reference.env.lifecycle reference.env.generation then
      [.env reference.env.pointer (.deleteLocalRef handle)]
    else []
  | none => []

/-- An owner who drops a reference makes no other call. -/
theorem ensures_drop {law : Exchange Stays → Prop} {thread : NativeThread} {first : Moment Stays}
    {belongings : Belongings} {index : Nat} {held : HeldLocal}
    (hheld : belongings.owned? thread index = some held) :
    Ensures law thread ((Doing.drop index).program belongings) first fun exchanges _ _ ↦
      exchanges.map Exchange.request = held.reference.deletion first.bridge ∧
        ∀ exchange ∈ exchanges, exchange.before = first := by
  unfold Doing.program
  rw [Program.ensures_bind, Program.ensures_current, hheld, Program.ensures_bind]
  unfold LocalReference.drop Env.deleteLocal LocalReference.deletion
  cases held.reference.raw with
  | none =>
    dsimp only
    rw [Program.ensures_pure, Program.ensures_pure]
    exact ⟨rfl, by simp⟩
  | some handle =>
    dsimp only
    rw [LifecycleId.registered?, Program.ensures_bind, Program.ensures_look]
    unfold Bridge.isLive
    cases first.bridge.registered? held.reference.env.lifecycle held.reference.env.generation with
    | none =>
      rw [Program.ensures_pure, Program.ensures_pure]
      exact ⟨rfl, by simp⟩
    | some registration =>
      rw [Env.perform, Program.ensures_perform]
      intro reply after _
      rw [Program.ensures_pure]
      exact ⟨rfl, by simp⟩

/-! ## Forgetting a machine -/

/-- A machine that is to be forgotten is not registered afterwards. -/
theorem ensures_forgets {thread : NativeThread} {first : Moment Stays} {doing : Doing}
    {belongings : Belongings} {id : LifecycleId} (hforgets : doing.Forgets id) :
    Ensures Exchange.KeepsStays thread (doing.program belongings) first
      fun _ _ last ↦ (last.bridge.lifecycle id).registration = none := by
  cases doing with
  | take other turn =>
    obtain ⟨rfl, hends⟩ := hforgets
    have hplain : turn.IsPlain other thread first := turn.isPlain
    unfold Doing.program Doing.aside
    rw [Program.ensures_map]
    refine (hplain.strict fun exchange hkeeps ↦ ?_).weaken ?_
    · exact congrArg (fun bridge ↦ (bridge.lifecycle other).registration) hkeeps.bridge
    · intro exchanges result last hepisode
      have hincumbent := hepisode.incumbent
      rw [if_pos hends] at hincumbent
      exact incumbent_eq_none_iff.1 hincumbent
  | _ => cases hforgets

end JavaInterop
