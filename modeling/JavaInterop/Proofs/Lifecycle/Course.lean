import JavaInterop.Proofs.Lifecycle.Conduct
import Mathlib.Data.List.Induction

/-!
# The course of a process

A process has any number of threads, lifecycles and machines, and its native code may ask anything
of the bridge, with any arguments.  While a call is under way other code may act, on the same thread
or on another one; whatever it begins meanwhile is over before the call returns.

The chronicle of a process tells what has been done so far.  Someone may also look at the bridge
from time to time, and then the chronicle tells what it looked like.  Looking changes nothing, so a
process may be thought of as being looked at as often as one likes.
-/

namespace JavaInterop

variable [Host] {ω α : Type}

/-! ## Activities -/

/-- Something that native code may do. -/
inductive Activity where
  | create (id : LifecycleId) (version : Version) (options : Startup.OptionList)
  | adopt (id : LifecycleId) (vm : Option VmId) (version : Version)
  | teardown (id : LifecycleId)
  | reset (id : LifecycleId)
  | cleanup (id : LifecycleId)
  | attach (id : LifecycleId) (config : AttachConfig)
  | detach (id : LifecycleId)
  | enter (id : LifecycleId) (config : AttachConfig)
  | leave (id : LifecycleId) (config : AttachConfig) (env : Env) (attachedHere : Bool)
  | exit (heldOutside : LifecycleId → Bool)
  | newLocal (env : Env) (object : Option Handle)
  | dropLocal (reference : LocalReference)
  | newGlobal (env : Env) (object : Option Handle)
  | release (reference : GlobalReference)
  | drop (reference : GlobalReference)
  | dropBuilder (builder : Builder)
  | setClassLoader (env : Env) (loader : Option Handle)
  | operate (operation : Operation) (env : Env)
  | signalShutdown
  | call (request : Call)

namespace Activity

/-- Something that always succeeds. -/
def completes (program : Program α) : Program Bool := (fun _ ↦ true) <$> program

/-- Something that may fail. -/
def attempts (operation : Fallible α) : Program Bool := Except.isOk <$> operation.run

/-- The program of an activity.  It tells whether the activity succeeded; what else comes of it does
not matter, since the arguments of other activities are arbitrary anyway. -/
def program : Activity → Program Bool
  | create id version options => attempts (id.create version options)
  | adopt id vm version => attempts (id.adopt vm version)
  | teardown id => attempts id.teardown
  | reset id => completes id.reset
  | cleanup id => completes id.cleanup
  | attach id config => attempts (id.attach config)
  | detach id => completes id.detach
  | enter id config => attempts (id.enter config)
  | leave id config env attachedHere => completes (id.leave config env attachedHere)
  | exit heldOutside => completes (exitThread heldOutside)
  | newLocal env object => attempts (env.newLocal object)
  | dropLocal reference => completes reference.drop
  | newGlobal env object => attempts (env.newGlobal object)
  | release reference => completes reference.release
  | drop reference => completes reference.drop
  | dropBuilder builder => completes builder.drop
  | setClassLoader env loader => attempts (JavaInterop.setClassLoader env loader)
  | operate operation env => attempts (operation.program env)
  | signalShutdown => completes JavaInterop.signalShutdown
  | call request => completes (Program.perform request)

/-- The environment that something is done with. -/
def env? : Activity → Option Env
  | newLocal env _ | newGlobal env _ | setClassLoader env _ | operate _ env => some env
  | dropLocal reference => some reference.env
  | _ => none

end Activity

/-! ## What activities do in a setting -/

namespace Setting

variable {setting : Setting ω}

theorem Admits.completes {program : Program α} {wanted : α → Prop}
    (hprogram : setting.Admits program wanted) :
    setting.Admits (Activity.completes program) fun _ ↦ True :=
  Admits.map _ (hprogram.weaken fun _ _ ↦ trivial)

theorem Admits.attempts {operation : Fallible α} {wanted : Except Error α → Prop}
    (hoperation : setting.Admits operation.run wanted) :
    setting.Admits (Activity.attempts operation) fun _ ↦ True :=
  Admits.map _ (hoperation.weaken fun _ _ ↦ trivial)

/-- Where every reference may be handed to every machine, all activities keep to the setting.  The
conditions on the shutdown hook and on new registrations matter only for what depends on them. -/
theorem Admits.activity (hall : ∀ vm handle, setting.known vm handle) (activity : Activity)
    (htrusts : ∀ env, activity.env? = some env → setting.trusts env)
    (hregisters : setting.Registers)
    (hhook : ∀ env, activity = .operate .registerShutdownHook env → setting.Hooks
      (some (env.lifecycle, env.generation)))
    (hsignal : activity = .signalShutdown → setting.Hooks none) :
    setting.Admits activity.program fun _ ↦ True := by
  have hknows : ∀ env reference, setting.Knows env reference := fun _ _ handle _ ↦ hall _ handle
  have hdeletable : ∀ reference, Deletable setting.known setting.good reference :=
    fun _ _ _ _ _ handle _ ↦ hall _ handle
  cases activity with
  | create id version options => exact (create hregisters id version options).attempts
  | adopt id vm version => exact (adopt hregisters id vm version).attempts
  | teardown id => exact (teardown id).attempts
  | reset id => exact (reset id).completes
  | cleanup id => exact (cleanup id).completes
  | attach id config => exact (attach id fun _ handle _ ↦ hall _ handle).attempts
  | detach id => exact (detach id).completes
  | enter id config => exact (enter id fun _ handle _ ↦ hall _ handle).attempts
  | leave id config env attachedHere => exact (leave id config env attachedHere).completes
  | exit heldOutside => exact (exitThread heldOutside).completes
  | newLocal env object => exact (Performs.newLocal (hknows env object)).attempts
  | dropLocal reference => exact (dropLocal (hknows _ _)).completes
  | newGlobal env object => exact (Performs.newGlobal (hknows env object)).attempts
  | release reference => exact (release (hdeletable reference)).completes
  | drop reference => exact (drop (hdeletable reference)).completes
  | dropBuilder builder =>
    refine (bind (shift fun bridge ↦ ?_) fun _ _ ↦ drop (hdeletable _)).completes
    exact .of_same (Nat.le_refl _) rfl rfl rfl rfl
  | setClassLoader env loader =>
    exact (Performs.setClassLoader (htrusts env rfl) (hknows env loader)).attempts
  | operate operation env =>
    refine (Performs.operation (htrusts env rfl) operation (fun handle _ ↦ hall _ handle)
      (fun _ _ _ _ _ _ _ ↦ hknows _ _) fun hshutdown ↦ ?_).attempts
    exact hhook env (hshutdown ▸ rfl)
  | signalShutdown => exact (signalShutdown (hsignal rfl)).completes
  | call request =>
    have hcall : setting.Admits (Program.perform request) fun _ ↦ True :=
      perform (fun _ handle _ ↦ hall _ handle) fun _ _ _ _ ↦ trivial
    exact hcall.completes

end Setting

/-! ## Chronicles -/

/-- An entry of a chronicle. -/
inductive Record where
  /-- Someone looked at the bridge. -/
  | seen (bridge : Bridge)
  /-- A thread did something and is done with it. -/
  | finished (thread : NativeThread) (activity : Activity) (succeeded : Bool)

/-- What has happened in a process so far. -/
abbrev Chronicle := List Record

/-- What is known about the native code and the machines of a process. -/
structure ProcessRules where
  /-- What native code may do at a moment. -/
  permits : Moment Chronicle → Activity → Prop
  /-- What is true of every call. -/
  law : Exchange Chronicle → Prop

/-- Nothing is known about the native code and the machines. -/
def ProcessRules.any : ProcessRules := ⟨fun _ _ ↦ True, fun _ ↦ True⟩

/-- What may happen in a process from one moment to another one between two steps. -/
inductive ProcessRules.Evolves (rules : ProcessRules) : Moment Chronicle → Moment Chronicle → Prop
  | refl (moment : Moment Chronicle) : rules.Evolves moment moment
  | look {first last : Moment Chronicle} (hbefore : rules.Evolves first last) :
      rules.Evolves first ⟨last.bridge, last.outside ++ [.seen last.bridge]⟩
  | act {first middle last : Moment Chronicle} {thread : NativeThread} {activity : Activity}
      {exchanges : List (Exchange Chronicle)} {succeeded : Bool}
      (hbefore : rules.Evolves first middle) (hpermits : rules.permits middle activity)
      (hrun : activity.program.Run thread middle exchanges succeeded last)
      (hlaw : ∀ exchange ∈ exchanges, rules.law exchange)
      (hmeanwhile : ∀ exchange ∈ exchanges, rules.Evolves exchange.before exchange.after) :
      rules.Evolves first
        ⟨last.bridge, last.outside ++ [.finished thread activity succeeded]⟩

/-- What is true of every call in a process: it keeps the law, and meanwhile other code acts. -/
def ProcessRules.Bears (rules : ProcessRules) (exchange : Exchange Chronicle) : Prop :=
  rules.law exchange ∧ rules.Evolves exchange.before exchange.after

/-- The moments that a process may get to, between two activities or in a call. -/
inductive ProcessRules.Reaches (rules : ProcessRules) : Moment Chronicle → Prop
  | start (registry : Registry) : rules.Reaches ⟨{ registry := registry }, []⟩
  | later {first last : Moment Chronicle} (hfirst : rules.Reaches first)
      (hevolves : rules.Evolves first last) : rules.Reaches last
  | within {first last : Moment Chronicle} {thread : NativeThread} {activity : Activity}
      {exchanges : List (Exchange Chronicle)} {succeeded : Bool} {exchange : Exchange Chronicle}
      (hfirst : rules.Reaches first) (hpermits : rules.permits first activity)
      (hrun : activity.program.Run thread first exchanges succeeded last)
      (hbears : ∀ exchange ∈ exchanges, rules.Bears exchange) (hmem : exchange ∈ exchanges) :
      rules.Reaches exchange.before

/-! ## Processes with given machines -/

/-- The moment after a thread has done something. -/
def Activity.afterwards (activity : Activity) (answer : (request : Call) → request.Reply)
    (thread : NativeThread) (moment : Moment Chronicle) : Moment Chronicle :=
  let (_, succeeded, last) := activity.program.play (.answering answer) thread moment
  ⟨last.bridge, last.outside ++ [.finished thread activity succeeded]⟩

/-- The moment after someone has looked at the bridge. -/
def Moment.looked (moment : Moment Chronicle) : Moment Chronicle :=
  ⟨moment.bridge, moment.outside ++ [.seen moment.bridge]⟩

theorem ProcessRules.Evolves.afterwards {rules : ProcessRules} {first moment : Moment Chronicle}
    {thread : NativeThread} {activity : Activity} {answer : (request : Call) → request.Reply}
    (hevolves : rules.Evolves first moment) (hpermits : rules.permits moment activity)
    (hlaw : ∀ request before, rules.law ⟨thread, request, answer request, before, before⟩) :
    rules.Evolves first (activity.afterwards answer thread moment) :=
  .act hevolves hpermits (Program.run_play _ activity.program)
    (Program.lawful_play _ hlaw) (Program.lawful_play _ fun _ before ↦ .refl before)

/-- What comes of a sequence of activities of a thread.  Someone looks at the bridge after each. -/
def courseOf (answer : (request : Call) → request.Reply) (thread : NativeThread)
    (activities : List Activity) : Moment Chronicle :=
  activities.foldl (fun moment activity ↦ (activity.afterwards answer thread moment).looked)
    ⟨{ }, []⟩

theorem ProcessRules.Evolves.courseOf_snoc {rules : ProcessRules} {first : Moment Chronicle}
    {answer : (request : Call) → request.Reply} {thread : NativeThread}
    {activities : List Activity} {activity : Activity}
    (hevolves : rules.Evolves first (courseOf answer thread activities))
    (hpermits : rules.permits (courseOf answer thread activities) activity)
    (hlaw : ∀ request before, rules.law ⟨thread, request, answer request, before, before⟩) :
    rules.Evolves first (courseOf answer thread (activities ++ [activity])) := by
  unfold courseOf at hevolves hpermits ⊢
  rw [List.foldl_append]
  exact .look (hevolves.afterwards hpermits hlaw)

/-- Where native code may do what it likes, every sequence of activities is possible. -/
theorem ProcessRules.evolves_courseOf {rules : ProcessRules}
    {answer : (request : Call) → request.Reply}
    {thread : NativeThread} (hpermits : ∀ moment activity, rules.permits moment activity)
    (hlaw : ∀ request before, rules.law ⟨thread, request, answer request, before, before⟩)
    (activities : List Activity) :
    rules.Evolves ⟨{ }, []⟩ (courseOf answer thread activities) := by
  induction activities using List.reverseRec with
  | nil => exact .refl _
  | append_singleton activities activity ih => exact ih.courseOf_snoc (hpermits _ _) hlaw

/-- Whether the entry tells of something that failed. -/
def Record.failed : Record → Bool
  | .seen _ => false
  | .finished _ _ succeeded => !succeeded

namespace Sample

/-- A second machine, apart from `vm`. -/
def neighbour : VmId := ⟨1⟩

/-- An environment of the second machine, if its registration is the second one of the process. -/
def neighbourEnv (id : LifecycleId) : Env :=
  Env.of id ⟨neighbour, .v1_8, thread.id, false, 2⟩ ⟨neighbour, 1⟩

/-- What comes of a sequence of activities with machines that have something for every question. -/
def course (activities : List (@Activity host)) : @Moment host (@Chronicle host) :=
  let _ := host
  courseOf something thread activities

end Sample

end JavaInterop
