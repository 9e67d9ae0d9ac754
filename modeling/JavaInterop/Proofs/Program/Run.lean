import JavaInterop.Bridge.Program
import Mathlib.Tactic.Choose

/-!
# Runs of a program

A program leaves open what the machines answer, so it has many runs: one for every choice of an
answer at each call.  This module says what a run is and keeps everything that can be observed of
it, namely the calls in order, each with its answer and with the moments before and after it.

Nothing is assumed here about the machines.  While a call is under way other code may act, so the
moment after a call is as open as the answer; what may be relied on is said by a *law*, a predicate
on single exchanges.  `Program.Ensures` speaks about all runs that keep a law, and its rules follow
the constructors of a program, so that a statement about an operation is put together from
statements about its parts.
-/

namespace JavaInterop

/-- The bridge together with everything outside of it that a statement speaks about. -/
structure Moment [Host] (ω : Type) where
  bridge : Bridge
  outside : ω

/-- A call that was answered. -/
structure Exchange [Host] (ω : Type) where
  caller : NativeThread
  request : Call
  reply : request.Reply
  before : Moment ω
  after : Moment ω

variable [Host] {ω α β : Type}

/-- The moment, if only a part of the outside is looked at. -/
def Moment.onto {κ : Type} (view : ω → κ) (moment : Moment ω) : Moment κ :=
  ⟨moment.bridge, view moment.outside⟩

/-- The call, if only a part of the outside is looked at. -/
def Exchange.onto {κ : Type} (view : ω → κ) (exchange : Exchange ω) : Exchange κ :=
  ⟨exchange.caller, exchange.request, exchange.reply, exchange.before.onto view,
    exchange.after.onto view⟩

/-- The moments of a run at which other code may have acted: its first one, and the end of each of
its calls. -/
def boundaries (first : Moment ω) (exchanges : List (Exchange ω)) : List (Moment ω) :=
  first :: exchanges.map Exchange.after

namespace Program

/-- The program can be run from the first moment to the last one, with these exchanges in order and
this result. -/
inductive Run (thread : NativeThread) :
    Program α → Moment ω → List (Exchange ω) → α → Moment ω → Prop
  | done (result : α) (moment : Moment ω) : Run thread (.done result) moment [] result moment
  | call {request : Call} {next : request.Reply → Program α} {first last : Moment ω}
      {exchanges : List (Exchange ω)} {result : α} (reply : request.Reply) (after : Moment ω)
      (rest : Run thread (next reply) after exchanges result last) :
      Run thread (.call request next) first
        (⟨thread, request, reply, first, after⟩ :: exchanges) result last
  | read {next : Bridge → Program α} {first last : Moment ω} {exchanges : List (Exchange ω)}
      {result : α} (rest : Run thread (next first.bridge) first exchanges result last) :
      Run thread (.read next) first exchanges result last
  | write {bridge : Bridge} {next : Program α} {first last : Moment ω}
      {exchanges : List (Exchange ω)} {result : α}
      (rest : Run thread next ⟨bridge, first.outside⟩ exchanges result last) :
      Run thread (.write bridge next) first exchanges result last
  | thread {next : NativeThread → Program α} {first last : Moment ω}
      {exchanges : List (Exchange ω)} {result : α}
      (rest : Run thread (next thread) first exchanges result last) :
      Run thread (.thread next) first exchanges result last
  | notify {notice : Notice} {next : Program α} {first last : Moment ω}
      {exchanges : List (Exchange ω)} {result : α}
      (rest : Run thread next first exchanges result last) :
      Run thread (.notify notice next) first exchanges result last
  | remark {note : Host.Note} {next : Program α} {first last : Moment ω}
      {exchanges : List (Exchange ω)} {result : α}
      (rest : Run thread next first exchanges result last) :
      Run thread (.remark note next) first exchanges result last

variable {thread : NativeThread} {first last : Moment ω} {exchanges : List (Exchange ω)}

theorem Run.bind {program : Program α} {next : α → Program β} {middle : Moment ω}
    {rest : List (Exchange ω)} {value : α} {result : β}
    (hprogram : program.Run thread first exchanges value middle)
    (hnext : (next value).Run thread middle rest result last) :
    (program.bind next).Run thread first (exchanges ++ rest) result last := by
  induction hprogram with
  | done => exact hnext
  | call reply after _ ih => exact .call reply after (ih hnext)
  | read _ ih => exact .read (ih hnext)
  | write _ ih => exact .write (ih hnext)
  | thread _ ih => exact .thread (ih hnext)
  | notify _ ih => exact .notify (ih hnext)
  | remark _ ih => exact .remark (ih hnext)

/-- A run of one program after another splits where the second one begins. -/
theorem Run.of_bind {program : Program α} {next : α → Program β} {result : β}
    (hrun : (program.bind next).Run thread first exchanges result last) :
    ∃ begun value middle rest, program.Run thread first begun value middle ∧
      (next value).Run thread middle rest result last ∧ exchanges = begun ++ rest := by
  induction program generalizing first exchanges with
  | done value => exact ⟨[], value, first, exchanges, .done value first, hrun, rfl⟩
  | call request continuation ih =>
    cases hrun with
    | call reply after hrest =>
      obtain ⟨begun, value, middle, rest, hbegun, hend, rfl⟩ := ih reply hrest
      exact ⟨_, value, middle, rest, .call reply after hbegun, hend, rfl⟩
  | read continuation ih =>
    cases hrun with
    | read hrest =>
      obtain ⟨begun, value, middle, rest, hbegun, hend, rfl⟩ := ih _ hrest
      exact ⟨begun, value, middle, rest, .read hbegun, hend, rfl⟩
  | write bridge continuation ih =>
    cases hrun with
    | write hrest =>
      obtain ⟨begun, value, middle, rest, hbegun, hend, rfl⟩ := ih hrest
      exact ⟨begun, value, middle, rest, .write hbegun, hend, rfl⟩
  | thread continuation ih =>
    cases hrun with
    | thread hrest =>
      obtain ⟨begun, value, middle, rest, hbegun, hend, rfl⟩ := ih _ hrest
      exact ⟨begun, value, middle, rest, .thread hbegun, hend, rfl⟩
  | notify notice continuation ih =>
    cases hrun with
    | notify hrest =>
      obtain ⟨begun, value, middle, rest, hbegun, hend, rfl⟩ := ih hrest
      exact ⟨begun, value, middle, rest, .notify hbegun, hend, rfl⟩
  | remark note continuation ih =>
    cases hrun with
    | remark hrest =>
      obtain ⟨begun, value, middle, rest, hbegun, hend, rfl⟩ := ih hrest
      exact ⟨begun, value, middle, rest, .remark hbegun, hend, rfl⟩

/-- Every call of a run is made by the running thread. -/
theorem Run.caller {program : Program α} {result : α}
    (hrun : program.Run thread first exchanges result last) {exchange : Exchange ω}
    (hmem : exchange ∈ exchanges) : exchange.caller = thread := by
  induction hrun with
  | done => cases hmem
  | call _ _ _ ih =>
    rcases List.mem_cons.1 hmem with rfl | hmem
    · rfl
    · exact ih hmem
  | read _ ih | write _ ih | thread _ ih | notify _ ih | remark _ ih => exact ih hmem

/-- A run is one as well if only a part of the outside is looked at. -/
theorem Run.onto {κ : Type} (view : ω → κ) {program : Program α} {result : α}
    (hrun : program.Run thread first exchanges result last) :
    program.Run thread (first.onto view) (exchanges.map (Exchange.onto view)) result
      (last.onto view) := by
  induction hrun with
  | done => exact .done _ _
  | call reply _ _ ih => exact .call reply _ ih
  | read _ ih => exact .read ih
  | write _ ih => exact .write ih
  | thread _ ih => exact .thread ih
  | notify _ ih => exact .notify ih
  | remark _ ih => exact .remark ih

/-! ## Runs against a given machine -/

/-- What a machine answers to a call, and the moment that it leaves behind. -/
abbrev Machine (ω : Type) := (request : Call) → Moment ω → request.Reply × Moment ω

/-- Machines that always give the same answers, and during whose calls nothing else happens. -/
def Machine.answering (answer : (request : Call) → request.Reply) : Machine ω :=
  fun request moment ↦ (answer request, moment)

/-- The run of a program against a machine: its exchanges, its result and its last moment. -/
def play (machine : Machine ω) (thread : NativeThread) :
    Program α → Moment ω → List (Exchange ω) × α × Moment ω
  | .done result, first => ([], result, first)
  | .call request next, first =>
    let (reply, after) := machine request first
    let (exchanges, result, last) := play machine thread (next reply) after
    (⟨thread, request, reply, first, after⟩ :: exchanges, result, last)
  | .read next, first => play machine thread (next first.bridge) first
  | .write bridge next, first => play machine thread next ⟨bridge, first.outside⟩
  | .thread next, first => play machine thread (next thread) first
  | .notify _ next, first => play machine thread next first
  | .remark _ next, first => play machine thread next first

theorem run_play (machine : Machine ω) (program : Program α) :
    program.Run thread first (program.play machine thread first).1
      (program.play machine thread first).2.1 (program.play machine thread first).2.2 := by
  induction program generalizing first with
  | done result => exact .done result first
  | call request next ih => exact .call _ _ (ih _)
  | read next ih => exact .read (ih _)
  | write bridge next ih => exact .write ih
  | thread next ih => exact .thread (ih _)
  | notify notice next ih => exact .notify ih
  | remark note next ih => exact .remark ih

/-- A machine that keeps a law in every single call keeps it in the whole run. -/
theorem lawful_play {machine : Machine ω} {law : Exchange ω → Prop} (program : Program α)
    (hmachine : ∀ request before,
      law ⟨thread, request, (machine request before).1, before, (machine request before).2⟩) :
    ∀ exchange ∈ (program.play machine thread first).1, law exchange := by
  induction program generalizing first with
  | done result => simp [play]
  | call request next ih =>
    intro exchange hmem
    rcases List.mem_cons.1 hmem with rfl | hmem
    · exact hmachine request first
    · exact ih _ exchange hmem
  | read next ih => exact ih _
  | write bridge next ih => exact ih
  | thread next ih => exact ih _
  | notify notice next ih => exact ih
  | remark note next ih => exact ih

/-- The same for a machine that keeps the law as long as the outside is in good order, and leaves it
so. -/
theorem lawful_play_within {machine : Machine ω} {law : Exchange ω → Prop} {good : ω → Prop}
    (program : Program α) (hgood : good first.outside)
    (hmachine : ∀ request before, good before.outside →
      law ⟨thread, request, (machine request before).1, before, (machine request before).2⟩ ∧
        good (machine request before).2.outside) :
    (∀ exchange ∈ (program.play machine thread first).1, law exchange) ∧
      good (program.play machine thread first).2.2.outside := by
  induction program generalizing first with
  | done result => exact ⟨fun _ hmem ↦ absurd hmem List.not_mem_nil, hgood⟩
  | call request next ih =>
    obtain ⟨hlaw, hafter⟩ := hmachine request first hgood
    obtain ⟨hrest, hlast⟩ := ih _ hafter
    refine ⟨fun exchange hmem ↦ ?_, hlast⟩
    rcases List.mem_cons.1 hmem with rfl | hmem
    · exact hlaw
    · exact hrest exchange hmem
  | read next ih => exact ih _ hgood
  | write bridge next ih => exact ih hgood
  | thread next ih => exact ih _ hgood
  | notify notice next ih => exact ih hgood
  | remark note next ih => exact ih hgood

/-- Whatever the machines are, a program can be run against them. -/
theorem exists_run (program : Program α) (law : Exchange ω → Prop)
    (htotal : ∀ request before, ∃ reply after, law ⟨thread, request, reply, before, after⟩) :
    ∃ exchanges result last, program.Run thread first exchanges result last ∧
      ∀ exchange ∈ exchanges, law exchange := by
  choose reply after hlaw using htotal
  let machine : Machine ω := fun request before ↦ (reply request before, after request before)
  exact ⟨_, _, _, run_play machine program, lawful_play program fun request before ↦
    hlaw request before⟩

/-! ## Statements about all runs -/

/-- Every run from `first` in which each exchange keeps the law ends as `post` says.  The
postcondition sees the exchanges, the result and the last moment. -/
def Ensures (law : Exchange ω → Prop) (thread : NativeThread) (program : Program α)
    (first : Moment ω) (post : List (Exchange ω) → α → Moment ω → Prop) : Prop :=
  ∀ exchanges result last, program.Run thread first exchanges result last →
    (∀ exchange ∈ exchanges, law exchange) → post exchanges result last

variable {law : Exchange ω → Prop} {post : List (Exchange ω) → α → Moment ω → Prop}

theorem Ensures.weaken {program : Program α} {weaker : List (Exchange ω) → α → Moment ω → Prop}
    (hensures : Ensures law thread program first post)
    (himplies : ∀ exchanges result last, post exchanges result last →
      weaker exchanges result last) :
    Ensures law thread program first weaker := by
  intro exchanges result last hrun hlaw
  exact himplies _ _ _ (hensures exchanges result last hrun hlaw)

theorem Ensures.and {program : Program α} {other : List (Exchange ω) → α → Moment ω → Prop}
    (hpost : Ensures law thread program first post)
    (hother : Ensures law thread program first other) :
    Ensures law thread program first fun exchanges result last ↦
      post exchanges result last ∧ other exchanges result last := by
  intro exchanges result last hrun hlaw
  exact ⟨hpost _ _ _ hrun hlaw, hother _ _ _ hrun hlaw⟩

/-- What is true of all runs that keep a law is true of all that keep a stricter one. -/
theorem Ensures.strict {program : Program α} {stricter : Exchange ω → Prop}
    (hensures : Ensures law thread program first post)
    (hstricter : ∀ exchange, stricter exchange → law exchange) :
    Ensures stricter thread program first post := by
  intro exchanges result last hrun hlaw
  exact hensures exchanges result last hrun fun exchange hmem ↦
    hstricter exchange (hlaw exchange hmem)

/-- What is true of all runs in which only a part of the outside is looked at. -/
theorem Ensures.onto {κ : Type} {view : ω → κ} {less : Exchange κ → Prop} {program : Program α}
    {seen : List (Exchange κ) → α → Moment κ → Prop}
    (hensures : Ensures less thread program (first.onto view) seen)
    (hless : ∀ exchange, law exchange → less (exchange.onto view)) :
    Ensures law thread program first fun exchanges result last ↦
      seen (exchanges.map (Exchange.onto view)) result (last.onto view) := by
  intro exchanges result last hrun hlaw
  refine hensures _ result _ (hrun.onto view) fun exchange hmem ↦ ?_
  obtain ⟨whole, hwhole, rfl⟩ := List.mem_map.1 hmem
  exact hless whole (hlaw whole hwhole)

/-- What is true of all runs is true of the one against a given machine. -/
theorem Ensures.played {program : Program α} {machine : Machine ω}
    (hensures : Ensures law thread program first post)
    (hmachine : ∀ request before,
      law ⟨thread, request, (machine request before).1, before, (machine request before).2⟩) :
    post (program.play machine thread first).1 (program.play machine thread first).2.1
      (program.play machine thread first).2.2 :=
  hensures _ _ _ (run_play machine program) (lawful_play program hmachine)

/-! ## One rule for each constructor -/

@[simp]
theorem ensures_done {value : α} :
    Ensures law thread (.done value) first post ↔ post [] value first := by
  constructor
  · intro hensures
    exact hensures [] value first (.done value first) (by simp)
  · intro hpost exchanges result last hrun _
    cases hrun
    exact hpost

@[simp]
theorem ensures_pure {value : α} :
    Ensures law thread (pure value) first post ↔ post [] value first :=
  ensures_done

@[simp]
theorem ensures_call {request : Call} {next : request.Reply → Program α} :
    Ensures law thread (.call request next) first post ↔
      ∀ reply after, law ⟨thread, request, reply, first, after⟩ →
        Ensures law thread (next reply) after fun exchanges result last ↦
          post (⟨thread, request, reply, first, after⟩ :: exchanges) result last := by
  constructor
  · intro hensures reply after hlaw exchanges result last hrun hrest
    apply hensures _ result last (.call reply after hrun)
    intro exchange hmem
    rcases List.mem_cons.1 hmem with rfl | hmem
    · exact hlaw
    · exact hrest exchange hmem
  · intro hensures exchanges result last hrun hlaw
    cases hrun with
    | call reply after hrest =>
      have hhead := hlaw _ List.mem_cons_self
      exact hensures reply after hhead _ result last hrest
        fun exchange hmem ↦ hlaw exchange (List.mem_cons_of_mem _ hmem)

@[simp]
theorem ensures_read {next : Bridge → Program α} :
    Ensures law thread (.read next) first post ↔
      Ensures law thread (next first.bridge) first post := by
  constructor
  · intro hensures exchanges result last hrun hlaw
    exact hensures exchanges result last (.read hrun) hlaw
  · intro hensures exchanges result last hrun hlaw
    cases hrun with
    | read hrest => exact hensures exchanges result last hrest hlaw

@[simp]
theorem ensures_write {bridge : Bridge} {next : Program α} :
    Ensures law thread (.write bridge next) first post ↔
      Ensures law thread next ⟨bridge, first.outside⟩ post := by
  constructor
  · intro hensures exchanges result last hrun hlaw
    exact hensures exchanges result last (.write hrun) hlaw
  · intro hensures exchanges result last hrun hlaw
    cases hrun with
    | write hrest => exact hensures exchanges result last hrest hlaw

@[simp]
theorem ensures_thread {next : NativeThread → Program α} :
    Ensures law thread (.thread next) first post ↔
      Ensures law thread (next thread) first post := by
  constructor
  · intro hensures exchanges result last hrun hlaw
    exact hensures exchanges result last (.thread hrun) hlaw
  · intro hensures exchanges result last hrun hlaw
    cases hrun with
    | thread hrest => exact hensures exchanges result last hrest hlaw

@[simp]
theorem ensures_notify {notice : Notice} {next : Program α} :
    Ensures law thread (.notify notice next) first post ↔
      Ensures law thread next first post := by
  constructor
  · intro hensures exchanges result last hrun hlaw
    exact hensures exchanges result last (.notify hrun) hlaw
  · intro hensures exchanges result last hrun hlaw
    cases hrun with
    | notify hrest => exact hensures exchanges result last hrest hlaw

@[simp]
theorem ensures_remark {note : Host.Note} {next : Program α} :
    Ensures law thread (.remark note next) first post ↔
      Ensures law thread next first post := by
  constructor
  · intro hensures exchanges result last hrun hlaw
    exact hensures exchanges result last (.remark hrun) hlaw
  · intro hensures exchanges result last hrun hlaw
    cases hrun with
    | remark hrest => exact hensures exchanges result last hrest hlaw

/-- One program after another: what the first one ends with is where the second one starts. -/
theorem ensures_bind {program : Program α} {next : α → Program β}
    {post : List (Exchange ω) → β → Moment ω → Prop} :
    Ensures law thread (program >>= next) first post ↔
      Ensures law thread program first fun begun value middle ↦
        Ensures law thread (next value) middle fun rest result last ↦
          post (begun ++ rest) result last := by
  rw [bind_eq_bind]
  constructor
  · intro hensures begun value middle hbegun hlaw rest result last hrest hlaw'
    apply hensures _ result last (hbegun.bind hrest)
    intro exchange hmem
    rcases List.mem_append.1 hmem with hmem | hmem
    · exact hlaw exchange hmem
    · exact hlaw' exchange hmem
  · intro hensures exchanges result last hrun hlaw
    obtain ⟨begun, value, middle, rest, hbegun, hrest, rfl⟩ := hrun.of_bind
    exact hensures begun value middle hbegun
      (fun exchange hmem ↦ hlaw exchange (List.mem_append_left _ hmem)) rest result last hrest
      fun exchange hmem ↦ hlaw exchange (List.mem_append_right _ hmem)

theorem ensures_map {program : Program α} {change : α → β}
    {post : List (Exchange ω) → β → Moment ω → Prop} :
    Ensures law thread (change <$> program) first post ↔
      Ensures law thread program first fun exchanges value last ↦
        post exchanges (change value) last := by
  rw [← bind_pure_comp, ensures_bind]
  simp

/-! ## The basic programs -/

@[simp]
theorem ensures_perform {request : Call}
    {post : List (Exchange ω) → request.Reply → Moment ω → Prop} :
    Ensures law thread (perform request) first post ↔
      ∀ reply after, law ⟨thread, request, reply, first, after⟩ →
        post [⟨thread, request, reply, first, after⟩] reply after := by
  simp [perform]

@[simp]
theorem ensures_look {view : Bridge → α} :
    Ensures law thread (look view) first post ↔ post [] (view first.bridge) first := by
  simp [look]

@[simp]
theorem ensures_state {post : List (Exchange ω) → Bridge → Moment ω → Prop} :
    Ensures law thread state first post ↔ post [] first.bridge first := by
  simp [state]

@[simp]
theorem ensures_update {change : Bridge → Bridge}
    {post : List (Exchange ω) → Unit → Moment ω → Prop} :
    Ensures law thread (update change) first post ↔
      post [] () ⟨change first.bridge, first.outside⟩ := by
  simp [update]

@[simp]
theorem ensures_current {post : List (Exchange ω) → NativeThread → Moment ω → Prop} :
    Ensures law thread current first post ↔ post [] thread first := by
  simp [current]

@[simp]
theorem ensures_warn {text : String} {post : List (Exchange ω) → Unit → Moment ω → Prop} :
    Ensures law thread (warn text) first post ↔ post [] () first := by
  simp [warn]

@[simp]
theorem ensures_complain {text : String} {post : List (Exchange ω) → Unit → Moment ω → Prop} :
    Ensures law thread (complain text) first post ↔ post [] () first := by
  simp [complain]

@[simp]
theorem ensures_freshGeneration {post : List (Exchange ω) → Nat → Moment ω → Prop} :
    Ensures law thread freshGeneration first post ↔
      post [] first.bridge.nextGeneration
        ⟨{ first.bridge with nextGeneration := first.bridge.nextGeneration + 1 },
          first.outside⟩ := by
  simp [freshGeneration]

end Program

end JavaInterop
