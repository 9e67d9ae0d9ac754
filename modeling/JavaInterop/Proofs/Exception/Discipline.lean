import JavaInterop.Environment.Env
import JavaInterop.Proofs.Interface.Pending
import JavaInterop.Proofs.Program.Fallible

/-!
# Discipline with pending exceptions

A piece of native code is disciplined if it leaves no exception pending, never calls a function that
must not be called while one is, and does not pass over an exception in silence.  What it may do
about an exception differs: an operation turns it into an error, while the inspection of a thrown
object may print and forget what it raises itself.  `Guards` has therefore two parameters, the
situations that the code can be started in and the results that count as an alarm.

The rules follow the way in which operations are put together.  Only the functions in `mayRaise` may
raise an exception, and nothing is assumed about the rest of the machine or about the bridge, which
may change during every call.
-/

namespace JavaInterop

variable [Host] {α β : Type}

/-- A call in which an exception was raised. -/
def Exchange.Raised (exchange : Exchange Bool) : Prop :=
  exchange.before.outside = false ∧ exchange.after.outside = true

/-- The law of pending exceptions for a single exchange, at moments that record whether an exception
is pending on the running thread. -/
def Exchange.KeepsPending (mayRaise : EnvFunction → Bool) (exchange : Exchange Bool) : Prop :=
  PendingLaw mayRaise exchange.before.outside exchange.after.outside exchange.request exchange.reply

/-- Nothing is pending in the end, and only safe calls were made while something was. -/
structure Settled (exchanges : List (Exchange Bool)) (last : Moment Bool) : Prop where
  clear : last.outside = false
  safe : ∀ exchange ∈ exchanges, exchange.before.outside = true →
    exchange.request.isSafeWhilePending = true

namespace Settled

variable {exchanges rest : List (Exchange Bool)} {middle last : Moment Bool}
  {exchange : Exchange Bool}

theorem nil (hclear : last.outside = false) : Settled [] last :=
  ⟨hclear, fun _ hmem ↦ absurd hmem List.not_mem_nil⟩

theorem cons (hsafe : exchange.before.outside = true → exchange.request.isSafeWhilePending = true)
    (hrest : Settled rest last) : Settled (exchange :: rest) last := by
  refine ⟨hrest.clear, ?_⟩
  intro other hmem
  rcases List.mem_cons.1 hmem with rfl | hmem
  · exact hsafe
  · exact hrest.safe other hmem

theorem append (hbegun : Settled exchanges middle) (hrest : Settled rest last) :
    Settled (exchanges ++ rest) last := by
  refine ⟨hrest.clear, ?_⟩
  intro other hmem
  rcases List.mem_append.1 hmem with hmem | hmem
  · exact hbegun.safe other hmem
  · exact hrest.safe other hmem

end Settled

/-- Some call raised an exception. -/
def Raises (exchanges : List (Exchange Bool)) : Prop := ∃ exchange ∈ exchanges, exchange.Raised

@[simp]
theorem not_raises_nil : ¬ Raises ([] : List (Exchange Bool)) := by
  rintro ⟨exchange, hmem, -⟩
  exact List.not_mem_nil hmem

theorem raises_cons {exchange : Exchange Bool} {rest : List (Exchange Bool)} :
    Raises (exchange :: rest) ↔ exchange.Raised ∨ Raises rest := by
  simp [Raises]

theorem raises_append {exchanges rest : List (Exchange Bool)} :
    Raises (exchanges ++ rest) ↔ Raises exchanges ∨ Raises rest := by
  simp only [Raises, List.mem_append, or_and_right, exists_or]

open Program (Ensures)

/-- Started as `start` allows, the program settles, and an exception that was pending at first or
was raised on the way ends in one of the results in `alarm`. -/
def Guards (mayRaise : EnvFunction → Bool) (start : Bool → Prop) (program : Program α)
    (alarm : α → Prop) : Prop :=
  ∀ thread (first : Moment Bool), start first.outside →
    Ensures (Exchange.KeepsPending mayRaise) thread program first fun exchanges result last ↦
      Settled exchanges last ∧ (first.outside = true ∨ Raises exchanges → alarm result)

/-- No exception is pending. -/
abbrev Clear (pending : Bool) : Prop := pending = false

/-- An exception may be pending. -/
abbrev Anyhow (_ : Bool) : Prop := True

/-- Started without a pending exception, the operation settles, and fails if a call raised one. -/
abbrev Disciplined (mayRaise : EnvFunction → Bool) (operation : Fallible α) : Prop :=
  Guards mayRaise Clear operation.run Failed

/-- In any situation the operation settles, and fails if an exception was pending or was raised. -/
abbrev Catches (mayRaise : EnvFunction → Bool) (operation : Fallible α) : Prop :=
  Guards mayRaise Anyhow operation.run Failed

/-- In any situation the program settles; it may keep exceptions to itself. -/
abbrev Contained (mayRaise : EnvFunction → Bool) (program : Program α) : Prop :=
  Guards mayRaise Anyhow program fun _ ↦ True

/-- Started without a pending exception, the program settles and raises none. -/
abbrev Peaceful (mayRaise : EnvFunction → Bool) (program : Program α) : Prop :=
  Guards mayRaise Clear program fun _ ↦ False

variable {mayRaise : EnvFunction → Bool}

namespace Guards

variable {start : Bool → Prop} {alarm : α → Prop}

theorem weaken {narrow : Bool → Prop} {program : Program α} {wider : α → Prop}
    (hguards : Guards mayRaise start program alarm) (hstart : ∀ pending, narrow pending →
      start pending) (halarm : ∀ result, alarm result → wider result) :
    Guards mayRaise narrow program wider := by
  intro thread first hnarrow
  refine (hguards thread first (hstart _ hnarrow)).weaken ?_
  rintro exchanges result last ⟨hsettled, hraised⟩
  exact ⟨hsettled, fun hcause ↦ halarm result (hraised hcause)⟩

theorem done {result : α} (hstart : ∀ pending, start pending → pending = false) :
    Guards mayRaise start (pure result) alarm := by
  intro thread first hfirst
  have hclear := hstart _ hfirst
  rw [Program.ensures_pure]
  refine ⟨.nil hclear, ?_⟩
  rintro (hpending | hraised)
  · rw [hclear] at hpending
    cases hpending
  · exact absurd hraised not_raises_nil

/-- One program after another.  An alarm of the first one has to be passed on by the second. -/
theorem bind {program : Program α} {next : α → Program β} {later : β → Prop}
    (hprogram : Guards mayRaise start program alarm)
    (hnext : ∀ value, Guards mayRaise Clear (next value) later)
    (hcarry : ∀ value, alarm value → Always (next value) later) :
    Guards mayRaise start (program >>= next) later := by
  intro thread first hfirst
  rw [Program.ensures_bind]
  refine (hprogram thread first hfirst).weaken ?_
  rintro begun value middle ⟨hbegun, hraised⟩
  have hrest := hnext value thread middle hbegun.clear
  by_cases hcause : first.outside = true ∨ Raises begun
  · have halarm := hcarry value (hraised hcause) Bool (Exchange.KeepsPending mayRaise) thread
      middle
    refine (hrest.and halarm).weaken ?_
    rintro rest result last ⟨⟨hsettled, -⟩, hlater⟩
    exact ⟨hbegun.append hsettled, fun _ ↦ hlater⟩
  · refine hrest.weaken ?_
    rintro rest result last ⟨hsettled, hlater⟩
    refine ⟨hbegun.append hsettled, ?_⟩
    rintro (hpending | hraises)
    · exact absurd (Or.inl hpending) hcause
    · rcases raises_append.1 hraises with hearly | hlate
      · exact absurd (Or.inr hearly) hcause
      · exact hlater (.inr hlate)

/-- A program whose alarms are of no interest, if the result is an alarm in any case. -/
theorem always {program : Program α} (hguards : Guards mayRaise start program fun _ ↦ True)
    (halways : Always program alarm) : Guards mayRaise start program alarm := by
  intro thread first hfirst
  have halarm := halways Bool (Exchange.KeepsPending mayRaise) thread first
  refine ((hguards thread first hfirst).and halarm).weaken ?_
  rintro exchanges result last ⟨⟨hsettled, -⟩, hresult⟩
  exact ⟨hsettled, fun _ ↦ hresult⟩

theorem map {program : Program α} {change : α → β} {later : β → Prop}
    (hprogram : Guards mayRaise start program fun result ↦ later (change result)) :
    Guards mayRaise start (change <$> program) later := by
  intro thread first hfirst
  rw [Program.ensures_map]
  exact hprogram thread first hfirst

theorem clear {program : Program α} (hguards : Guards mayRaise Anyhow program alarm) :
    Guards mayRaise Clear program alarm :=
  hguards.weaken (fun _ _ ↦ trivial) fun _ halarm ↦ halarm

/-- The program settles in any case. -/
theorem settles {program : Program α} (hguards : Guards mayRaise start program alarm) :
    Guards mayRaise start program fun _ ↦ True :=
  hguards.weaken (fun _ hstart ↦ hstart) fun _ _ ↦ trivial

end Guards

/-! ## Programs that raise nothing -/

namespace Peaceful

theorem bind {program : Program α} {next : α → Program β} {alarm : β → Prop}
    (hprogram : Peaceful mayRaise program)
    (hnext : ∀ value, Guards mayRaise Clear (next value) alarm) :
    Guards mayRaise Clear (program >>= next) alarm :=
  Guards.bind hprogram hnext fun _ hfalse ↦ hfalse.elim

theorem done (result : α) : Peaceful mayRaise (pure result) := Guards.done fun _ hclear ↦ hclear

theorem widen {program : Program α} {alarm : α → Prop} (hprogram : Peaceful mayRaise program) :
    Guards mayRaise Clear program alarm :=
  hprogram.weaken (fun _ hclear ↦ hclear) fun _ hfalse ↦ hfalse.elim

theorem look (view : Bridge → α) : Peaceful mayRaise (Program.look view) := by
  intro thread first hclear
  have hsettled : Settled [] first := .nil hclear
  simpa [hclear] using hsettled

theorem state : Peaceful mayRaise Program.state := look id

theorem current : Peaceful mayRaise Program.current := by
  intro thread first hclear
  have hsettled : Settled [] first := .nil hclear
  simpa [hclear] using hsettled

theorem update (change : Bridge → Bridge) : Peaceful mayRaise (Program.update change) := by
  intro thread first hclear
  have hsettled : Settled [] ⟨change first.bridge, first.outside⟩ := .nil hclear
  simpa [hclear] using hsettled

theorem warn (text : String) : Peaceful mayRaise (Program.warn text) := by
  intro thread first hclear
  have hsettled : Settled [] first := .nil hclear
  simpa [hclear] using hsettled

theorem complain (text : String) : Peaceful mayRaise (Program.complain text) := by
  intro thread first hclear
  have hsettled : Settled [] first := .nil hclear
  simpa [hclear] using hsettled

/-- What follows a failed operation is left out. -/
theorem andThen {operation : Fallible α} {next : α → Fallible β}
    (hoperation : Peaceful mayRaise operation.run)
    (hnext : ∀ value, Peaceful mayRaise (next value).run) :
    Peaceful mayRaise (operation >>= next).run := by
  rw [ExceptT.run_bind]
  refine hoperation.bind ?_
  rintro (error | value)
  · exact done (Except.error error)
  · exact hnext value

/-- A call that leaves the exceptions of the running thread alone. -/
theorem perform {request : Call} (hquiet : ∀ reply after,
    PendingLaw mayRaise false after request reply → after = false) :
    Peaceful mayRaise (Program.perform request) := by
  intro thread first hclear
  rw [Program.ensures_perform]
  intro reply after hlaw
  have hlaw' : PendingLaw mayRaise first.outside after.outside request reply := hlaw
  rw [hclear] at hlaw'
  have hafter := hquiet reply after.outside hlaw'
  constructor
  · refine Settled.cons ?_ (.nil hafter)
    intro hbefore
    exact absurd (hclear.symm.trans hbefore) Bool.false_ne_true
  · rintro (hpending | hraised)
    · exact absurd (hclear.symm.trans hpending) Bool.false_ne_true
    · rcases raises_cons.1 hraised with ⟨-, hraised⟩ | hraised
      · exact absurd (hafter.symm.trans hraised) Bool.false_ne_true
      · exact not_raises_nil hraised

end Peaceful

/-! ## Calls of functions that may raise -/

section Calls

variable {alarm : α → Prop} {env : Env}

/-- A function that may raise, called while nothing is pending.  If it fails, an exception may be
pending afterwards and has to be dealt with. -/
theorem guards_perform {function : EnvFunction} {next : function.Reply → Program α}
    (hsafe : function.isSafeWhilePending = false)
    (hfailed : ∀ reply, mayRaise function = true → function.Fails reply →
      Guards mayRaise Anyhow (next reply) alarm)
    (hnext : ∀ reply, Guards mayRaise Clear (next reply) alarm) :
    Guards mayRaise Clear (env.perform function >>= next) alarm := by
  intro thread first hclear
  rw [Program.ensures_bind, Env.perform, Program.ensures_perform]
  intro reply after hlaw
  have hbefore : first.outside = true → EnvFunction.isSafeWhilePending function = true := by
    intro hpending
    exact absurd (hclear.symm.trans hpending) Bool.false_ne_true
  cases hafter : after.outside with
  | false =>
    refine (hnext reply thread after hafter).weaken ?_
    rintro rest result last ⟨hsettled, hraised⟩
    refine ⟨.cons hbefore hsettled, ?_⟩
    rintro (hpending | hcause)
    · exact absurd (hclear.symm.trans hpending) Bool.false_ne_true
    · rcases raises_cons.1 hcause with ⟨-, hcause⟩ | hcause
      · exact absurd (hafter.symm.trans hcause) Bool.false_ne_true
      · exact hraised (.inr hcause)
  | true =>
    obtain ⟨hmay, hfails⟩ := PendingLaw.raised hlaw hclear hafter hsafe
    refine (hfailed reply hmay hfails thread after trivial).weaken ?_
    rintro rest result last ⟨hsettled, hraised⟩
    exact ⟨.cons hbefore hsettled, fun _ ↦ hraised (.inl hafter)⟩

/-- A safe function that leaves everything as it is: what follows starts in the same situation, of
which the answer may tell something. -/
theorem guards_safe {start : Bool → Prop} {function : EnvFunction}
    {next : function.Reply → Program α} (hsafe : function.isSafeWhilePending = true)
    (hsame : ∀ reply before after,
      PendingLaw mayRaise before after (.env env.pointer function) reply → after = before)
    (hnext : ∀ reply before, start before →
      PendingLaw mayRaise before before (.env env.pointer function) reply →
      Guards mayRaise (· = before) (next reply) alarm) :
    Guards mayRaise start (env.perform function >>= next) alarm := by
  intro thread first hstart
  rw [Program.ensures_bind, Env.perform, Program.ensures_perform]
  intro reply after hlaw
  have hafter : after.outside = first.outside := hsame reply _ _ hlaw
  have hlaw' : PendingLaw mayRaise first.outside after.outside (.env env.pointer function) reply :=
    hlaw
  rw [hafter] at hlaw'
  refine (hnext reply first.outside hstart hlaw' thread after hafter).weaken ?_
  rintro rest result last ⟨hsettled, hraised⟩
  refine ⟨.cons (fun _ ↦ hsafe) hsettled, ?_⟩
  rintro (hbefore | hcause)
  · exact hraised (.inl (hafter.trans hbefore))
  · rcases raises_cons.1 hcause with ⟨-, hcause⟩ | hcause
    · exact hraised (.inl hcause)
    · exact hraised (.inr hcause)

/-- Asking whether an exception is pending tells the two situations apart. -/
theorem guards_check {next : Bool → Program α}
    (hpending : Guards mayRaise (· = true) (next true) alarm)
    (hclear : Guards mayRaise Clear (next false) alarm) :
    Guards mayRaise Anyhow (env.perform .exceptionCheck >>= next) alarm := by
  refine guards_safe rfl (fun _ _ _ hlaw ↦ hlaw.2) ?_
  rintro reply before - ⟨hreply, -⟩
  subst hreply
  cases reply with
  | true => exact hpending
  | false => exact hclear

/-- So does asking for the exception. -/
theorem guards_occurred {next : Option Handle → Program α}
    (hpending : ∀ throwable, Guards mayRaise (· = true) (next (some throwable)) alarm)
    (hclear : Guards mayRaise Clear (next none) alarm) :
    Guards mayRaise Anyhow (env.perform .exceptionOccurred >>= next) alarm := by
  refine guards_safe rfl (fun _ _ _ hlaw ↦ hlaw.2) ?_
  rintro reply before - ⟨hreply, -⟩
  subst hreply
  cases reply with
  | some throwable => exact hpending throwable
  | none => exact hclear

/-- Once the exception is cleared, what follows starts afresh; but it has to end in an alarm. -/
theorem guards_clear {start : Bool → Prop} {next : Unit → Program α}
    (hnext : Guards mayRaise Clear (next ()) fun _ ↦ True) (halarm : Always (next ()) alarm) :
    Guards mayRaise start (env.perform .exceptionClear >>= next) alarm := by
  intro thread first _
  rw [Program.ensures_bind, Env.perform, Program.ensures_perform]
  intro reply after hafter
  refine ((hnext thread after hafter).and (halarm _ _ thread after)).weaken ?_
  rintro rest result last ⟨⟨hsettled, -⟩, hresult⟩
  exact ⟨.cons (fun _ ↦ rfl) hsettled, fun _ ↦ hresult⟩

/-- Printing the exception may or may not clear it. -/
theorem guards_describe {start : Bool → Prop} {next : Unit → Program α}
    (hnext : Contained mayRaise (next ())) :
    Guards mayRaise start (env.perform .exceptionDescribe >>= next) fun _ ↦ True := by
  intro thread first _
  rw [Program.ensures_bind, Env.perform, Program.ensures_perform]
  intro reply after _
  refine (hnext thread after trivial).weaken ?_
  rintro rest result last ⟨hsettled, -⟩
  exact ⟨.cons (fun _ ↦ rfl) hsettled, fun _ ↦ trivial⟩

end Calls

/-! ## Operations that may fail -/

namespace Disciplined

variable {operation : Fallible α} {next : α → Fallible β}

theorem done (value : α) : Disciplined mayRaise (pure value : Fallible α) := by
  rw [Disciplined, ExceptT.run_pure]
  exact (Peaceful.done _).widen

theorem throw (error : Error) : Disciplined mayRaise (throw error : Fallible α) := by
  rw [Disciplined, ExceptT.run_throw]
  exact (Peaceful.done _).widen

theorem lift {program : Program α} (hprogram : Peaceful mayRaise program) :
    Disciplined mayRaise (liftM program : Fallible α) :=
  Guards.map hprogram.widen

theorem mapResult {change : α → β} (hoperation : Disciplined mayRaise operation) :
    Disciplined mayRaise (change <$> operation) := by
  rw [Disciplined, ExceptT.run_map]
  refine Guards.map (hoperation.weaken (fun _ hclear ↦ hclear) ?_)
  rintro _ ⟨error, rfl⟩
  exact failed_error error

theorem ofExcept (result : Except Error α) :
    Disciplined mayRaise (ExceptT.mk (pure result) : Fallible α) :=
  (Peaceful.done result).widen

theorem nonNull (reference : Option α) (place : String) :
    Disciplined mayRaise (Fallible.nonNull reference place) := by
  cases reference with
  | some present => exact done present
  | none => exact throw _

theorem ofStatus (status : Except Status α) (error : Status → Error) :
    Disciplined mayRaise (Fallible.ofStatus status error) := by
  cases status with
  | ok value => exact done value
  | error code => exact throw _

theorem ended (text : String) : Disciplined mayRaise (Fallible.ended text) := by
  unfold Fallible.ended
  cases Text.CString.ofText text with
  | ok bytes => exact done bytes
  | error position => exact throw _

end Disciplined

namespace Guards

variable {start : Bool → Prop} {operation : Fallible α}

/-- What follows a failed operation is left out. -/
theorem andThen {next : α → Fallible β} (hoperation : Guards mayRaise start operation.run Failed)
    (hnext : ∀ value, Disciplined mayRaise (next value)) :
    Guards mayRaise start (operation >>= next).run Failed := by
  rw [ExceptT.run_bind]
  refine hoperation.bind ?_ ?_
  · rintro (error | value)
    · exact (Peaceful.done _).widen
    · exact hnext value
  · rintro _ ⟨error, rfl⟩
    exact Always.done (failed_error error)

/-- A release at the end of a scope raises nothing. -/
theorem thenAlways {release : Program Unit}
    (hoperation : Guards mayRaise start operation.run Failed)
    (hrelease : Peaceful mayRaise release) :
    Guards mayRaise start (operation.thenAlways release).run Failed := by
  refine Guards.bind hoperation ?_ ?_
  · intro result
    exact hrelease.bind fun _ ↦ (Peaceful.done _).widen
  · intro result hfailed
    exact Always.bind fun _ ↦ Always.done hfailed

/-- An error may be replaced, as long as that raises nothing. -/
theorem mapFailure {change : Error → Program Error}
    (hoperation : Guards mayRaise start operation.run Failed)
    (hchange : ∀ error, Peaceful mayRaise (change error)) :
    Guards mayRaise start (operation.mapFailure change).run Failed := by
  refine Guards.bind hoperation ?_ ?_
  · rintro (error | value)
    · exact Guards.map (hchange error).widen
    · exact (Peaceful.done _).widen
  · rintro _ ⟨error, rfl⟩
    exact Always.map fun changed ↦ failed_error changed

end Guards

end JavaInterop
