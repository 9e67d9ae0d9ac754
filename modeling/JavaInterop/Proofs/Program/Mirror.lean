import JavaInterop.Proofs.Program.Fallible

/-!
# Programs that cannot be told apart

Two programs, each started at a moment of its own, cannot be told apart from outside if every run of
one is matched by a run of the other in which the same calls get the same answers.  A relation
between what they end with goes along, so that whatever follows can be compared as well.  Both runs
keep the same law.

The rules take both programs apart in step.
-/

namespace JavaInterop

variable [Host] {ω α β γ δ : Type}

/-- What was asked in a call, and what was answered. -/
def Exchange.talk (exchange : Exchange ω) : (request : Call) × request.Reply :=
  ⟨exchange.request, exchange.reply⟩

namespace Program

/-- Every lawful run of a program is matched by one of another program, with the same talk and a
related end. -/
def Mirrors (law : Exchange ω → Prop) (thread : NativeThread) (program : Program α)
    (first : Moment ω) (other : Program β) (start : Moment ω)
    (post : α → Moment ω → β → Moment ω → Prop) : Prop :=
  Ensures law thread program first fun exchanges result last ↦
    ∃ echoes answer finish, other.Run thread start echoes answer finish ∧
      (∀ echo ∈ echoes, law echo) ∧ echoes.map Exchange.talk = exchanges.map Exchange.talk ∧
      post result last answer finish

variable {law : Exchange ω → Prop} {thread : NativeThread} {first start : Moment ω}

theorem mirrors_pure {result : α} {answer : β} {post : α → Moment ω → β → Moment ω → Prop}
    (hpost : post result first answer start) :
    Mirrors law thread (pure result) first (pure answer) start post :=
  ensures_pure.2 ⟨[], answer, start, .done answer start, by simp, rfl, hpost⟩

theorem mirrors_bind {program : Program α} {other : Program β} {next : α → Program γ}
    {resume : β → Program δ} {middle : α → Moment ω → β → Moment ω → Prop}
    {post : γ → Moment ω → δ → Moment ω → Prop}
    (hprogram : Mirrors law thread program first other start middle)
    (hnext : ∀ value reached answer halted, middle value reached answer halted →
      Mirrors law thread (next value) reached (resume answer) halted post) :
    Mirrors law thread (program >>= next) first (other >>= resume) start post := by
  refine ensures_bind.2 (Ensures.weaken hprogram ?_)
  rintro begun value reached ⟨echoes, answer, halted, hrun, hlaw, htalk, hmiddle⟩
  refine Ensures.weaken (hnext value reached answer halted hmiddle) ?_
  rintro rest result last ⟨further, final, finish, hrest, hlawful, htalking, hpost⟩
  refine ⟨echoes ++ further, final, finish, hrun.bind hrest, ?_, ?_, hpost⟩
  · intro echo hmem
    rcases List.mem_append.1 hmem with hmem | hmem
    · exact hlaw echo hmem
    · exact hlawful echo hmem
  · rw [List.map_append, List.map_append, htalk, htalking]

/-- The same call can be answered in the same way. -/
theorem mirrors_perform {request : Call}
    {post : request.Reply → Moment ω → request.Reply → Moment ω → Prop}
    (hcall : ∀ reply after, law ⟨thread, request, reply, first, after⟩ → ∃ finish,
      law ⟨thread, request, reply, start, finish⟩ ∧ post reply after reply finish) :
    Mirrors law thread (perform request) first (perform request) start post := by
  refine ensures_perform.2 fun reply after hlaw ↦ ?_
  obtain ⟨finish, hlawful, hpost⟩ := hcall reply after hlaw
  exact ⟨_, reply, finish, .call reply finish (.done reply finish), by simpa using hlawful, rfl,
    hpost⟩

theorem mirrors_look {view : Bridge → α} {glance : Bridge → β}
    {post : α → Moment ω → β → Moment ω → Prop}
    (hpost : post (view first.bridge) first (glance start.bridge) start) :
    Mirrors law thread (look view) first (look glance) start post :=
  ensures_look.2 ⟨[], _, start, .read (.done _ start), by simp, rfl, hpost⟩

theorem mirrors_update {change adjust : Bridge → Bridge}
    {post : Unit → Moment ω → Unit → Moment ω → Prop}
    (hpost : post () ⟨change first.bridge, first.outside⟩ ()
      ⟨adjust start.bridge, start.outside⟩) :
    Mirrors law thread (update change) first (update adjust) start post :=
  ensures_update.2 ⟨[], (), _, .read (.write (.done () _)), by simp, rfl, hpost⟩

theorem mirrors_current {post : NativeThread → Moment ω → NativeThread → Moment ω → Prop}
    (hpost : post thread first thread start) :
    Mirrors law thread current first current start post :=
  ensures_current.2 ⟨[], thread, start, .thread (.done thread start), by simp, rfl, hpost⟩

theorem mirrors_complain {text : String} {post : Unit → Moment ω → Unit → Moment ω → Prop}
    (hpost : post () first () start) :
    Mirrors law thread (complain text) first (complain text) start post :=
  ensures_complain.2 ⟨[], (), start, .notify (.done () start), by simp, rfl, hpost⟩

theorem mirrors_freshGeneration {post : Nat → Moment ω → Nat → Moment ω → Prop}
    (hpost : post first.bridge.nextGeneration
      ⟨{ first.bridge with nextGeneration := first.bridge.nextGeneration + 1 }, first.outside⟩
      start.bridge.nextGeneration
      ⟨{ start.bridge with nextGeneration := start.bridge.nextGeneration + 1 }, start.outside⟩) :
    Mirrors law thread freshGeneration first freshGeneration start post :=
  ensures_freshGeneration.2 ⟨[], _, _, .read (.write (.done _ _)), by simp, rfl, hpost⟩

end Program

/-! ## Programs that may fail -/

/-- Two programs that may fail end in the same way: both with the same error, or both with values
that are related, and in either case at moments that are alike. -/
inductive Agrees (alike : Moment ω → Moment ω → Prop) (related : α → β → Prop) :
    Except Error α → Moment ω → Except Error β → Moment ω → Prop
  | ok {value : α} {answer : β} {last finish : Moment ω} (hrelated : related value answer)
      (halike : alike last finish) : Agrees alike related (.ok value) last (.ok answer) finish
  | error {error : Error} {last finish : Moment ω} (halike : alike last finish) :
      Agrees alike related (.error error) last (.error error) finish

namespace Fallible

open Program (Mirrors mirrors_bind)

variable {law : Exchange ω → Prop} {thread : NativeThread} {first start : Moment ω}
  {alike : Moment ω → Moment ω → Prop}

theorem mirrors_pure {value : α} {answer : β} {related : α → β → Prop}
    (hrelated : related value answer) (halike : alike first start) :
    Mirrors law thread (pure value : Fallible α).run first (pure answer : Fallible β).run start
      (Agrees alike related) :=
  Program.mirrors_pure (.ok hrelated halike)

theorem mirrors_throw {error : Error} {related : α → β → Prop} (halike : alike first start) :
    Mirrors law thread (throw error : Fallible α).run first (throw error : Fallible β).run start
      (Agrees alike related) :=
  Program.mirrors_pure (.error halike)

theorem mirrors_liftThen {program : Program α} {other : Program β} {next : α → Fallible γ}
    {resume : β → Fallible δ} {middle : α → Moment ω → β → Moment ω → Prop}
    {post : Except Error γ → Moment ω → Except Error δ → Moment ω → Prop}
    (hprogram : Mirrors law thread program first other start middle)
    (hnext : ∀ value reached answer halted, middle value reached answer halted →
      Mirrors law thread (next value).run reached (resume answer).run halted post) :
    Mirrors law thread (liftM program >>= next : Fallible γ).run first
      (liftM other >>= resume : Fallible δ).run start post := by
  rw [run_lift_bind, run_lift_bind]
  exact mirrors_bind hprogram hnext

theorem mirrors_lift {program : Program α} {other : Program β} {related : α → β → Prop}
    (hprogram : Mirrors law thread program first other start fun value last answer finish ↦
      related value answer ∧ alike last finish) :
    Mirrors law thread (liftM program : Fallible α).run first (liftM other : Fallible β).run start
      (Agrees alike related) := by
  rw [← bind_pure (liftM program : Fallible α), ← bind_pure (liftM other : Fallible β)]
  refine mirrors_liftThen hprogram ?_
  rintro value reached answer halted ⟨hrelated, halike⟩
  exact mirrors_pure hrelated halike

/-- What comes after two programs need only be compared if both have succeeded. -/
theorem mirrors_fallible {body : Fallible α} {other : Fallible β} {next : α → Fallible γ}
    {resume : β → Fallible δ} {related : α → β → Prop} {relating : γ → δ → Prop}
    (hbody : Mirrors law thread body.run first other.run start (Agrees alike related))
    (hnext : ∀ value reached answer halted, related value answer → alike reached halted →
      Mirrors law thread (next value).run reached (resume answer).run halted
        (Agrees alike relating)) :
    Mirrors law thread (body >>= next).run first (other >>= resume).run start
      (Agrees alike relating) := by
  rw [ExceptT.run_bind, ExceptT.run_bind]
  refine mirrors_bind hbody ?_
  rintro _ reached _ halted (⟨hrelated, halike⟩ | ⟨halike⟩)
  · exact hnext _ _ _ _ hrelated halike
  · exact Program.mirrors_pure (.error halike)

theorem mirrors_mapFailure {body : Fallible α} {other : Fallible β}
    {change : Error → Program Error} {related : α → β → Prop}
    (hbody : Mirrors law thread body.run first other.run start (Agrees alike related))
    (hchange : ∀ error reached halted, alike reached halted →
      Mirrors law thread (change error) reached (change error) halted
        fun changed last replaced finish ↦ changed = replaced ∧ alike last finish) :
    Mirrors law thread (body.mapFailure change).run first (other.mapFailure change).run start
      (Agrees alike related) := by
  unfold mapFailure
  rw [ExceptT.run_mk, ExceptT.run_mk]
  refine mirrors_bind hbody ?_
  rintro _ reached _ halted (⟨hrelated, halike⟩ | ⟨halike⟩)
  · exact Program.mirrors_pure (.ok hrelated halike)
  · dsimp only
    rw [map_eq_pure_bind, map_eq_pure_bind]
    refine mirrors_bind (hchange _ reached halted halike) ?_
    rintro changed last _ finish ⟨rfl, halike⟩
    exact Program.mirrors_pure (.error halike)

end Fallible

end JavaInterop
