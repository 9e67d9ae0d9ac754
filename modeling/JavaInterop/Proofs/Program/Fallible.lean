import JavaInterop.Proofs.Program.Run

/-!
# Runs of programs that may fail

A program that may fail ends with a value or an error, and what comes after it in a sequence is run
only in the first case.  The rules below carry `Program.Ensures` over to sequences of such programs
and to the two ways of going on after a failure: releasing something at the end of a scope, and
replacing the error by another one.
-/

namespace JavaInterop

variable {ω α β : Type}

/-- An operation that ended with an error. -/
def Failed (result : Except Error α) : Prop := ∃ error, result = .error error

@[simp]
theorem failed_error (error : Error) : Failed (.error error : Except Error α) := ⟨error, rfl⟩

variable [Host] {law : Exchange ω → Prop} {thread : NativeThread} {first : Moment ω}

namespace Fallible

open Program (Ensures)

/-- What follows a program that cannot fail sees its result. -/
theorem run_lift_bind (program : Program α) (next : α → Fallible β) :
    (liftM program >>= next : Fallible β).run = program >>= fun value ↦ (next value).run := by
  rw [ExceptT.run_bind]
  change (Except.ok <$> program) >>= _ = _
  rw [bind_map_left]

/-- What follows a failure is left out. -/
@[simp]
theorem run_throw_bind (error : Error) (next : α → Fallible β) :
    (throw error >>= next : Fallible β).run = pure (.error error) := by
  rw [ExceptT.run_bind, ExceptT.run_throw, pure_bind]

/-- A sequence of operations with a state, started in a given state. -/
theorem run_stateful_bind {σ : Type} (body : ExceptT Error (StateT σ Program) α)
    (next : α → ExceptT Error (StateT σ Program) β) (current : σ) :
    (body >>= next).run.run current = (do
      let answer ← body.run.run current
      match answer with
      | (.ok value, rest) => (next value).run.run rest
      | (.error error, rest) => pure (.error error, rest)) := by
  rw [ExceptT.run_bind, StateT.run_bind]
  refine congrArg _ ?_
  funext answer
  rcases answer with ⟨error | value, rest⟩
  · rfl
  · rfl

variable {post : List (Exchange ω) → Except Error α → Moment ω → Prop}

/-- What a sequence does after its first part. -/
def Continues (law : Exchange ω → Prop) (thread : NativeThread) (next : α → Fallible β)
    (post : List (Exchange ω) → Except Error β → Moment ω → Prop)
    (exchanges : List (Exchange ω)) (result : Except Error α) (middle : Moment ω) : Prop :=
  match result with
  | .ok value => Ensures law thread (next value).run middle fun rest ↦ post (exchanges ++ rest)
  | .error error => post exchanges (.error error) middle

@[simp]
theorem continues_ok {next : α → Fallible β}
    {post : List (Exchange ω) → Except Error β → Moment ω → Prop}
    {exchanges : List (Exchange ω)} {value : α} {middle : Moment ω} :
    Continues law thread next post exchanges (.ok value) middle ↔
      Ensures law thread (next value).run middle fun rest ↦ post (exchanges ++ rest) :=
  Iff.rfl

@[simp]
theorem continues_error {next : α → Fallible β}
    {post : List (Exchange ω) → Except Error β → Moment ω → Prop}
    {exchanges : List (Exchange ω)} {error : Error} {middle : Moment ω} :
    Continues law thread next post exchanges (.error error) middle ↔
      post exchanges (.error error) middle :=
  Iff.rfl

theorem ensures_bind {body : Fallible α} {next : α → Fallible β}
    {post : List (Exchange ω) → Except Error β → Moment ω → Prop} :
    Ensures law thread (body >>= next).run first post ↔
      Ensures law thread body.run first (Continues law thread next post) := by
  rw [ExceptT.run_bind, Program.ensures_bind]
  refine iff_of_eq (congrArg _ ?_)
  funext exchanges result middle
  cases result with
  | ok value => simp
  | error error => simp

@[simp]
theorem ensures_pure {value : α} :
    Ensures law thread (pure value : Fallible α).run first post ↔ post [] (.ok value) first := by
  rw [ExceptT.run_pure, Program.ensures_pure]

@[simp]
theorem ensures_throw {error : Error} :
    Ensures law thread (throw error : Fallible α).run first post ↔
      post [] (.error error) first := by
  rw [ExceptT.run_throw, Program.ensures_pure]

@[simp]
theorem ensures_lift {program : Program α} :
    Ensures law thread (liftM program : Fallible α).run first post ↔
      Ensures law thread program first fun exchanges value last ↦
        post exchanges (.ok value) last := by
  change Ensures law thread (Except.ok <$> program) first post ↔ _
  exact Program.ensures_map

theorem ensures_liftThen {program : Program α} {next : α → Fallible β}
    {post : List (Exchange ω) → Except Error β → Moment ω → Prop} :
    Ensures law thread (liftM program >>= next : Fallible β).run first post ↔
      Ensures law thread program first fun begun value middle ↦
        Ensures law thread (next value).run middle fun rest ↦ post (begun ++ rest) := by
  rw [run_lift_bind, Program.ensures_bind]

@[simp]
theorem ensures_map {body : Fallible α} {change : α → β}
    {post : List (Exchange ω) → Except Error β → Moment ω → Prop} :
    Ensures law thread (change <$> body).run first post ↔
      Ensures law thread body.run first fun exchanges result last ↦
        post exchanges (change <$> result) last := by
  rw [ExceptT.run_map, Program.ensures_map]
  rfl

theorem ensures_nonNull {reference : Option α} {place : String} :
    Ensures law thread (nonNull reference place).run first post ↔
      post [] (reference.elim (.error (.nullPointer place)) .ok) first := by
  cases reference with
  | none => exact ensures_throw
  | some present => exact ensures_pure

theorem ensures_thenAlways {body : Fallible α} {release : Program Unit} :
    Ensures law thread (body.thenAlways release).run first post ↔
      Ensures law thread body.run first fun exchanges result middle ↦
        Ensures law thread release middle fun rest _ last ↦
          post (exchanges ++ rest) result last := by
  unfold thenAlways
  rw [ExceptT.run_mk, Program.ensures_bind]
  refine iff_of_eq (congrArg _ ?_)
  funext exchanges result middle
  simp [Program.ensures_map]

theorem ensures_mapFailure {body : Fallible α} {change : Error → Program Error} :
    Ensures law thread (body.mapFailure change).run first post ↔
      Ensures law thread body.run first fun exchanges result middle ↦
        match result with
        | .ok value => post exchanges (.ok value) middle
        | .error error => Ensures law thread (change error) middle fun rest changed last ↦
            post (exchanges ++ rest) (.error changed) last := by
  unfold mapFailure
  rw [ExceptT.run_mk, Program.ensures_bind]
  refine iff_of_eq (congrArg _ ?_)
  funext exchanges result middle
  cases result with
  | ok value => simp
  | error error => simp [Program.ensures_map]

/-! ## Results of successful runs -/

/-- Whenever the program succeeds, its exchanges, its value and its last moment are like this. -/
def Yields (law : Exchange ω → Prop) (thread : NativeThread) (body : Fallible α)
    (first : Moment ω) (good : List (Exchange ω) → α → Moment ω → Prop) : Prop :=
  Ensures law thread body.run first fun exchanges result last ↦
    ∀ value, result = .ok value → good exchanges value last

namespace Yields

variable {good : List (Exchange ω) → α → Moment ω → Prop}

theorem done {value : α} (hgood : good [] value first) :
    Yields law thread (pure value) first good := by
  refine ensures_pure.2 ?_
  rintro _ ⟨⟩
  exact hgood

theorem throw {error : Error} : Yields law thread (throw error) first good :=
  ensures_throw.2 nofun

theorem throwThen {error : Error} {next : β → Fallible α} :
    Yields law thread (MonadExcept.throw error >>= next) first good := by
  rw [Yields, run_throw_bind, Program.ensures_pure]
  nofun

theorem lift {program : Program α} (hprogram : Ensures law thread program first good) :
    Yields law thread (liftM program) first good := by
  refine ensures_lift.2 (hprogram.weaken ?_)
  rintro exchanges value last hgood _ ⟨⟩
  exact hgood

/-- If a sequence succeeds, its first part does and so does the rest. -/
theorem bind {body : Fallible α} {next : α → Fallible β}
    {post : List (Exchange ω) → β → Moment ω → Prop} (hbody : Yields law thread body first good)
    (hnext : ∀ begun value middle, good begun value middle →
      Yields law thread (next value) middle fun rest ↦ post (begun ++ rest)) :
    Yields law thread (body >>= next) first post := by
  refine ensures_bind.2 (hbody.weaken ?_)
  rintro begun (error | value) middle hgood
  · exact nofun
  · exact hnext begun value middle (hgood value rfl)

/-- A part that nothing depends on. -/
theorem skip {body : Fallible α} {next : α → Fallible β}
    {post : List (Exchange ω) → β → Moment ω → Prop}
    (hnext : ∀ begun value middle,
      Yields law thread (next value) middle fun rest ↦ post (begun ++ rest)) :
    Yields law thread (body >>= next) first post := by
  refine ensures_bind.2 ?_
  rintro begun (error | value) middle - -
  · exact nofun
  · exact hnext begun value middle

theorem nonNullThen {reference : Option β} {place : String} {next : β → Fallible α}
    (hnext : ∀ present, reference = some present → Yields law thread (next present) first good) :
    Yields law thread (nonNull reference place >>= next) first good := by
  cases reference with
  | none => exact throwThen
  | some present =>
    rw [nonNull, pure_bind]
    exact hnext present rfl

theorem mapFailure {body : Fallible α} {change : Error → Program Error}
    (hbody : Yields law thread body first good) :
    Yields law thread (body.mapFailure change) first good := by
  refine ensures_mapFailure.2 (hbody.weaken ?_)
  rintro exchanges (error | value) middle hgood
  · rintro _ _ _ _ _ _ ⟨⟩
  · exact hgood

theorem thenAlways {body : Fallible α} {release : Program Unit}
    (hbody : Yields law thread body first fun begun value _ ↦
      ∀ rest last, good (begun ++ rest) value last) :
    Yields law thread (body.thenAlways release) first good := by
  refine ensures_thenAlways.2 (hbody.weaken ?_)
  intro begun result middle hgood rest _ last _ _ value hvalue
  exact hgood value hvalue rest last

end Yields

end Fallible

/-! ## Results that are certain -/

/-- However the program is run, its result is one of these. -/
def Always (program : Program α) (wanted : α → Prop) : Prop :=
  ∀ (ω : Type) (law : Exchange ω → Prop) thread first,
    Program.Ensures law thread program first fun _ result _ ↦ wanted result

namespace Always

variable {wanted : α → Prop}

theorem done {result : α} (hresult : wanted result) : Always (pure result) wanted := by
  intro ω law thread first
  exact Program.ensures_pure.2 hresult

theorem bind {program : Program α} {next : α → Program β} {wanted : β → Prop}
    (hnext : ∀ value, Always (next value) wanted) : Always (program >>= next) wanted := by
  intro ω law thread first
  rw [Program.ensures_bind]
  intro begun value middle _ _
  exact (hnext value ω law thread middle).weaken fun _ _ _ hresult ↦ hresult

theorem after {program : Program α} {next : α → Program β} {later : β → Prop}
    (hprogram : Always program wanted) (hnext : ∀ value, wanted value → Always (next value) later) :
    Always (program >>= next) later := by
  intro ω law thread first
  rw [Program.ensures_bind]
  refine (hprogram ω law thread first).weaken ?_
  intro begun value middle hvalue
  exact (hnext value hvalue ω law thread middle).weaken fun _ _ _ hresult ↦ hresult

theorem map {program : Program α} {change : α → β} {wanted : β → Prop}
    (hchange : ∀ value, wanted (change value)) : Always (change <$> program) wanted := by
  intro ω law thread first
  rw [Program.ensures_map]
  intro exchanges value last _ _
  exact hchange value

theorem trivial {program : Program α} : Always program fun _ ↦ True := by
  intro ω law thread first exchanges result last _ _
  exact True.intro

theorem weaken {program : Program α} {weaker : α → Prop} (halways : Always program wanted)
    (himplies : ∀ result, wanted result → weaker result) : Always program weaker := by
  intro ω law thread first
  exact (halways ω law thread first).weaken fun _ result _ hresult ↦ himplies result hresult

theorem throw {error : Error} : Always (throw error : Fallible α).run Failed := by
  rw [ExceptT.run_throw]
  exact done (failed_error error)

/-- An operation that ends with a failing one fails. -/
theorem andThen {operation : Fallible α} {next : α → Fallible β}
    (hnext : ∀ value, Always (next value).run Failed) :
    Always (operation >>= next).run Failed := by
  rw [ExceptT.run_bind]
  refine bind ?_
  rintro (error | value)
  · exact done (failed_error error)
  · exact hnext value

/-- A release at the end of a scope does not change the result. -/
theorem thenAlways {operation : Fallible α} {release : Program Unit}
    {wanted : Except Error α → Prop} (hoperation : Always operation.run wanted) :
    Always (operation.thenAlways release).run wanted :=
  hoperation.after fun _ hwanted ↦ bind fun _ ↦ done hwanted

/-- What follows a program that cannot fail decides the result. -/
theorem lift {program : Program α} {next : α → Fallible β} {wanted : Except Error β → Prop}
    (hnext : ∀ value, Always (next value).run wanted) :
    Always (liftM program >>= next : Fallible β).run wanted := by
  rw [Fallible.run_lift_bind]
  exact bind hnext

end Always

end JavaInterop
