import JavaInterop.Proofs.Callback.Tables

/-!
# Dealing with builders

Code deals with a builder in three ways: it makes one, registers a callback with it, or drops it.
Each of them makes calls into a machine, during which other code deals with builders too, and each
of them changes the tables of callbacks at one place of its program only.

What a dealing comes to is proved under the least that can be said about others: during its calls
the bridge may change in any way, except that nobody else touches the table of the builder that is
being dealt with.  This is what exclusive access to a builder means, and it is all that registering
a callback needs: the index that is told to Java is read before Java is called, and the callback is
stored after that.
-/

namespace JavaInterop

variable [Host] {α β : Type}

/-- What code may do with builders. -/
inductive Dealing where
  | make (env : Env) (interface : String)
  | register (builder : Builder) (env : Env) (name : String) (callback : Host.Callback)
  | drop (builder : Builder)

/-- The call that tells Java the number of a table and the index of a callback in it. -/
def Builder.announcement (builder : Builder) (pointer : EnvPointer) (receiver : Handle)
    (name : Option Handle) (index : Nat) : Call :=
  .env pointer (.callVoid receiver builder.registerMethod [.reference name,
    .scalar (.long (Int64.ofNat builder.table)), .scalar (.int (Int32.ofNat index))])

/-- How many callbacks the table with the given number has. -/
def Bridge.tableSize (bridge : Bridge) (number : Nat) : Nat :=
  ((bridge.tables.find? number).map (·.callbacks.size)).getD 0

namespace Dealing

/-- What a dealing ends with. -/
abbrev Result : Dealing → Type
  | make _ _ => Except Error Builder
  | register _ _ _ _ => Except Error Unit
  | drop _ => Unit

/-- The program that a dealing runs. -/
def program : (dealing : Dealing) → Program dealing.Result
  | make env interface => (Builder.new env interface).run
  | register builder env name callback => (builder.register env name callback).run
  | drop builder => builder.drop

/-- The builder that is being dealt with. -/
def builder? : Dealing → Option Builder
  | make _ _ => none
  | register builder _ _ _ => some builder
  | drop builder => some builder

/-- What the effect of a dealing is known by: the number of the table that is made or dropped, or
the index of the callback that is registered. -/
def number (dealing : Dealing) (bridge : Bridge) : Nat :=
  match dealing with
  | make _ _ => bridge.nextTable
  | register builder _ _ _ => bridge.tableSize builder.table
  | drop builder => builder.table

/-- The effect of a dealing on the tables. -/
def Effects (dealing : Dealing) (before after : Bridge) : Prop :=
  match dealing with
  | make env _ =>
    after.tables = before.tables.insert before.nextTable ⟨env.lifecycle, #[]⟩ ∧
      after.nextTable = before.nextTable + 1
  | register builder _ _ callback =>
    ∃ table, before.tables.find? builder.table = some table ∧
      after.tables = before.tables.insert builder.table
        { table with callbacks := table.callbacks.push callback } ∧
      after.nextTable = before.nextTable
  | drop builder =>
    (∃ table, before.tables.find? builder.table = some table) ∧
      after.tables = before.tables.erase builder.table ∧ after.nextTable = before.nextTable

/-- What is known when a dealing has ended: which calls it made, and by what its effect is known if
it had one. -/
def Ends : (dealing : Dealing) → List Call → Option Nat → dealing.Result → Prop
  | make _ _, _, effect, result => effect = result.toOption.map Builder.table
  | register builder _ _ _, calls, effect, result =>
    match result with
    | .error _ => effect = none
    | .ok _ => ∃ index pointer receiver name, effect = some index ∧
        builder.invocation.raw = some receiver ∧
        builder.announcement pointer receiver name index ∈ calls
  | drop builder, _, effect, _ => effect = some builder.table

/-- Nobody has touched the table of the builder that is being dealt with. -/
def Spared (dealing : Dealing) (before after : Bridge) : Prop :=
  ∀ builder, dealing.builder? = some builder →
    after.tables.find? builder.table = before.tables.find? builder.table

variable {dealing : Dealing} {before after first middle last : Bridge}

theorem Spared.refl (bridge : Bridge) : dealing.Spared bridge bridge := fun _ _ ↦ rfl

theorem Spared.trans (hfirst : dealing.Spared first middle) (hlast : dealing.Spared middle last) :
    dealing.Spared first last :=
  fun builder hbuilder ↦ (hlast builder hbuilder).trans (hfirst builder hbuilder)

theorem spared_of_same (hsame : before.SameTables after) : dealing.Spared before after := by
  intro builder _
  rw [hsame.tables]

/-- Only the tables and the next number matter to an effect. -/
theorem Effects.of_same (hfirst : first.SameTables before) (heffects : dealing.Effects before after)
    (hlast : after.SameTables last) : dealing.Effects first last := by
  obtain ⟨htables, hnext⟩ := hfirst
  obtain ⟨htables', hnext'⟩ := hlast
  unfold Effects at *
  rw [htables', hnext', ← htables, ← hnext]
  exact heffects

end Dealing

/-! ## What a program attains -/

namespace Program

/-- The program has the effect of the dealing at most once, makes no other change of the tables, and
ends as `post` says.  It has made the given calls, has had the given effect and finds the given
bridge; during its calls others may do anything but touch the table that is being dealt with. -/
def Attains (dealing : Dealing) (post : List Call → Option Nat → Bridge → α → Prop) :
    Program α → List Call → Option Nat → Bridge → Prop
  | .done result, calls, effect, bridge => post calls effect bridge result
  | .call request next, calls, effect, bridge => ∀ reply after, dealing.Spared bridge after →
      (next reply).Attains dealing post (calls ++ [request]) effect after
  | .read next, calls, effect, bridge => (next bridge).Attains dealing post calls effect bridge
  | .write changed next, calls, effect, bridge =>
      bridge.SameTables changed ∧ next.Attains dealing post calls effect changed ∨
        effect = none ∧ dealing.Effects bridge changed ∧
          next.Attains dealing post calls (some (dealing.number bridge)) changed
  | .thread next, calls, effect, bridge =>
      ∀ running, (next running).Attains dealing post calls effect bridge
  | .notify _ next, calls, effect, bridge => next.Attains dealing post calls effect bridge
  | .remark _ next, calls, effect, bridge => next.Attains dealing post calls effect bridge

namespace Attains

variable {dealing : Dealing} {calls : List Call} {effect : Option Nat} {bridge : Bridge}

theorem weaken {program : Program α} {post weaker : List Call → Option Nat → Bridge → α → Prop}
    (hprogram : program.Attains dealing post calls effect bridge)
    (himplies : ∀ calls effect bridge result, post calls effect bridge result →
      weaker calls effect bridge result) :
    program.Attains dealing weaker calls effect bridge := by
  induction program generalizing calls effect bridge with
  | done result => exact himplies _ _ _ _ hprogram
  | call request rest ih => exact fun reply after hspared ↦ ih reply (hprogram reply after hspared)
  | read rest ih => exact ih bridge hprogram
  | write changed rest ih =>
    rcases hprogram with ⟨hsame, hrest⟩ | ⟨hnone, heffects, hrest⟩
    · exact .inl ⟨hsame, ih hrest⟩
    · exact .inr ⟨hnone, heffects, ih hrest⟩
  | thread rest ih => exact fun running ↦ ih running (hprogram running)
  | notify notice rest ih => exact ih hprogram
  | remark note rest ih => exact ih hprogram

theorem bind {program : Program α} {next : α → Program β}
    {post : List Call → Option Nat → Bridge → β → Prop}
    (hprogram : program.Attains dealing
      (fun calls effect bridge value ↦ (next value).Attains dealing post calls effect bridge)
      calls effect bridge) :
    (program >>= next).Attains dealing post calls effect bridge := by
  rw [bind_eq_bind]
  induction program generalizing calls effect bridge with
  | done result => exact hprogram
  | call request rest ih => exact fun reply after hspared ↦ ih reply (hprogram reply after hspared)
  | read rest ih => exact ih bridge hprogram
  | write changed rest ih =>
    rcases hprogram with ⟨hsame, hrest⟩ | ⟨hnone, heffects, hrest⟩
    · exact .inl ⟨hsame, ih hrest⟩
    · exact .inr ⟨hnone, heffects, ih hrest⟩
  | thread rest ih => exact fun running ↦ ih running (hprogram running)
  | notify notice rest ih => exact ih hprogram
  | remark note rest ih => exact ih hprogram

variable {post : List Call → Option Nat → Bridge → α → Prop}

/-- A program that leaves the tables alone has no effect. -/
theorem of_leavesTables {program : Program α} (hprogram : program.LeavesTables)
    (hpost : ∀ more after value, dealing.Spared bridge after →
      post (calls ++ more) effect after value) :
    program.Attains dealing post calls effect bridge := by
  have hfrom := hprogram bridge
  clear hprogram
  induction program generalizing calls bridge with
  | done result =>
    have hresult := hpost [] bridge result (.refl bridge)
    rw [List.append_nil] at hresult
    exact hresult
  | call request rest ih =>
    refine fun reply after hspared ↦ ih reply (fun more later value hlater ↦ ?_) (hfrom reply after)
    rw [List.append_assoc]
    exact hpost _ later value (hspared.trans hlater)
  | read rest ih => exact ih bridge hpost hfrom
  | write changed rest ih =>
    refine .inl ⟨hfrom.1, ih (fun more later value hlater ↦ ?_) hfrom.2⟩
    exact hpost more later value ((Dealing.spared_of_same hfrom.1).trans hlater)
  | thread rest ih => exact fun running ↦ ih running hpost (hfrom running)
  | notify notice rest ih => exact ih hpost hfrom
  | remark note rest ih => exact ih hpost hfrom

/-- What leaves the tables alone may come first. -/
theorem after {program : Program α} {next : α → Program β}
    {post : List Call → Option Nat → Bridge → β → Prop} (hprogram : program.LeavesTables)
    (hnext : ∀ more after value, dealing.Spared bridge after →
      (next value).Attains dealing post (calls ++ more) effect after) :
    (program >>= next).Attains dealing post calls effect bridge :=
  bind (of_leavesTables hprogram hnext)

/-- In a sequence of operations a failure of the first one has no effect. -/
theorem andThen {operation : Fallible α} {next : α → Fallible β}
    {post : List Call → Option Nat → Bridge → Except Error β → Prop}
    (hoperation : operation.LeavesTables)
    (hfailure : ∀ calls bridge error, post calls effect bridge (.error error))
    (hnext : ∀ more after value, dealing.Spared bridge after →
      (next value).run.Attains dealing post (calls ++ more) effect after) :
    (operation >>= next).run.Attains dealing post calls effect bridge := by
  rw [ExceptT.run_bind]
  refine after hoperation ?_
  rintro more later (error | value) hspared
  · exact hfailure _ later error
  · exact hnext more later value hspared

theorem liftThen {program : Program α} {next : α → Fallible β}
    {post : List Call → Option Nat → Bridge → Except Error β → Prop}
    (hprogram : program.Attains dealing
      (fun calls effect bridge value ↦ (next value).run.Attains dealing post calls effect bridge)
      calls effect bridge) :
    (liftM program >>= next : Fallible β).run.Attains dealing post calls effect bridge := by
  rw [Fallible.run_lift_bind]
  exact bind hprogram

/-- A release at the end of a scope leaves what was attained. -/
theorem scope {body : Fallible α} {reference : LocalReference}
    {post : List Call → Option Nat → Bridge → Except Error α → Prop}
    (hpost : ∀ calls effect bridge result more after, post calls effect bridge result →
      post (calls ++ more) effect after result)
    (hbody : body.run.Attains dealing post calls effect bridge) :
    (reference.scope body).run.Attains dealing post calls effect bridge := by
  refine bind (hbody.weaken fun calls effect bridge result hresult ↦ ?_)
  refine after reference.writes_drop.leavesTables fun more later _ _ ↦ ?_
  exact hpost _ _ _ _ _ later hresult

end Attains

end Program

/-! ## What each dealing attains -/

namespace Dealing

open Program

/-- Making calls does not change how a dealing ended. -/
theorem Ends.more {dealing : Dealing} {calls : List Call} {effect : Option Nat}
    {result : dealing.Result} (hends : dealing.Ends calls effect result) (more : List Call) :
    dealing.Ends (calls ++ more) effect result := by
  rcases dealing with _ | _ | _
  · exact hends
  · cases result with
    | error error => exact hends
    | ok done =>
      obtain ⟨index, pointer, receiver, name, heffect, hreceiver, hmem⟩ := hends
      exact ⟨index, pointer, receiver, name, heffect, hreceiver, List.mem_append_left _ hmem⟩
  · exact hends

/-- The program of a dealing has the effect that the dealing ends with. -/
abbrev Succeeds (dealing : Dealing) (bridge : Bridge) : Prop :=
  dealing.program.Attains dealing (fun calls effect _ result ↦ dealing.Ends calls effect result)
    [] none bridge

/-- The number of the new table is the one that the builder gets. -/
theorem attains_newTable (env : Env) (interface : String) (reference : GlobalReference)
    (registerMethod createMethod : MethodId) (calls : List Call) (bridge : Bridge) :
    (do
      let table ← newTable env.lifecycle
      return ⟨interface, reference, registerMethod, createMethod, table⟩ :
        Fallible Builder).run.Attains (.make env interface)
      (fun calls effect _ result ↦ Ends (.make env interface) calls effect result)
      calls none bridge :=
  Attains.liftThen (.inr ⟨rfl, ⟨rfl, rfl⟩, rfl⟩)

theorem succeeds_make (env : Env) (interface : String) (bridge : Bridge) :
    (Dealing.make env interface).Succeeds bridge := by
  have hfailure : ∀ (calls : List Call) (bridge : Bridge) (error : Error),
      Ends (.make env interface) calls none (.error error) := fun _ _ _ ↦ rfl
  have hmore : ∀ (calls : List Call) (effect : Option Nat) (bridge : Bridge)
      (result : Except Error Builder) (more : List Call) (after : Bridge),
      Ends (.make env interface) calls effect result →
        Ends (.make env interface) (calls ++ more) effect result :=
    fun _ _ _ _ more _ hends ↦ hends.more more
  refine Attains.andThen (writes_bindForwarding env).leavesTables hfailure fun _ bridge _ _ ↦ ?_
  refine Attains.andThen (env.writes_findClass _).leavesTables hfailure
    fun _ bridge classObject _ ↦ ?_
  refine Attains.scope hmore ?_
  refine Attains.andThen (env.writes_findMethod _ _ _ _).leavesTables hfailure fun _ bridge _ _ ↦ ?_
  refine Attains.andThen (env.writes_findMethod _ _ _ _).leavesTables hfailure fun _ bridge _ _ ↦ ?_
  refine Attains.andThen (env.writes_findMethod _ _ _ _).leavesTables hfailure fun _ bridge _ _ ↦ ?_
  refine Attains.andThen (env.writes_newString _).leavesTables hfailure fun _ bridge _ _ ↦ ?_
  refine Attains.scope hmore ?_
  refine Attains.andThen ((env.writes_newObject _ _ _).withReason _).leavesTables hfailure
    fun _ bridge _ _ ↦ ?_
  refine Attains.scope hmore ?_
  refine Attains.andThen (env.writes_newGlobal _).leavesTables hfailure fun _ bridge _ _ ↦ ?_
  exact attains_newTable env interface _ _ _ _ bridge

/-- A call that returns nothing has been made if it succeeded. -/
theorem attains_callVoid {dealing : Dealing} (env : Env) (receiver : Option Handle)
    (method : MethodId) (arguments : List Argument) (text : String) {calls : List Call}
    {effect : Option Nat} {bridge : Bridge}
    {post : List Call → Option Nat → Bridge → Except Error Unit → Prop}
    (hfailure : ∀ calls bridge error, post calls effect bridge (.error error))
    (hsuccess : ∀ more after object, dealing.Spared bridge after → receiver = some object →
      .env env.pointer (.callVoid object method arguments) ∈ more →
        post (calls ++ more) effect after (.ok ())) :
    ((env.callVoid receiver method arguments).withReason text).run.Attains dealing post calls
      effect bridge := by
  have hreason : ∀ (calls : List Call) (bridge : Bridge) (error : Error),
      (Except.error <$> (do
        error.drop
        return Error.causedBy text error) : Program (Except Error Unit)).Attains dealing post calls
          effect bridge := by
    intro calls bridge error
    rw [← bind_pure_comp]
    have hdrop : (do error.drop; return Error.causedBy text error : Program Error).Writes
        Bridge.SameTables :=
      error.writes_drop.bind fun _ ↦ .done
    refine Attains.after hdrop.leavesTables fun more later changed _ ↦ ?_
    exact hfailure _ later changed
  refine Attains.bind ?_
  cases receiver with
  | none => exact hreason calls bridge _
  | some object =>
    intro reply after hspared
    refine Attains.of_leavesTables env.writes_catchPending.leavesTables ?_
    rintro more later (error | ⟨⟨⟩⟩) hlater
    · exact hreason _ later error
    · have hpost := hsuccess (.env env.pointer (.callVoid object method arguments) :: more) later
        object (hspared.trans hlater) rfl List.mem_cons_self
      rw [List.append_cons] at hpost
      exact hpost

/-- A callback is registered under the index that Java has been told. -/
theorem succeeds_register (builder : Builder) (env : Env) (name : String)
    (callback : Host.Callback) {bridge : Bridge} {table : CallbackTable}
    (hfound : bridge.tables.find? builder.table = some table) :
    (Dealing.register builder env name callback).Succeeds bridge := by
  have hfailure : ∀ (calls : List Call) (bridge : Bridge) (error : Error),
      Ends (.register builder env name callback) calls none (.error error) := fun _ _ _ ↦ rfl
  have hsize : ∀ {after : Bridge}, after.tables.find? builder.table = some table →
      after.tableSize builder.table = table.callbacks.size := by
    intro after hafter
    rw [Bridge.tableSize, hafter]
    rfl
  refine Attains.liftThen ?_
  refine Attains.andThen (env.writes_newString _).leavesTables hfailure
    fun more middle javaName hspared ↦ ?_
  refine Attains.scope (fun _ _ _ _ more _ hends ↦ hends.more more) ?_
  rw [ExceptT.run_bind]
  refine Attains.bind (attains_callVoid env _ _ _ _ hfailure ?_)
  intro more' last object hlast hreceiver hmem
  have hkept : last.tables.find? builder.table = some table :=
    (hspared.trans hlast _ rfl).trans hfound
  have hpush : (builder.push callback).Attains (.register builder env name callback)
      (fun calls effect _ _ ↦ Ends (.register builder env name callback) calls effect (.ok ()))
      ([] ++ more ++ more') none last := by
    refine .inr ⟨rfl, ⟨table, hkept, ?_⟩, ?_⟩
    · simp only [hkept, and_self]
    · refine ⟨_, env.pointer, object, javaName.raw, rfl, hreceiver, List.mem_append_right _ ?_⟩
      rw [number, hsize hkept, ← hsize hfound]
      exact hmem
  exact Attains.bind hpush

theorem succeeds_drop (builder : Builder) {bridge : Bridge} {table : CallbackTable}
    (hfound : bridge.tables.find? builder.table = some table) :
    (Dealing.drop builder).Succeeds bridge := by
  have hrelease : ∀ bridge, builder.invocation.drop.Attains (.drop builder)
      (fun calls effect _ result ↦ Ends (.drop builder) calls effect result) []
      (some builder.table) bridge :=
    fun _ ↦ Attains.of_leavesTables builder.invocation.writes_drop.leavesTables fun _ _ _ _ ↦ rfl
  exact Attains.bind (.inr ⟨rfl, ⟨⟨table, hfound⟩, rfl, rfl⟩, hrelease _⟩)

end Dealing

end JavaInterop
