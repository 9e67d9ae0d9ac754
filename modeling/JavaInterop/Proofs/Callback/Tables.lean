import JavaInterop.Proofs.Environment.Writes

/-!
# Who touches the tables of callbacks

The tables of callbacks and the numbers for them are in the hands of builders alone.  All the other
parts of an operation leave them as they are: finding classes, calling methods, catching exceptions,
attaching threads and releasing references.

`Program.LeavesTables` says so of a program without any assumption about the machines or about other
threads: only the changes that the program makes itself are looked at, and during each of its calls
the bridge may become any other one.
-/

namespace JavaInterop

variable [Host] {α β : Type}

/-- No table of callbacks has changed, and no number has been given to one. -/
structure Bridge.SameTables (before after : Bridge) : Prop where
  tables : after.tables = before.tables
  nextTable : after.nextTable = before.nextTable

namespace Bridge.SameTables

theorem refl (bridge : Bridge) : bridge.SameTables bridge := ⟨rfl, rfl⟩

theorem trans {first middle last : Bridge} (hfirst : first.SameTables middle)
    (hlast : middle.SameTables last) : first.SameTables last :=
  ⟨hlast.tables.trans hfirst.tables, hlast.nextTable.trans hfirst.nextTable⟩

end Bridge.SameTables

namespace Program

/-- No change that the program makes itself touches a table, if it starts with the given bridge. -/
def LeavesTablesFrom : Program α → Bridge → Prop
  | .done _, _ => True
  | .call _ next, _ => ∀ reply bridge, (next reply).LeavesTablesFrom bridge
  | .read next, bridge => (next bridge).LeavesTablesFrom bridge
  | .write changed next, bridge => bridge.SameTables changed ∧ next.LeavesTablesFrom changed
  | .thread next, bridge => ∀ running, (next running).LeavesTablesFrom bridge
  | .notify _ next, bridge => next.LeavesTablesFrom bridge
  | .remark _ next, bridge => next.LeavesTablesFrom bridge

/-- No change that the program makes itself touches a table. -/
def LeavesTables (program : Program α) : Prop := ∀ bridge, program.LeavesTablesFrom bridge

/-- A program leaves the tables alone if all that it writes does. -/
theorem Writes.leavesTables {program : Program α} (hwrites : program.Writes Bridge.SameTables) :
    program.LeavesTables := by
  intro bridge
  have hfrom := hwrites bridge
  clear hwrites
  induction program generalizing bridge with
  | done result => trivial
  | call request rest ih => exact fun reply after ↦ ih reply after (hfrom reply after)
  | read rest ih => exact ih bridge bridge hfrom
  | write changed rest ih => exact ⟨hfrom.1, ih changed hfrom.2⟩
  | thread rest ih => exact fun running ↦ ih running bridge (hfrom running)
  | notify notice rest ih | remark note rest ih => exact ih bridge hfrom

end Program

/-- The books of attaching and detaching are kept elsewhere. -/
instance : Bridge.Bookkeeping Bridge.SameTables :=
  ⟨fun _ _ _ ↦ ⟨rfl, rfl⟩, fun _ _ _ ↦ ⟨rfl, rfl⟩⟩

/-- All that binding the entry point for callbacks changes besides the books is what is remembered
of it. -/
theorem writes_bindForwarding_of {allowed : Bridge → Bridge → Prop} [Bridge.Bookkeeping allowed]
    (env : Env) (hremember : ∀ bridge : Bridge,
      allowed bridge { bridge with boundIn := some env.generation }) :
    (bindForwarding env).Writes allowed := by
  refine .liftThen .state fun bridge ↦ ?_
  split
  · exact .succeed
  · refine .andThen (env.writes_findClass _) fun classObject ↦ .scope ?_ classObject
    refine .andThen .done fun method ↦ ?_
    refine .andThen ((env.writes_registerNatives _ _).withReason _) fun _ ↦ ?_
    exact .lift (.update hremember)

/-- Binding the entry point for callbacks is remembered, but not in a table. -/
theorem writes_bindForwarding (env : Env) : (bindForwarding env).Writes Bridge.SameTables :=
  writes_bindForwarding_of env fun _ ↦ ⟨rfl, rfl⟩

/-- All that making the invocation object changes besides the books is the new table. -/
theorem Builder.writes_furnish_of {allowed : Bridge → Bridge → Prop} [Bridge.Bookkeeping allowed]
    (env : Env) (interface : String) (htable : ∀ bridge : Bridge, allowed bridge
      { bridge with
        nextTable := bridge.nextTable + 1
        tables := bridge.tables.insert bridge.nextTable ⟨env.lifecycle, #[]⟩ }) :
    (Builder.furnish env interface).Writes allowed := by
  have hnew : (newTable env.lifecycle).Writes allowed :=
    Program.Writes.state.bind fun bridge ↦ (Program.Writes.update htable).bind fun _ ↦ .done
  refine .andThen (env.writes_findClass _) fun classObject ↦ .scope ?_ classObject
  refine .andThen (env.writes_findMethod _ _ _ _) fun registerMethod ↦ ?_
  refine .andThen (env.writes_findMethod _ _ _ _) fun createMethod ↦ ?_
  refine .andThen (env.writes_findMethod _ _ _ _) fun constructor ↦ ?_
  refine .andThen (env.writes_newString _) fun name ↦ .scope ?_ name
  refine .andThen ((env.writes_newObject _ _ _).withReason _) fun object ↦ .scope ?_ object
  refine .andThen (env.writes_newGlobal _) fun invocation ↦ ?_
  exact .liftThen hnew fun table ↦ .succeed

end JavaInterop
